import AskTables.Guard
import AskTables.Proofs.Pattern.Case
import AskTables.Proofs.Pattern.Complete
import AskTables.Proofs.Text.Respaced
import Mathlib.Data.List.Basic

/-!
# Mentions cannot be hidden

A mention of a command stays one when text is put around it, when letters change their case and when
blanks between words are replaced by others.  The first two hold of every pattern.  The last is a
property of the patterns of the denylist: their texts begin and end with a character that is not
blank, and where they have blanks they may have any.

`Guard.check_stable` is what follows for the guard.
-/

namespace AskTables

open Text (isBlank IsBlankRun IsBounded Respaced)

namespace Pattern

/-! ## Patterns and blanks -/

/-- The texts of a pattern are bounded, and stay texts when blanks are replaced. -/
structure Firm (p : Pattern) : Prop where
  bounded : ∀ {t}, p.Spells t → IsBounded t
  respaced : ∀ {t u}, p.Spells t → Respaced t u → p.Spells u

namespace Firm

variable {p q r : Pattern}

/-- A pattern without blanks is firm, since nothing of it can be replaced. -/
theorem of_ink (h : ∀ t, p.Spells t → t ≠ [] ∧ ∀ c ∈ t, isBlank c = false) : p.Firm := by
  constructor
  · intro t ht
    exact Text.isBounded_of_ink (h t ht).1 (h t ht).2
  · intro t u ht hu
    rw [hu.eq_of_ink (h t ht).2]
    exact ht

/-- Between two words any blanks may stand. -/
theorem spells_blanks_iff {g : List Char} : Guard.blanks.Spells g ↔ IsBlankRun g :=
  spells_plus_char_iff

/-- Two firm patterns with blanks between them. -/
theorem blanks (hp : p.Firm) (hq : q.Firm) : (seq p (seq Guard.blanks q)).Firm := by
  constructor
  · intro s hs
    cases hs with
    | seq ht hs =>
        cases hs with
        | @seq _ _ g u _ hu => exact (hp.bounded ht).append (hq.bounded hu) g
  · intro s v hs hv
    cases hs with
    | @seq _ _ t _ ht hs =>
        cases hs with
        | @seq _ _ g u hg hu =>
            obtain ⟨x, t', m, rfl, hx, ht', hm⟩ := hv.split_bounded (x := []) (hp.bounded ht)
            rw [← List.append_nil u] at hm
            obtain ⟨g', u', y, rfl, hg', hu', hy⟩ := hm.split_bounded (hq.bounded hu)
            have hrun := hg'.isBlankRun (spells_blanks_iff.1 hg)
            rw [hx.eq_nil, hy.eq_nil, List.append_nil, List.nil_append]
            exact .seq (hp.respaced ht ht')
              (.seq (spells_blanks_iff.2 hrun) (hq.respaced hu hu'))

/-- Two firm patterns make a firm choice. -/
theorem or (hq : q.Firm) (hr : r.Firm) (h : ∀ t, p.Spells t ↔ q.Spells t ∨ r.Spells t) :
    p.Firm := by
  constructor
  · intro t ht
    rcases (h t).1 ht with ht | ht
    · exact hq.bounded ht
    · exact hr.bounded ht
  · intro t u ht hu
    rcases (h t).1 ht with ht | ht
    · exact (h u).2 (.inl (hq.respaced ht hu))
    · exact (h u).2 (.inr (hr.respaced ht hu))

/-- A firm pattern is found whatever blanks stand in the text. -/
theorem occursIn_of_respaced (hp : p.Firm) {s u : List Char} (h : p.occursIn s = true)
    (hu : Respaced s u) : p.occursIn u = true := by
  obtain ⟨t, ht, x, y, rfl⟩ := (occursIn_iff p s).1 h
  rw [List.append_assoc] at hu
  obtain ⟨x', t', y', rfl, _, ht', _⟩ := hu.split_bounded (hp.bounded ht)
  exact (occursIn_iff p _).2 ⟨t', hp.respaced ht ht', x', y', by rw [List.append_assoc]⟩

theorem occursIn_of_trimChars (hp : p.Firm) {s : List Char} (h : p.occursIn s = true) :
    p.occursIn (Text.trimChars s) = true := by
  obtain ⟨t, ht, hsub⟩ := (occursIn_iff p s).1 h
  obtain ⟨l, r, hl, hr, he⟩ := Text.exists_blanks_trimChars s
  rw [he] at hsub
  exact (occursIn_iff p _).2 ⟨t, ht, (hp.bounded ht).infix_of_blanks hl hr hsub⟩

end Firm

end Pattern

namespace Guard

open Pattern (Spells Firm)

/-! ## The denylist -/

/-- Whatever writes a letter that is not blank is not blank. -/
theorem isBlank_of_letter {c : Char} {t : List Char} (hc : isBlank c = false)
    (h : (letter c).Spells t) : t ≠ [] ∧ ∀ d ∈ t, isBlank d = false := by
  unfold letter at h
  split at h
  · cases h with
    | @char _ d hset =>
        have hcode := CharSet.code_of_accepts hset
        simp only [List.mem_cons, List.not_mem_nil, or_false, exists_eq_or_imp, exists_eq_left,
          Char.reduceToNat] at hcode
        refine ⟨List.cons_ne_nil _ _, fun e he => ?_⟩
        rw [List.mem_singleton.1 he]
        simp only [isBlank, Text.blankRanges, Text.inRanges]
        grind
  · cases h with
    | @char _ d hset =>
        refine ⟨List.cons_ne_nil _ _, fun e he => ?_⟩
        rw [List.mem_singleton.1 he]
        have hcase := CharSet.toLower_of_single hset
        exact (@CharSet.accepts_of_toLower .blank _ _ hcase).trans hc

/-- No letter of a word is matched by a blank. -/
theorem isBlank_of_word {w t : List Char} (hw : ∀ c ∈ w, isBlank c = false)
    (h : (word w).Spells t) : ∀ d ∈ t, isBlank d = false := by
  induction w generalizing t with
  | nil =>
      cases h
      simp
  | cons c w ih =>
      cases h with
      | seq hfirst hrest =>
          intro d hd
          rcases List.mem_append.1 hd with hd | hd
          · exact (isBlank_of_letter (hw c (by simp)) hfirst).2 d hd
          · exact ih (fun e he => hw e (by simp [he])) hrest d hd

theorem firm_word {w : List Char} (hw : w ≠ [] ∧ w.any isBlank = false) : (word w).Firm := by
  obtain ⟨hne, hany⟩ := hw
  have hw : ∀ c ∈ w, isBlank c = false := by simpa using hany
  refine .of_ink fun t ht => ⟨?_, isBlank_of_word hw ht⟩
  cases w with
  | nil => exact absurd rfl hne
  | cons c w =>
      cases ht with
      | seq hfirst _ =>
          have hc := (isBlank_of_letter (hw c (by simp)) hfirst).1
          simp [hc]

theorem firm_ink : (Pattern.plus (.char .ink)).Firm := by
  refine .of_ink fun t ht => ?_
  obtain ⟨hne, h⟩ := Pattern.spells_plus_char_iff.1 ht
  exact ⟨hne, fun c hc => by simpa [CharSet.accepts] using h c hc⟩

/-- A word may stand before a pattern, or not. -/
theorem spells_opt_word_iff (q : Pattern) (t : List Char) :
    (Pattern.seq (.opt (.seq (.plus (.char .ink)) blanks)) q).Spells t ↔
      q.Spells t ∨ (Pattern.seq (.plus (.char .ink)) (.seq blanks q)).Spells t := by
  constructor
  · intro h
    cases h with
    | seq ho hq =>
        cases ho with
        | skip _ => exact .inl hq
        | once h =>
            cases h with
            | seq hw hb =>
                rw [List.append_assoc]
                exact .inr (.seq hw (.seq hb hq))
        | round hne _ _ => exact absurd rfl hne
  · rintro (h | h)
    · exact .seq (.skip (by decide)) h
    · cases h with
      | seq hw h =>
          cases h with
          | seq hb hq =>
              rw [← List.append_assoc]
              exact .seq (.once (.seq hw hb)) hq

theorem firm_twoWords {v w : List Char} (hv : v ≠ [] ∧ v.any isBlank = false)
    (hw : w ≠ [] ∧ w.any isBlank = false) : (twoWords v w).Firm :=
  (firm_word hv).blanks (firm_word hw)

/-- All patterns of the denylist are firm. -/
theorem Command.firm_pattern (command : Command) : command.pattern.Firm := by
  cases command with
  | truncate => exact firm_word (w := ['T', 'R', 'U', 'N', 'C', 'A', 'T', 'E']) (by decide)
  | update =>
      have hupdate : (word ['U', 'P', 'D', 'A', 'T', 'E']).Firm := firm_word (by decide)
      have hset : (word ['S', 'E', 'T']).Firm := firm_word (by decide)
      exact hupdate.blanks (hset.or (firm_ink.blanks hset) (spells_opt_word_iff _))
  | dropTable => exact firm_twoWords (by decide) (by decide)
  | deleteFrom => exact firm_twoWords (by decide) (by decide)
  | insertInto => exact firm_twoWords (by decide) (by decide)
  | createTable => exact firm_twoWords (by decide) (by decide)
  | alterTable => exact firm_twoWords (by decide) (by decide)

/-! ## The verdict -/

/-- The number of the command found depends on which commands are mentioned. -/
theorem mentioned?_congr {s t : List Char}
    (h : ∀ command : Command, command.pattern.occursIn t = command.pattern.occursIn s) :
    mentioned? t = mentioned? s := by
  simp only [mentioned?, h]

/-- A mention does not depend on the case. -/
theorem mentioned?_of_toLower {s t : List Char} (h : t.map Char.toLower = s.map Char.toLower) :
    mentioned? t = mentioned? s :=
  mentioned?_congr fun _ => Pattern.occursIn_of_toLower h

theorem mentioned?_of_respaced {s t : List Char} (h : Respaced s t) :
    mentioned? t = mentioned? s := by
  refine mentioned?_congr fun command => Bool.eq_iff_iff.2 ⟨?_, ?_⟩
  · exact fun ht => command.firm_pattern.occursIn_of_respaced ht h.symm
  · exact fun hs => command.firm_pattern.occursIn_of_respaced hs h

theorem mentioned?_trimChars (s : List Char) : mentioned? (Text.trimChars s) = mentioned? s := by
  refine mentioned?_congr fun command => Bool.eq_iff_iff.2 ⟨?_, ?_⟩
  · intro h
    obtain ⟨l, r, _, _, he⟩ := Text.exists_blanks_trimChars s
    refine Pattern.occursIn_of_infix h ⟨l, r, ?_⟩
    rw [List.append_assoc, ← he]
  · exact command.firm_pattern.occursIn_of_trimChars

/-- The first entry of a list that passes a weaker test stands no later. -/
theorem idxOf_le_of_find? {α : Type} [DecidableEq α] {p q : α → Bool} {l : List α} {x : α}
    (hpq : ∀ a, p a = true → q a = true) (h : l.find? p = some x) :
    ∃ y, l.find? q = some y ∧ l.idxOf y ≤ l.idxOf x := by
  induction l with
  | nil => cases h
  | cons a l ih =>
      by_cases hq : q a = true
      · exact ⟨a, by simp [hq], by simp⟩
      · have hp : p a = false := by
          rw [Bool.eq_false_iff]
          exact fun hp => hq (hpq a hp)
        rw [List.find?_cons_of_neg (by simp [hp])] at h
        obtain ⟨y, hy, hle⟩ := ih h
        have hax : a ≠ x := by
          rintro rfl
          have := List.find?_some h
          rw [hp] at this
          cases this
        refine ⟨y, by rwa [List.find?_cons_of_neg hq], ?_⟩
        have hay : a ≠ y := by
          rintro rfl
          exact hq (List.find?_some hy)
        rw [List.idxOf_cons_ne _ hax, List.idxOf_cons_ne _ hay]
        exact Nat.succ_le_succ hle

/-- Text around a mention leaves it, and may bring in an earlier entry only. -/
theorem mentioned?_append {s : List Char} {command : Command} (h : mentioned? s = some command)
    (a b : List Char) : ∃ other, mentioned? (a ++ s ++ b) = some other ∧
      Command.all.idxOf other ≤ Command.all.idxOf command :=
  idxOf_le_of_find? (fun _ hs => Pattern.occursIn_of_infix hs ⟨a, b, rfl⟩) h

/-- The outer blanks of a text play no part. -/
theorem check_trim_iff (s r : String) : check s = .ok r ↔ check (Text.trim s) = .ok r := by
  rw [check_eq_ok_iff, check_eq_ok_iff, Text.trim, Text.trim, String.toList_ofList,
    mentioned?_trimChars, Text.trimChars_trimChars]

/-- No text that is refused gets past the guard by what is put around it, by the case of its letters
or by the width of its blanks, and the outer blanks of a text play no part.  The entry of the
denylist stays the same, except that more text may bring an earlier one in. -/
theorem check_stable (s : String) :
    (∀ command, check s = .error command →
      (∀ a b, ∃ other, check (a ++ s ++ b) = .error other ∧
        Command.all.idxOf other ≤ Command.all.idxOf command) ∧
      (∀ t : String, t.toList.map Char.toLower = s.toList.map Char.toLower →
        check t = .error command) ∧
      ∀ t : String, Respaced s.toList t.toList → check t = .error command) ∧
    (∀ r, check s = .ok r ↔ check (Text.trim s) = .ok r) ∧
    ∀ r, check s = .ok r → r = Text.trim s := by
  refine ⟨?_, check_trim_iff s, fun r hr => (check_eq_ok_iff.1 hr).2⟩
  intro command h
  rw [check_eq_error_iff] at h
  refine ⟨?_, ?_, ?_⟩
  · intro a b
    obtain ⟨other, hother, hle⟩ := mentioned?_append h a.toList b.toList
    refine ⟨other, ?_, hle⟩
    rw [check_eq_error_iff, String.toList_append, String.toList_append, hother]
  · intro t ht
    rw [check_eq_error_iff, mentioned?_of_toLower ht, h]
  · intro t ht
    rw [check_eq_error_iff, mentioned?_of_respaced ht, h]

/-- The first `UPDATE` is not the one that counts. -/
theorem check_stable_update :
    let s := "UPDATE UPDATE x SET"
    let wide := "UPDATE UPDATE\n x\t SET"
    check s = .error .update ∧
    (∃ other, check ("DROP " ++ s ++ " TABLE") = .error other ∧
      Command.all.idxOf other ≤ Command.all.idxOf .update) ∧
    check "update Update x sEt" = .error .update ∧
    Respaced s.toList wide.toList ∧ check wide = .error .update := by
  intro s wide
  have h : check s = .error .update := check_eq_error_iff.2 (by decide +kernel)
  have hwide : Respaced s.toList wide.toList := by
    have hfront := Respaced.refl "UPDATE UPDATE".toList
    have hgap : Respaced [' '] ['\n', ' '] :=
      .of_isBlankRun (Text.isBlankRun_iff.2 (by decide)) (Text.isBlankRun_iff.2 (by decide))
    have hgap' : Respaced [' '] ['\t', ' '] :=
      .of_isBlankRun (Text.isBlankRun_iff.2 (by decide)) (Text.isBlankRun_iff.2 (by decide))
    have h := ((hfront.append hgap).append (.refl ['x'])).append
      (hgap'.append (.refl ['S', 'E', 'T']))
    simpa [s, wide] using h
  obtain ⟨hpad, hcase, hblank⟩ := (check_stable s).1 .update h
  exact ⟨h, hpad "DROP " " TABLE", hcase _ (by decide +kernel), hwide, hblank wide hwide⟩

end Guard

end AskTables
