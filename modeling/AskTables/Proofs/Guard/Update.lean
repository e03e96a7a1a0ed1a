import AskTables.Proofs.Guard.Framed
import AskTables.Proofs.Guard.Mention
import AskTables.Proofs.Text.Ascii
import Mathlib.Data.List.Basic

/-!
# What may stand between `UPDATE` and `SET`

The entry of the denylist for `UPDATE` allows one more word before `SET`, which is the name of the
table.  A statement may have more words there: an alias, `AS`, or a second table.

A text of words and blanks in turn can be split into them in one way only, so the number of words in
a gap is determined by its text (`Words.unique`).  A gap of two words or more is then not one that
the entry allows, unless it holds a second `UPDATE` or `SET`.  Every other command is written with an
`L` or an `R`.  So the guard lets a text through that has a long gap and none of these letters in it:
this is `not_refused_of_words`.
-/

namespace AskTables

open Text (isBlank IsBlankRun)

/-- Where a run ends is determined by the text. -/
theorem Text.append_inj_of_runs {p : Char → Bool} {w w' u u' : List Char}
    (hw : ∀ c ∈ w, p c = true) (hw' : ∀ c ∈ w', p c = true) (hu : ∀ c ∈ u.head?, p c = false)
    (hu' : ∀ c ∈ u'.head?, p c = false) (h : w ++ u = w' ++ u') : w = w' ∧ u = u' := by
  obtain ⟨htake, hdrop⟩ := Text.span_run hw hu
  obtain ⟨htake', hdrop'⟩ := Text.span_run hw' hu'
  exact ⟨by rw [← htake, h, htake'], by rw [← hdrop, h, hdrop']⟩

/-- A character of a kind that stands in one place of a text stands there. -/
theorem Text.append_cons_inj_of_only {p : Char → Prop} {x z x' z' : List Char} {c d : Char}
    (hx : ∀ e ∈ x, ¬ p e) (hz : ∀ e ∈ z, ¬ p e) (hd : p d) (h : x ++ c :: z = x' ++ d :: z') :
    x = x' ∧ z = z' := by
  obtain ⟨hxx, _, hzz⟩ := (List.append_cons_inj_of_notMem (fun hm => hx d hm hd)
    (fun hm => hz d hm hd)).1 h
  exact ⟨hxx, hzz⟩

namespace Guard

open Pattern (Spells Firm)

/-! ## Gaps -/

/-- So many words, with blanks behind each. -/
inductive Words : Nat → List Char → Prop where
  | nil : Words 0 []
  | word {n w g t} : w ≠ [] → (∀ c ∈ w, isBlank c = false) → IsBlankRun g → Words n t →
      Words (n + 1) (w ++ (g ++ t))

namespace Words

variable {n : Nat} {t : List Char}

theorem isBlank_head (h : Words n t) : ∀ c ∈ t.head?, isBlank c = false := by
  cases h with
  | nil =>
      intro c hc
      cases hc
  | @word n w g t hne hink _ _ =>
      intro c hc
      obtain ⟨d, w, rfl⟩ := List.exists_cons_of_ne_nil hne
      cases hc
      exact hink c (by simp)

/-- Blanks in front of two gaps are the same as soon as the texts are. -/
theorem eq_of_blanks {m : Nat} {g g' t' : List Char} (h : Words m t) (h' : Words n t')
    (hg : IsBlankRun g) (hg' : IsBlankRun g') (he : g ++ t = g' ++ t') : t = t' :=
  (Text.append_inj_of_runs hg.2 hg'.2 h.isBlank_head h'.isBlank_head he).2

/-- The number of words in a gap is determined by its text. -/
theorem unique {m : Nat} (h : Words m t) (h' : Words n t) : m = n := by
  induction h generalizing n with
  | nil =>
      generalize ht : [] = t at h'
      cases h' with
      | nil => rfl
      | word hne _ _ _ => exact absurd (List.nil_eq_append_iff.1 ht).1 hne
  | @word m w g t hne hink hg h ih =>
      generalize ht : w ++ (g ++ t) = t' at h'
      cases h' with
      | nil => exact absurd (List.append_eq_nil_iff.1 ht).1 hne
      | @word n w' g' t' _ hink' hg' h' =>
          have hhead {g : List Char} (hg : IsBlankRun g) (t : List Char) :
              ∀ c ∈ (g ++ t).head?, (!isBlank c) = false := by
            intro c hc
            obtain ⟨d, g, rfl⟩ := List.exists_cons_of_ne_nil hg.1
            cases hc
            simp [hg.2 c]
          obtain ⟨_, hrest⟩ := Text.append_inj_of_runs (p := fun c => !isBlank c)
            (by simpa using hink) (by simpa using hink') (hhead hg t) (hhead hg' t') ht
          have hsame := h.eq_of_blanks h' hg hg' hrest
          subst hsame
          rw [ih h']

/-- There are gaps with any number of words. -/
theorem replicate (n : Nat) : Words n (List.replicate n ['x', ' ']).flatten := by
  induction n with
  | zero => exact .nil
  | succ n ih =>
      rw [List.replicate_succ, List.flatten_cons]
      have hx : isBlank 'x' = false := by decide
      exact .word (w := ['x']) (g := [' ']) (by simp) (by simp [hx])
        (Text.isBlankRun_iff.2 (by decide)) ih

end Words

/-! ## What the entry finds -/

/-- `SET` in any ASCII case, or with the third form of its first letter. -/
def IsSet (v : List Char) : Prop :=
  v.map Char.toLower = ['s', 'e', 't'] ∨ v.map Char.toLower = ['ſ', 'e', 't']

/-- `UPDATE` in any ASCII case, blanks, so many words with blanks behind each, and `SET`. -/
def IsUpdate (n : Nat) (s : List Char) : Prop :=
  ∃ u g t v, s = u ++ (g ++ (t ++ v)) ∧ u.map Char.toLower = ['u', 'p', 'd', 'a', 't', 'e'] ∧
    IsBlankRun g ∧ Words n t ∧ IsSet v

/-- Somewhere in a text `SET` comes after `UPDATE`, with so many words between them. -/
def HasUpdate (n : Nat) (s : List Char) : Prop := ∃ t, IsUpdate n t ∧ t <:+: s

theorem spells_set_iff {v : List Char} : (word ['S', 'E', 'T']).Spells v ↔ IsSet v := by
  constructor
  · intro h
    cases h with
    | seq hs hrest =>
        cases hs with
        | @char _ c hset =>
            have hlower := map_toLower_of_word (w := ['E', 'T']) (by decide) hrest
            have hcode := CharSet.code_of_accepts hset
            simp only [List.mem_cons, List.not_mem_nil, or_false, exists_eq_or_imp,
              exists_eq_left, Char.reduceToNat] at hcode
            have hc : c.toLower = 's' ∨ c.toLower = 'ſ' := by
              simp only [Text.eq_iff_toNat, Text.toNat_toLower, Char.reduceToNat]
              grind
            rw [IsSet, List.map_append, hlower]
            exact hc.imp (fun h => by simp [h]) fun h => by simp [h]
  · rintro (h | h)
    · exact spells_word h
    · obtain ⟨c, r, rfl, hc, hr⟩ := List.map_eq_cons_iff.1 h
      refine .seq (t := [c]) (.char ?_) (spells_word (w := ['E', 'T']) hr)
      exact (CharSet.accepts_of_toLower (d := c) (c := 'ſ') hc).trans (by decide)

/-- The entry for `UPDATE` has one word in the gap, or none. -/
theorem spells_update_iff {s : List Char} :
    Command.update.pattern.Spells s ↔ ∃ n ≤ 1, IsUpdate n s := by
  constructor
  · intro h
    cases h with
    | @seq _ _ u _ hu h =>
        cases h with
        | @seq _ _ g _ hg h =>
            have hu := map_toLower_of_word (w := ['U', 'P', 'D', 'A', 'T', 'E']) (by decide) hu
            have hg := Firm.spells_blanks_iff.1 hg
            rcases (spells_opt_word_iff _ _).1 h with hv | hone
            · exact ⟨0, by omega, u, g, [], _, rfl, hu, hg, .nil, spells_set_iff.1 hv⟩
            · cases hone with
              | @seq _ _ w _ hw hrest =>
                  cases hrest with
                  | @seq _ _ k v hk hv =>
                      obtain ⟨hne, hink⟩ := Pattern.spells_plus_char_iff.1 hw
                      have hwords : Words 1 (w ++ (k ++ [])) :=
                        .word hne (by simpa [CharSet.accepts] using hink)
                          (Firm.spells_blanks_iff.1 hk) .nil
                      exact ⟨1, by omega, u, g, w ++ (k ++ []), v, by simp, hu, hg, hwords,
                        spells_set_iff.1 hv⟩
  · rintro ⟨n, hn, u, g, t, v, rfl, hu, hg, ht, hv⟩
    refine .seq (spells_word hu) (.seq (Firm.spells_blanks_iff.2 hg)
      ((spells_opt_word_iff _ _).2 ?_))
    cases ht with
    | nil => exact .inl (spells_set_iff.2 hv)
    | @word n w k t hne hink hk ht =>
        obtain rfl : n = 0 := by omega
        cases ht
        rw [List.append_nil, List.append_assoc]
        refine .inr (.seq (Pattern.spells_plus_char_iff.2 ⟨hne, ?_⟩)
          (.seq (Firm.spells_blanks_iff.2 hk) (spells_set_iff.2 hv)))
        simpa [CharSet.accepts] using hink

/-- The pattern of the denylist allows one word at most between the two. -/
theorem occursIn_update_iff (s : List Char) :
    Command.update.pattern.occursIn s = true ↔ ∃ n ≤ 1, HasUpdate n s := by
  simp only [Pattern.occursIn_iff, spells_update_iff, HasUpdate]
  constructor
  · rintro ⟨t, ⟨n, hn, ht⟩, hsub⟩
    exact ⟨n, hn, t, ht, hsub⟩
  · rintro ⟨n, hn, t, ht, hsub⟩
    exact ⟨t, ⟨n, hn, ht⟩, hsub⟩

/-- The text is refused for an `UPDATE` with at most one word in the gap, or for another command. -/
theorem refused_iff (s : String) : (∃ command, check s = .error command) ↔
    (∃ n ≤ 1, HasUpdate n s.toList) ∨
      ∃ command : Command, command ≠ .update ∧ command.pattern.occursIn s.toList = true := by
  have hall (command : Command) : command ∈ Command.all := by cases command <;> decide
  simp only [check_eq_error_iff, ← Option.isSome_iff_exists, mentioned?, List.find?_isSome, hall,
    true_and, ← occursIn_update_iff]
  constructor
  · rintro ⟨command, h⟩
    by_cases hupdate : command = .update
    · exact .inl (hupdate ▸ h)
    · exact .inr ⟨command, hupdate, h⟩
  · rintro (h | ⟨command, _, h⟩)
    · exact ⟨.update, h⟩
    · exact ⟨command, h⟩

/-! ## What gets through -/

/-- Every other command is written with an `L` or an `R`. -/
theorem Command.exists_letter {command : Command} (hne : command ≠ .update) {s : List Char}
    (h : command.pattern.occursIn s = true) : ∃ c ∈ s, c.toLower = 'l' ∨ c.toLower = 'r' := by
  have hletter {front : List Char} (hfront : front.any (fun d => d == 'l' || d == 'r') = true)
      (hsub : front <:+: s.map Char.toLower) : ∃ c ∈ s, c.toLower = 'l' ∨ c.toLower = 'r' := by
    obtain ⟨d, hd, hlr⟩ := List.any_eq_true.1 hfront
    obtain ⟨c, hc, rfl⟩ := List.mem_map.1 (hsub.subset hd)
    exact ⟨c, hc, by simpa using hlr⟩
  have hfirst {halves : List Char × List Char} (hc : command.halves? = some halves) :
      halves.1 <:+: s.map Char.toLower := by
    obtain ⟨t, ht, hsub⟩ := (Pattern.occursIn_iff _ _).1 h
    obtain ⟨x, c, y, rfl, _, hx, _⟩ := command.parted hc ht
    refine (hx.trans ?_).trans (hsub.map Char.toLower)
    rw [List.map_append]
    exact (List.prefix_append _ _).isInfix
  cases command with
  | update => exact absurd rfl hne
  | dropTable => exact hletter (by decide) (hfirst rfl)
  | deleteFrom => exact hletter (by decide) (hfirst rfl)
  | insertInto => exact hletter (by decide) (hfirst rfl)
  | createTable => exact hletter (by decide) (hfirst rfl)
  | alterTable => exact hletter (by decide) (hfirst rfl)
  | truncate => exact hletter (by decide) ((occursIn_truncate_iff s).1 h)

/-- An `UPDATE` and a `SET` with a gap between them. -/
def updateText (t : List Char) : List Char :=
  ['U', 'P', 'D', 'A', 'T', 'E', ' '] ++ (t ++ ['S', 'E', 'T'])

/-- A text can be made with any number of words between the two. -/
theorem hasUpdate_updateText {n : Nat} {t : List Char} (h : Words n t) :
    HasUpdate n (updateText t) :=
  ⟨updateText t, ⟨['U', 'P', 'D', 'A', 'T', 'E'], [' '], t, ['S', 'E', 'T'], rfl, by decide,
    Text.isBlankRun_iff.2 (by decide), h, .inl (by decide)⟩, List.infix_refl _⟩

/-- `SET` begins with an s, or with the letter that is folded to one. -/
theorem IsSet.exists_cons {v : List Char} (h : IsSet v) :
    ∃ d w, v = d :: w ∧ d.toLower ∈ ['s', 'ſ'] := by
  rcases h with h | h
  · obtain ⟨d, w, rfl, hd, _⟩ := List.map_eq_cons_iff.1 h
    exact ⟨d, w, rfl, by simp [hd]⟩
  · obtain ⟨d, w, rfl, hd, _⟩ := List.map_eq_cons_iff.1 h
    exact ⟨d, w, rfl, by simp [hd]⟩

/-- Without another `U` or `S` there is no other way to read the text. -/
theorem Words.eq_of_hasUpdate {m n : Nat} {t : List Char} (h : Words n t)
    (ht : ∀ c ∈ t, c.toLower ∉ ['s', 'ſ', 'u']) (hm : HasUpdate m (updateText t)) : m = n := by
  obtain ⟨_, ⟨u, g, t', v, rfl, hu, hg, ht', hv⟩, x, y, he⟩ := hm
  -- The `U` is the first letter of the text.
  obtain ⟨c, u, rfl, hc, hu⟩ := List.map_eq_cons_iff.1 hu
  have hfirst : ∀ e ∈ ['P', 'D', 'A', 'T', 'E', ' '] ++ (t ++ ['S', 'E', 'T']),
      ¬ e.toLower = 'u' := by
    rw [List.forall_mem_append, List.forall_mem_append]
    exact ⟨by simp, fun e he heq => ht e he (by simp [heq]), by simp⟩
  have heU : [] ++ 'U' :: (['P', 'D', 'A', 'T', 'E', ' '] ++ (t ++ ['S', 'E', 'T'])) =
      x ++ c :: (u ++ (g ++ (t' ++ (v ++ y)))) := by
    simpa [updateText] using he.symm
  obtain ⟨-, heR⟩ := Text.append_cons_inj_of_only (by simp) hfirst hc heU
  have hlength : ['P', 'D', 'A', 'T', 'E'].length = u.length := by
    simpa using (congrArg List.length hu).symm
  have heR : ['P', 'D', 'A', 'T', 'E'] ++ (' ' :: t ++ ['S', 'E', 'T']) =
      u ++ (g ++ (t' ++ (v ++ y))) := heR
  have heG := (List.append_inj heR hlength).2
  -- The `S` is the third letter from its end.
  obtain ⟨d, v, rfl, hd⟩ := hv.exists_cons
  have hlast : ∀ e ∈ ' ' :: t, ¬ e.toLower ∈ ['s', 'ſ'] := by
    rw [List.forall_mem_cons]
    exact ⟨by simp, fun e he hmem => ht e he (List.subset_append_left ['s', 'ſ'] ['u'] hmem)⟩
  have heS : (' ' :: t) ++ 'S' :: ['E', 'T'] = (g ++ t') ++ d :: (v ++ y) := by simpa using heG
  obtain ⟨hgap, -⟩ := Text.append_cons_inj_of_only hlast (by simp) hd heS
  have hspace : IsBlankRun [' '] := Text.isBlankRun_iff.2 (by decide)
  have hsame := h.eq_of_blanks ht' hspace hg hgap
  subst hsame
  exact ht'.unique h

/-- Without another `L`, `R`, `S` or `U` a gap of more than one word gets through. -/
theorem not_refused_of_words {n : Nat} {t : List Char} (hn : 1 < n) (h : Words n t)
    (ht : ∀ c ∈ t, c.toLower ∉ ['l', 'r', 's', 'ſ', 'u']) :
    ¬ ∃ command, check (String.ofList (updateText t)) = .error command := by
  rw [refused_iff, String.toList_ofList]
  rintro (⟨m, hm, hupdate⟩ | ⟨command, hne, hoccurs⟩)
  · have heq := h.eq_of_hasUpdate
      (fun c hc hmem => ht c hc (List.subset_append_right ['l', 'r'] _ hmem)) hupdate
    omega
  · obtain ⟨c, hc, hletter⟩ := command.exists_letter hne hoccurs
    have hnone : ∀ c ∈ updateText t, ¬ (c.toLower = 'l' ∨ c.toLower = 'r') := by
      rw [updateText, List.forall_mem_append, List.forall_mem_append]
      refine ⟨by simp, fun c hc hlr => ht c hc ?_, by simp⟩
      rcases hlr with hl | hr
      · simp [hl]
      · simp [hr]
    exact hnone c hc hletter

/-- The guard refuses an `UPDATE` with no word or one between `UPDATE` and `SET`, wherever it stands
and in any case, and every other text only for another command.  It refuses all texts with `n` words
in between just when `n` is at most one. -/
theorem refuses_update_iff (s : String) (n : Nat) :
    ((∃ command, check s = .error command) ↔
      (∃ m ≤ 1, HasUpdate m s.toList) ∨
        ∃ command : Command, command ≠ .update ∧ command.pattern.occursIn s.toList = true) ∧
    ((∀ t : String, HasUpdate n t.toList → ∃ command, check t = .error command) ↔ n ≤ 1) := by
  refine ⟨refused_iff s, fun h => ?_, fun hn t ht => (refused_iff t).2 (.inl ⟨n, hn, ht⟩)⟩
  by_contra hlong
  have hwords := Words.replicate n
  refine not_refused_of_words (by omega) hwords ?_ (h _ ?_)
  · intro c hc
    obtain ⟨l, hl, hcl⟩ := List.mem_flatten.1 hc
    rw [List.eq_of_mem_replicate hl] at hcl
    have hplain : ∀ c ∈ ['x', ' '], c.toLower ∉ ['l', 'r', 's', 'ſ', 'u'] := by simp
    exact hplain c hcl
  · rw [String.toList_ofList]
    exact hasUpdate_updateText hwords

/-- The table is renamed, and the statement is let through. -/
theorem check_update_renamed :
    let s := "UPDATE customers AS c SET age = 1"
    HasUpdate 3 s.toList ∧ check s = .ok s := by
  intro s
  have hwords : Words 3 "customers AS c ".toList := by
    have hspace : IsBlankRun [' '] := Text.isBlankRun_iff.2 (by decide)
    have hink {w : List Char} (h : w.all (fun c => !isBlank c) = true) :
        ∀ c ∈ w, isBlank c = false := by simpa using h
    exact .word (w := "customers".toList) (by decide) (hink (by decide)) hspace
      (.word (w := "AS".toList) (by decide) (hink (by decide)) hspace
        (.word (w := "c".toList) (by decide) (hink (by decide)) hspace .nil))
  have hupdate : IsUpdate 3 "UPDATE customers AS c SET".toList :=
    ⟨"UPDATE".toList, [' '], _, "SET".toList, by decide, by decide,
      Text.isBlankRun_iff.2 (by decide), hwords, .inl (by decide)⟩
  exact ⟨⟨_, hupdate, [], " age = 1".toList, by decide⟩,
    check_eq_ok_iff.2 ⟨by decide +kernel, by decide +kernel⟩⟩

end Guard

end AskTables
