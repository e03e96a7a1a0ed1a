import AskTables.Guard
import AskTables.Proofs.Pattern.Complete
import AskTables.Text.Search
import Mathlib.Data.List.Infix

/-!
# A word in a frame

A *frame* is a text with a gap in it, and the gap is filled by one word.  The guard looks at the
whole text, so what it finds might lie across the edges of the gap.

Every entry of the denylist but the last asks for blanks inside a mention.  Since the word has none,
these blanks lie in the frame, and with them all that a mention has on one of its sides.  The last
entry is a single word of letters.  If the gap has no letter at its edges, that word lies either in
the frame or in the gap.

So in a frame that has neither half of a mention nor the last word, the guard finds nothing but that
word in the gap: this is `mentioned?_framed`.
-/

namespace AskTables

/-- A text without a character lies on one side of it. -/
theorem Text.infix_of_append_cons {u x y : List Char} {c : Char} (hc : c ∉ u)
    (h : u <:+: x ++ c :: y) : u <:+: x ∨ u <:+: y := by
  obtain ⟨p, q, he⟩ := h
  rw [List.append_assoc] at he
  rcases List.append_eq_append_iff.1 he with ⟨v, rfl, hv⟩ | ⟨v, rfl, hv⟩
  · rcases List.append_eq_append_iff.1 hv with ⟨w, rfl, _⟩ | ⟨w, rfl, hw⟩
    · exact .inl ⟨p, w, List.append_assoc ..⟩
    · cases w with
      | nil => exact .inl ⟨p, [], by simp⟩
      | cons d w =>
          cases hw
          exact absurd (by simp) hc
  · cases v with
    | nil =>
        cases u with
        | nil => exact .inr (List.nil_infix)
        | cons d u =>
            cases hv
            exact absurd (by simp) hc
    | cons d v =>
        cases hv
        exact .inr ⟨v, q, List.append_assoc ..⟩

namespace Guard

open Pattern (Spells)
open Text (isBlank)

/-! ## Words -/

/-- A letter of a command accepts itself, and so its other case. -/
theorem spells_letter {c d : Char} (h : d.toLower = c.toLower) : (letter c).Spells [d] := by
  unfold letter
  split
  · rename_i hc
    refine .char ((CharSet.accepts_of_toLower h).trans ?_)
    rw [hc]
    decide
  · refine .char ((CharSet.accepts_of_toLower h).trans ?_)
    rw [CharSet.single, CharSet.accepts_ranges_iff]
    exact ⟨(c, c), by simp, .inl ⟨Nat.le_refl _, Nat.le_refl _⟩⟩

/-- A word may be written in any ASCII case. -/
theorem spells_word {w t : List Char} (h : t.map Char.toLower = w.map Char.toLower) :
    (word w).Spells t := by
  induction w generalizing t with
  | nil =>
      rw [List.map_eq_nil_iff.1 h]
      exact .empty
  | cons c w ih =>
      obtain ⟨d, t, rfl, hd, ht⟩ := List.map_eq_cons_iff.1 h
      exact .seq (spells_letter hd) (ih ht)

/-- A word without `S` is found in any ASCII case only.  The letter `S` has a third form that the
lower case does not reach. -/
theorem map_toLower_of_word {w t : List Char} (hw : 'S' ∉ w) (h : (word w).Spells t) :
    t.map Char.toLower = w.map Char.toLower := by
  induction w generalizing t with
  | nil =>
      cases h
      rfl
  | cons c w ih =>
      have hc : c ≠ 'S' := fun he => hw (by simp [he])
      have hrest : 'S' ∉ w := fun hs => hw (by simp [hs])
      simp only [word, List.foldr_cons, letter, if_neg hc] at h
      cases h with
      | seq hfirst hr =>
          cases hfirst with
          | char hset =>
              rw [List.map_append, ih hrest hr, List.map_singleton, List.singleton_append,
                List.map_cons, CharSet.toLower_of_single hset]

/-- What a word is found in ends with the end of the word. -/
theorem suffix_of_word {v w t : List Char} (hw : 'S' ∉ w) (h : (word (v ++ w)).Spells t) :
    w.map Char.toLower <:+ t.map Char.toLower := by
  induction v generalizing t with
  | nil =>
      refine ⟨[], ?_⟩
      rw [List.nil_append, map_toLower_of_word hw h]
  | cons c v ih =>
      cases h with
      | seq _ hr =>
          rw [List.map_append]
          exact (ih hr).trans (List.suffix_append _ _)

/-! ## The two sides of a mention -/

/-- What a mention has before its first blanks and after them, in lower case: the end of the first
word and the end of the last.  There is no `S` in either. -/
def Command.halves? : Command → Option (List Char × List Char)
  | .dropTable => some (['d', 'r', 'o', 'p'], ['t', 'a', 'b', 'l', 'e'])
  | .deleteFrom => some (['d', 'e', 'l', 'e', 't', 'e'], ['f', 'r', 'o', 'm'])
  | .insertInto => some (['e', 'r', 't'], ['i', 'n', 't', 'o'])
  | .update => some (['u', 'p', 'd', 'a', 't', 'e'], ['e', 't'])
  | .createTable => some (['c', 'r', 'e', 'a', 't', 'e'], ['t', 'a', 'b', 'l', 'e'])
  | .alterTable => some (['a', 'l', 't', 'e', 'r'], ['t', 'a', 'b', 'l', 'e'])
  | .truncate => none

/-- The last entry of the denylist in lower case. -/
def truncateWord : List Char := ['t', 'r', 'u', 'n', 'c', 'a', 't', 'e']

/-- A text has two parts with a blank between them, one part with each half. -/
def Parted (halves : List Char × List Char) (t : List Char) : Prop :=
  ∃ x c y, t = x ++ c :: y ∧ isBlank c ∧ halves.1 <:+: x.map Char.toLower ∧
    halves.2 <:+: y.map Char.toLower

/-- Two words with blanks between them have their halves in this order. -/
theorem parted_of_spells {p q : Pattern} {front rear t : List Char}
    (hp : ∀ x, p.Spells x → front <:+ x.map Char.toLower)
    (hq : ∀ y, q.Spells y → rear <:+ y.map Char.toLower)
    (h : (Pattern.seq p (.seq blanks q)).Spells t) : Parted (front, rear) t := by
  cases h with
  | @seq _ _ x _ hx h =>
      cases h with
      | @seq _ _ g y hg hy =>
          obtain ⟨hne, hblank⟩ := Pattern.spells_plus_char_iff.1 hg
          obtain ⟨c, g, rfl⟩ := List.exists_cons_of_ne_nil hne
          refine ⟨x, c, g ++ y, by simp, hblank c (by simp), (hp x hx).isInfix, ?_⟩
          rw [List.map_append]
          exact ((hq y hy).trans (List.suffix_append _ _)).isInfix

/-- Every mention but that of the last entry has its two halves. -/
theorem Command.parted {command : Command} {halves : List Char × List Char}
    (hc : command.halves? = some halves) {t : List Char} (h : command.pattern.Spells t) :
    Parted halves t := by
  have htable : ∀ y, (word ['T', 'A', 'B', 'L', 'E']).Spells y →
      ['t', 'a', 'b', 'l', 'e'] <:+ y.map Char.toLower := fun _ =>
    suffix_of_word (v := []) (w := ['T', 'A', 'B', 'L', 'E']) (by decide)
  cases command with
  | dropTable =>
      cases hc
      exact parted_of_spells (fun _ => suffix_of_word (v := []) (w := ['D', 'R', 'O', 'P'])
        (by decide)) htable h
  | createTable =>
      cases hc
      exact parted_of_spells (fun _ => suffix_of_word (v := [])
        (w := ['C', 'R', 'E', 'A', 'T', 'E']) (by decide)) htable h
  | alterTable =>
      cases hc
      exact parted_of_spells (fun _ => suffix_of_word (v := [])
        (w := ['A', 'L', 'T', 'E', 'R']) (by decide)) htable h
  | deleteFrom =>
      cases hc
      exact parted_of_spells (fun _ => suffix_of_word (v := [])
        (w := ['D', 'E', 'L', 'E', 'T', 'E']) (by decide))
          (fun _ => suffix_of_word (v := []) (w := ['F', 'R', 'O', 'M']) (by decide)) h
  | insertInto =>
      cases hc
      exact parted_of_spells (fun _ => suffix_of_word (v := ['I', 'N', 'S'])
        (w := ['E', 'R', 'T']) (by decide))
          (fun _ => suffix_of_word (v := []) (w := ['I', 'N', 'T', 'O']) (by decide)) h
  | update =>
      cases hc
      refine parted_of_spells (fun _ => suffix_of_word (v := [])
        (w := ['U', 'P', 'D', 'A', 'T', 'E']) (by decide)) (fun y hy => ?_) h
      -- Whether a word stands in between or not, `SET` comes last.
      cases hy with
      | seq _ hset =>
          rw [List.map_append]
          exact (suffix_of_word (v := ['S']) (w := ['E', 'T']) (by decide) hset).trans
            (List.suffix_append _ _)
  | truncate => cases hc

/-- The blanks of a mention are not in the gap, so one of its halves is in the frame. -/
theorem Command.occursIn_eq_false {command : Command} {halves : List Char × List Char}
    (hc : command.halves? = some halves) {a w b : List Char} (hw : ∀ c ∈ w, isBlank c = false)
    (ha : ¬ halves.1 <:+: a.map Char.toLower) (hb : ¬ halves.2 <:+: b.map Char.toLower) :
    command.pattern.occursIn (a ++ (w ++ b)) = false := by
  rw [Bool.eq_false_iff]
  intro h
  obtain ⟨t, ht, p, q, he⟩ := (Pattern.occursIn_iff _ _).1 h
  obtain ⟨x, c, y, rfl, hblank, hx, hy⟩ := command.parted hc ht
  have he : (p ++ x) ++ c :: (y ++ q) = a ++ (w ++ b) := by simpa using he
  rcases List.append_eq_append_iff.1 he with ⟨u, rfl, _⟩ | ⟨u, hu, hv⟩
  · refine ha (hx.trans ?_)
    simp only [List.map_append]
    exact ⟨p.map Char.toLower, u.map Char.toLower, rfl⟩
  · -- The blank is not in the word, so it stands behind it.
    have hrear : ∃ v, b = v ++ c :: (y ++ q) := by
      rcases List.append_eq_append_iff.1 hv with ⟨v, _, hv⟩ | ⟨v, hw', hv⟩
      · exact ⟨v, hv⟩
      · cases v with
        | nil => exact ⟨[], by simpa using hv.symm⟩
        | cons d v =>
            have hink := hw d (by simp [hw'])
            rw [← (List.cons.inj hv).1, hblank] at hink
            cases hink
    obtain ⟨v, rfl⟩ := hrear
    refine hb (hy.trans ?_)
    simp only [List.map_append, List.map_cons]
    exact ⟨v.map Char.toLower ++ [c.toLower], q.map Char.toLower, by simp⟩

/-- The one command without blanks is mentioned wherever its word stands, in any case. -/
theorem occursIn_truncate_iff (s : List Char) :
    Command.truncate.pattern.occursIn s = true ↔ truncateWord <:+: s.map Char.toLower := by
  rw [Pattern.occursIn_iff]
  constructor
  · rintro ⟨t, ht, hsub⟩
    have hlower : t.map Char.toLower = truncateWord :=
      map_toLower_of_word (w := ['T', 'R', 'U', 'N', 'C', 'A', 'T', 'E']) (by decide) ht
    exact hlower ▸ hsub.map Char.toLower
  · rintro ⟨x, y, he⟩
    obtain ⟨xt, y', rfl, hxt, _⟩ := List.map_eq_append_iff.1 he.symm
    obtain ⟨x', t, rfl, _, ht⟩ := List.map_eq_append_iff.1 hxt
    exact ⟨t, spells_word ht, x', y', rfl⟩

/-! ## Frames -/

/-- A text with no first half of a mention, and without the last entry of the denylist. -/
structure IsQuiet (s : List Char) : Prop where
  halves : ((Command.all.filterMap Command.halves?).all fun h =>
    !Text.occursIn h.1 (s.map Char.toLower)) = true
  truncate : Text.occursIn truncateWord (s.map Char.toLower) = false

instance (s : List Char) : Decidable (IsQuiet s) :=
  decidable_of_iff (_ ∧ _) ⟨fun h => ⟨h.1, h.2⟩, fun h => ⟨h.halves, h.truncate⟩⟩

/-- Two texts without mentions that keep a word between them apart from other letters. -/
structure IsFrame (a b : List Char) : Prop where
  front : IsQuiet a
  halves : ((Command.all.filterMap Command.halves?).all fun h =>
    !Text.occursIn h.2 (b.map Char.toLower)) = true
  truncate : Text.occursIn truncateWord (b.map Char.toLower) = false
  edges : (a.getLast?.any fun c => c.toLower ∉ truncateWord) = true ∧
    (b.head?.any fun c => c.toLower ∉ truncateWord) = true

instance (a b : List Char) : Decidable (IsFrame a b) :=
  decidable_of_iff (_ ∧ _ ∧ _ ∧ _)
    ⟨fun h => ⟨h.1, h.2.1, h.2.2.1, h.2.2.2⟩, fun h => ⟨h.front, h.halves, h.truncate, h.edges⟩⟩

theorem Command.mem_halves {command : Command} {halves : List Char × List Char}
    (hc : command.halves? = some halves) : halves ∈ Command.all.filterMap Command.halves? :=
  List.mem_filterMap.2 ⟨command, by cases command <;> decide, hc⟩

/-- A quiet text has no first half of a command. -/
theorem IsQuiet.not_infix {s : List Char} (h : IsQuiet s) {command : Command}
    {halves : List Char × List Char} (hc : command.halves? = some halves) :
    ¬ halves.1 <:+: s.map Char.toLower := by
  have hall := List.all_eq_true.1 h.halves halves (Command.mem_halves hc)
  rw [← Text.occursIn_iff]
  simpa using hall

namespace IsFrame

variable {a b w : List Char}

/-- What stands behind the frame has no second half of a command. -/
theorem not_infix (h : IsFrame a b) {command : Command} {halves : List Char × List Char}
    (hc : command.halves? = some halves) : ¬ halves.2 <:+: b.map Char.toLower := by
  have hall := List.all_eq_true.1 h.halves halves (Command.mem_halves hc)
  rw [← Text.occursIn_iff]
  simpa using hall

/-- A `TRUNCATE` does not lie across the edges of the gap. -/
theorem truncateWord_infix_iff (h : IsFrame a b) :
    truncateWord <:+: (a ++ (w ++ b)).map Char.toLower ↔
      truncateWord <:+: w.map Char.toLower := by
  constructor
  · intro ht
    obtain ⟨hlast, hhead⟩ := h.edges
    obtain ⟨c, hc, hletter⟩ := (Option.any_eq_true _ _).1 hlast
    obtain ⟨d, hd, hletter'⟩ := (Option.any_eq_true _ _).1 hhead
    obtain ⟨a, rfl⟩ := List.getLast?_eq_some_iff.1 hc
    obtain ⟨b, rfl⟩ := List.head?_eq_some_iff.1 hd
    have hfront := h.front.truncate
    have hrear := h.truncate
    simp only [List.map_append, List.map_cons, List.map_nil, List.append_assoc, List.cons_append,
      List.nil_append, Bool.eq_false_iff, ne_eq, Text.occursIn_iff] at ht hfront hrear
    rcases Text.infix_of_append_cons (by simpa using hletter) ht with ht | ht
    · exact absurd (ht.trans (List.prefix_append _ _).isInfix) hfront
    · rcases Text.infix_of_append_cons (by simpa using hletter') ht with ht | ht
      · exact ht
      · exact absurd (ht.trans (List.suffix_cons _ _).isInfix) hrear
  · intro ht
    rw [List.map_append, List.map_append]
    exact (ht.trans (List.prefix_append _ _).isInfix).trans (List.suffix_append _ _).isInfix

end IsFrame

/-! ## The verdict -/

/-- Without halves of a mention only the last entry of the denylist can be found. -/
theorem mentioned?_of_halves {s : List Char} (h : ∀ (command : Command) {halves},
    command.halves? = some halves → command.pattern.occursIn s = false) :
    mentioned? s = if truncateWord <:+: s.map Char.toLower then some .truncate else none := by
  simp only [mentioned?, Command.all, List.find?_cons, List.find?_nil,
    h .dropTable rfl, h .deleteFrom rfl, h .insertInto rfl, h .update rfl, h .createTable rfl,
    h .alterTable rfl]
  cases hlast : Command.truncate.pattern.occursIn s with
  | true => rw [if_pos ((occursIn_truncate_iff s).1 hlast)]
  | false =>
      rw [if_neg]
      intro ht
      rw [(occursIn_truncate_iff s).2 ht] at hlast
      cases hlast

/-- The guard finds nothing in a quiet text. -/
theorem mentioned?_of_isQuiet {s : List Char} (h : IsQuiet s) : mentioned? s = none := by
  rw [mentioned?_of_halves, if_neg]
  · rw [← Text.occursIn_iff, h.truncate]
    simp
  · intro command halves hc
    -- The whole text is in front of a gap with nothing in it and nothing behind it.
    have hrear : ¬ halves.2 <:+: ([] : List Char).map Char.toLower := by
      cases command <;> cases hc <;> simp
    have hfalse := Command.occursIn_eq_false (w := []) hc (by simp) (h.not_infix hc) hrear
    simpa using hfalse

/-- In a frame the guard finds the last entry of the denylist in the word, or nothing. -/
theorem mentioned?_framed {a b w : List Char} (h : IsFrame a b) (hw : ∀ c ∈ w, isBlank c = false) :
    mentioned? (a ++ (w ++ b)) =
      if truncateWord <:+: w.map Char.toLower then some .truncate else none := by
  rw [mentioned?_of_halves]
  · simp only [h.truncateWord_infix_iff]
  · intro command halves hc
    exact Command.occursIn_eq_false hc hw (h.front.not_infix hc) (h.not_infix hc)

end Guard

end AskTables
