import AskTables.Text.Lowercase.Basic

/-!
# Lower case of a part

Lower-casing a text and lower-casing a part of it are not the same, since the letter `Σ` looks at
its neighbours.  `lowerWithin` is the lower case that a part has in its place, and the lower case of
a text is put together from those of its parts (`lowerAfter_append`).  By itself a part has the same
lower case if and only if each of its `Σ` ends a word in the part just when it does in the text
(`lowerWithin_eq_iff`).
-/

namespace AskTables.Text

/-- Whether a word ends between the characters before, nearest first, and those after. -/
def endsWord (before after : List Char) : Bool := meetsCased before && !meetsCased after

/-- The lower-case form that a text has in its place, after the characters `before`, nearest first,
and in front of the characters `after`. -/
def lowerWithin (before : List Char) : List Char → List Char → List Char
  | [], _ => []
  | c :: rest, after => lowerAt before c (rest ++ after) ++ lowerWithin (c :: before) rest after

theorem lowerAfter_append (before s t : List Char) :
    lowerAfter before (s ++ t) = lowerWithin before s t ++ lowerAfter (s.reverse ++ before) t := by
  induction s generalizing before with
  | nil => rfl
  | cons c rest ih =>
      rw [List.cons_append, lowerAfter, lowerWithin, ih, List.reverse_cons, List.append_assoc,
        List.append_assoc, List.singleton_append]

theorem lowerAt_sigma (before after : List Char) :
    lowerAt before 'Σ' after = if endsWord before after then ['ς'] else ['σ'] := rfl

/-- No other character looks at its neighbours. -/
theorem lowerAt_of_ne {c : Char} (hc : c ≠ 'Σ') (before after before' after' : List Char) :
    lowerAt before c after = lowerAt before' c after' := by
  rw [lowerAt, lowerAt, if_neg hc, if_neg hc]

theorem length_lowerAt (before : List Char) (c : Char) (after before' after' : List Char) :
    (lowerAt before c after).length = (lowerAt before' c after').length := by
  by_cases hc : c = 'Σ'
  · subst hc
    rw [lowerAt_sigma, lowerAt_sigma]
    split <;> split <;> rfl
  · rw [lowerAt_of_ne hc]

theorem lowerAt_eq_iff (before : List Char) (c : Char) (after before' after' : List Char) :
    lowerAt before c after = lowerAt before' c after' ↔
      (c = 'Σ' → endsWord before after = endsWord before' after') := by
  by_cases hc : c = 'Σ'
  · subst hc
    rw [lowerAt_sigma, lowerAt_sigma]
    cases endsWord before after <;> cases endsWord before' after' <;> decide
  · simp [hc, lowerAt_of_ne hc before after before' after']

/-- A text lower-cased behind other characters has the same lower case in a longer text if and only
if each of its `Σ` is at the end of a word there just when it is here. -/
theorem lowerWithin_eq_iff (near far s after : List Char) :
    lowerWithin (near ++ far) s after = lowerAfter near s ↔ ∀ u v, s = u ++ 'Σ' :: v →
      endsWord (u.reverse ++ (near ++ far)) (v ++ after) = endsWord (u.reverse ++ near) v := by
  induction s generalizing near with
  | nil => simp [lowerWithin, lowerAfter]
  | cons c rest ih =>
      have hparts : lowerWithin (near ++ far) (c :: rest) after = lowerAfter near (c :: rest) ↔
          lowerAt (near ++ far) c (rest ++ after) = lowerAt near c rest ∧
            lowerWithin (c :: near ++ far) rest after = lowerAfter (c :: near) rest := by
        rw [lowerWithin, lowerAfter]
        constructor
        · exact fun h => List.append_inj h (length_lowerAt _ _ _ _ _)
        · rintro ⟨hc, hrest⟩
          rw [hc, ← hrest, List.cons_append]
      rw [hparts, lowerAt_eq_iff, ih]
      constructor
      · rintro ⟨hc, hrest⟩ u v hsplit
        cases u with
        | nil =>
            obtain ⟨rfl, rfl⟩ := List.cons.inj hsplit
            exact hc rfl
        | cons d u =>
            obtain ⟨rfl, htail⟩ := List.cons.inj hsplit
            simpa using hrest u v htail
      · intro h
        refine ⟨fun hc => by simpa using h [] rest (by rw [hc, List.nil_append]), ?_⟩
        intro u v hsplit
        simpa using h (c :: u) v (by rw [hsplit, List.cons_append])

/-- A part whose `Σ` end the same words by itself as in the text is found in the lower-case text. -/
theorem lowercase_infix {a s b : List Char}
    (h : ∀ u v, s = u ++ 'Σ' :: v →
      endsWord (u.reverse ++ a.reverse) (v ++ b) = endsWord u.reverse v) :
    lowercase s <:+: lowercase (a ++ (s ++ b)) := by
  have hs : lowerWithin a.reverse s b = lowercase s := by
    have hiff := lowerWithin_eq_iff [] a.reverse s b
    simp only [List.nil_append, List.append_nil] at hiff
    exact hiff.2 h
  rw [lowercase, lowercase, lowerAfter_append, lowerAfter_append, List.append_nil, hs]
  exact ⟨lowerWithin [] a (s ++ b), _, List.append_assoc _ _ _⟩

end AskTables.Text
