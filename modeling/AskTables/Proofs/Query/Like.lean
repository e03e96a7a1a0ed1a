import AskTables.Proofs.Text.Lowercase
import AskTables.Query.Filter

/-!
# Texts that contain a part

`LIKE '%p%'` looks for `p` in the text of a cell, with both in lower case.  It finds a `p` that is
part of the text, whatever its letters, as long as the two lower cases agree there.  Only the letter
`Σ` can keep them apart, by ending a word in one of the two and not in the other
(`admits_containing`).
-/

namespace AskTables.Condition

/-- The condition `LIKE '%p%'`. -/
def containing (column : Column) (p : List Char) : Condition :=
  ⟨column, .like, String.ofList ('%' :: (p ++ ['%']))⟩

/-- The percent signs around a text are dropped, and there are no others. -/
theorem likeNeedle_containing {p : List Char} (hpercent : '%' ∉ p) (hquote : '\'' ∉ p)
    (column : Column) : likeNeedle (containing column p).value = Text.lowercase p := by
  have hkeep : p.filter (fun c => c != '%' && c != '\'') = p := by
    rw [List.filter_eq_self]
    intro c hc
    have hne : c ≠ '%' ∧ c ≠ '\'' := ⟨fun h => hpercent (h ▸ hc), fun h => hquote (h ▸ hc)⟩
    simpa using hne
  rw [likeNeedle, containing, String.toList_ofList, List.filter_cons_of_neg (by decide),
    List.filter_append, hkeep]
  simp

theorem admits_containing_iff {row : Row} {column : Column} {cell : Cell} {p : List Char}
    (hcell : row.resolve? column = some cell) (htruthy : cell.isTruthy) (hpercent : '%' ∉ p)
    (hquote : '\'' ∉ p) : (containing column p).admits row ↔
      Text.lowercase p <:+: Text.lowercase cell.display.toList := by
  have hadmits : (containing column p).admits row = cell.isLike (containing column p).value := by
    rw [admits, containing, hcell]
    rfl
  rw [hadmits, Cell.isLike, likeNeedle_containing hpercent hquote, htruthy, Bool.true_and,
    Text.occursIn_iff]

/-- A part of the text of a cell is found, if each `Σ` in it ends a word of the text just when it
ends a word of the part. -/
theorem admits_containing {row : Row} {column : Column} {cell : Cell} {a p b : List Char}
    (hcell : row.resolve? column = some cell) (htruthy : cell.isTruthy)
    (htext : cell.display.toList = a ++ (p ++ b)) (hpercent : '%' ∉ p) (hquote : '\'' ∉ p)
    (hsigma : ∀ u v, p = u ++ 'Σ' :: v →
      Text.endsWord (u.reverse ++ a.reverse) (v ++ b) = Text.endsWord u.reverse v) :
    (containing column p).admits row := by
  rw [admits_containing_iff hcell htruthy hpercent hquote, htext]
  exact Text.lowercase_infix hsigma

/-- A row with the name of Odysseus in Greek capitals. -/
def odysseus : Row := .ofList [("name", .text "ΟΔΥΣΣΕΥΣ")]

/-- The end of the name is found, and its `Σ` ends a word in both. -/
theorem admits_containing_end :
    odysseus.resolve? ⟨none, "name"⟩ = some (.text "ΟΔΥΣΣΕΥΣ") ∧
      (containing ⟨none, "name"⟩ ['Υ', 'Σ']).admits odysseus := by
  have hcell : odysseus.resolve? ⟨none, "name"⟩ = some (.text "ΟΔΥΣΣΕΥΣ") := by decide
  have htext : (Cell.text "ΟΔΥΣΣΕΥΣ").display.toList =
      ['Ο', 'Δ', 'Υ', 'Σ', 'Σ', 'Ε'] ++ (['Υ', 'Σ'] ++ []) := by decide
  refine ⟨hcell, admits_containing hcell (by decide) htext (by decide) (by decide) ?_⟩
  intro u v hsplit
  -- The only `Σ` of the part is its second letter.
  cases u with
  | nil => exact absurd (List.cons.inj hsplit).1 (by decide)
  | cons c u =>
      obtain ⟨rfl, hrest⟩ := List.cons.inj hsplit
      cases u with
      | nil =>
          obtain ⟨-, rfl⟩ := List.cons.inj hrest
          decide +kernel
      | cons d u =>
          obtain ⟨-, hnil⟩ := List.cons.inj hrest
          simp at hnil

/-- A part from the middle is not, as its `Σ` ends a word only by itself. -/
theorem not_admits_containing_middle :
    (Cell.text "ΟΔΥΣΣΕΥΣ").isTruthy ∧
      (Cell.text "ΟΔΥΣΣΕΥΣ").display.toList =
        ['Ο'] ++ (['Δ', 'Υ', 'Σ'] ++ ['Σ', 'Ε', 'Υ', 'Σ']) ∧
      (containing ⟨none, "name"⟩ ['Δ', 'Υ', 'Σ']).admits odysseus = false := by
  decide +kernel

end AskTables.Condition
