import AskTables.Proofs.Binary.Integer
import AskTables.Proofs.Decimal.Scan
import AskTables.Query.Filter

/-!
# Comparisons exclude each other

`=` takes the number of a literal from all of it, or compares texts, while `>` and `<` take it from
the front.  What `=` accepts is equal for the two others as well (`beq_of_equalsLiteral`), so no
literal is both equal to a cell and above or below it.  If the cell holds a number and the literal
is a numeral, all three read the same number, and one of them accepts it.
-/

namespace AskTables

open Decimal (leadingFloat?)
open Decimal.Numeral (Writes WritesDigits WritesExponent)

/-- What a text begins with is a number. -/
theorem Decimal.isNaN_of_leadingFloat? {s : List Char} {x : Float} (h : leadingFloat? s = some x) :
    x.isNaN = false := by
  obtain ⟨r, -, rfl⟩ := Option.map_eq_some_iff.1 h
  exact r.1.isNaN_toFloat

namespace Cell

variable {cell : Cell} {literal : String} {x y : Float}

/-! ## The number of a literal -/

/-- A literal that is a number as a whole has no other number in front. -/
theorem literalNumber?_eq_of_leadingFloat? (hx : literalNumber? literal = some x)
    (hy : leadingFloat? literal.toList = some y) : x = y := by
  rw [literalNumber?] at hx
  split at hx
  · rename_i htrim
    rw [Decimal.leadingFloat?_eq_trimChars, htrim] at hy
    cases hy
  · exact Decimal.readFloat?_eq_of_leadingFloat? hx hy

/-- A literal that is a numeral between blanks is its number. -/
theorem literalNumber?_of_writes {n : Decimal.Numeral}
    (h : Writes (Text.trimChars literal.toList) n) : literalNumber? literal = some n.toFloat := by
  rw [literalNumber?]
  split
  · rename_i htrim
    have hscan := Decimal.Numeral.scan?_of_writes h
    rw [htrim] at hscan
    cases hscan
  · exact Decimal.readFloat?_of_writes h

/-! ## One cell -/

/-- A number equals a literal if the whole literal is an equal number. -/
theorem equalsLiteral_iff (hcell : cell.rank = 1) : cell.equalsLiteral literal ↔
    ∃ x y, cell.number? = some x ∧ literalNumber? literal = some y ∧ x == y := by
  cases cell with
  | null => cases hcell
  | int i =>
      rw [equalsLiteral, number?]
      cases literalNumber? literal <;> simp
  | float z =>
      rw [equalsLiteral, number?]
      cases literalNumber? literal <;> simp
  | text s => cases hcell

/-- A cell compares to the number that the literal begins with. -/
theorem comparesTo_iff {related : Float → Float → Bool} : cell.comparesTo literal related ↔
    ∃ x y, cell.number? = some x ∧ leadingFloat? literal.toList = some y ∧ related x y := by
  rw [comparesTo]
  cases cell.number? with
  | none => simp
  | some x => cases leadingFloat? literal.toList <;> simp

/-- A literal that equals a cell has the number of the cell in front, if it has a number there. -/
theorem beq_of_equalsLiteral (h : cell.equalsLiteral literal) (hx : cell.number? = some x)
    (hy : leadingFloat? literal.toList = some y) : x == y := by
  have hnumber (hcell : cell.rank = 1) : x == y := by
    obtain ⟨x', z, hx', hz, hbeq⟩ := (equalsLiteral_iff hcell).1 h
    cases hx.symm.trans hx'
    rwa [literalNumber?_eq_of_leadingFloat? hz hy] at hbeq
  cases cell with
  | null => cases h
  | int i => exact hnumber rfl
  | float z => exact hnumber rfl
  | text s =>
      obtain rfl : s = literal := by simpa [equalsLiteral] using h
      cases hx.symm.trans hy
      have hreal := Decimal.isNaN_of_leadingFloat? hy
      exact (Binary.beq_iff hreal hreal).2 rfl

/-- What equals a literal is neither above nor below it. -/
theorem not_comparesTo_of_equalsLiteral (h : cell.equalsLiteral literal) :
    ¬ cell.comparesTo literal (fun x y => decide (y < x)) ∧
      ¬ cell.comparesTo literal (fun x y => decide (x < y)) := by
  simp only [comparesTo_iff, decide_eq_true_eq]
  constructor
  · rintro ⟨x, y, hx, hy, hlt⟩
    exact Binary.not_lt_of_beq (BEq.symm (beq_of_equalsLiteral h hx hy)) hlt
  · rintro ⟨x, y, hx, hy, hlt⟩
    exact Binary.not_lt_of_beq (beq_of_equalsLiteral h hx hy) hlt

/-- What is above a literal is not below it. -/
theorem not_comparesTo_of_comparesTo
    (h : cell.comparesTo literal fun x y => decide (y < x)) :
    ¬ cell.comparesTo literal (fun x y => decide (x < y)) := by
  simp only [comparesTo_iff, decide_eq_true_eq] at h ⊢
  obtain ⟨x, y, hx, hy, hlt⟩ := h
  rintro ⟨x', y', hx', hy', hlt'⟩
  cases hx.symm.trans hx'
  cases hy.symm.trans hy'
  exact Binary.not_lt_of_lt hlt hlt'

/-- The cell holds an integer or a float other than NaN. -/
def IsNumber : Cell → Prop
  | .int _ => True
  | .float x => x.isNaN = false
  | .null | .text _ => False

/-- A number that is not NaN can be compared. -/
theorem IsNumber.exists_number? (h : cell.IsNumber) :
    cell.rank = 1 ∧ ∃ x, cell.number? = some x ∧ x.isNaN = false := by
  cases cell with
  | null => cases h
  | int i => exact ⟨rfl, nearestFloat i, rfl, Binary.isNaN_ofInt64 i⟩
  | float x => exact ⟨rfl, x, rfl, h⟩
  | text s => cases h

/-- A number is equal to a numeral, above it or below it. -/
theorem equalsLiteral_or_comparesTo {n : Decimal.Numeral} (h : cell.IsNumber)
    (hn : Writes (Text.trimChars literal.toList) n) :
    cell.equalsLiteral literal ∨ cell.comparesTo literal (fun x y => decide (y < x)) ∨
      cell.comparesTo literal (fun x y => decide (x < y)) := by
  obtain ⟨hrank, x, hx, hreal⟩ := h.exists_number?
  have hleading := Decimal.leadingFloat?_of_writes hn
  simp only [equalsLiteral_iff hrank, comparesTo_iff, decide_eq_true_eq]
  rcases Binary.lt_or_beq_or_lt hreal n.isNaN_toFloat with hlt | hbeq | hgt
  · exact .inr (.inr ⟨x, _, hx, hleading, hlt⟩)
  · exact .inl ⟨x, _, hx, literalNumber?_of_writes hn, hbeq⟩
  · exact .inr (.inl ⟨x, _, hx, hleading, hgt⟩)

end Cell

/-! ## One row -/

namespace Condition

variable {row : Row} {column : Column} {cell : Cell} {literal : String}

theorem admits_of_resolve? (op : CompareOp) (hcell : row.resolve? column = some cell) :
    (Condition.mk column op literal).admits row =
      (Condition.mk column op literal).admitsCell cell := by
  rw [admits, hcell]

/-- No two of `=`, `>` and `<` accept the same cell. -/
theorem admitsCell_unique {op op' : CompareOp} (hop : op ≠ .like) (hop' : op' ≠ .like)
    (h : (Condition.mk column op literal).admitsCell cell)
    (h' : (Condition.mk column op' literal).admitsCell cell) : op = op' := by
  cases op with
  | like => exact absurd rfl hop
  | eq =>
      obtain ⟨hgt, hlt⟩ := Cell.not_comparesTo_of_equalsLiteral h
      cases op' with
      | like => exact absurd rfl hop'
      | eq => rfl
      | gt => exact absurd h' hgt
      | lt => exact absurd h' hlt
  | gt =>
      cases op' with
      | like => exact absurd rfl hop'
      | eq => exact absurd h (Cell.not_comparesTo_of_equalsLiteral h').1
      | gt => rfl
      | lt => exact absurd h' (Cell.not_comparesTo_of_comparesTo h)
  | lt =>
      cases op' with
      | like => exact absurd rfl hop'
      | eq => exact absurd h (Cell.not_comparesTo_of_equalsLiteral h').2
      | gt => exact absurd h (Cell.not_comparesTo_of_comparesTo h')
      | lt => rfl

/-- A number is above a numeral, below it or equal to it. -/
theorem exists_admitsCell {n : Decimal.Numeral} (h : cell.IsNumber)
    (hn : Writes (Text.trimChars literal.toList) n) (column : Column) :
    ∃ op, op ≠ .like ∧ (Condition.mk column op literal).admitsCell cell := by
  rcases Cell.equalsLiteral_or_comparesTo h hn with heq | hgt | hlt
  · exact ⟨.eq, by decide, heq⟩
  · exact ⟨.gt, by decide, hgt⟩
  · exact ⟨.lt, by decide, hlt⟩

/-- At most one of `=`, `>` and `<` accepts a row.  If the cell is a number and the literal a numeral
with blanks around it, exactly one does. -/
theorem admits_exclusive (row : Row) (column : Column) (literal : String) :
    (∀ op op', op ≠ .like → op' ≠ .like → (Condition.mk column op literal).admits row →
      (Condition.mk column op' literal).admits row → op = op') ∧
    ∀ cell, row.resolve? column = some cell → cell.IsNumber →
      ∀ n, Writes (Text.trimChars literal.toList) n →
        ∃! op, op ≠ .like ∧ (Condition.mk column op literal).admits row := by
  constructor
  · intro op op' hop hop' h h'
    cases hcell : row.resolve? column with
    | none =>
        rw [admits, hcell] at h
        cases h
    | some cell =>
        rw [admits_of_resolve? _ hcell] at h h'
        exact admitsCell_unique hop hop' h h'
  · intro cell hcell hnumber n hn
    obtain ⟨op, hop, h⟩ := exists_admitsCell hnumber hn column
    refine ⟨op, ⟨hop, by rwa [admits_of_resolve? _ hcell]⟩, ?_⟩
    rintro op' ⟨hop', h'⟩
    rw [admits_of_resolve? _ hcell] at h'
    exact admitsCell_unique hop' hop h' h

/-- A literal with everything a numeral may have, and blanks of two kinds around it. -/
theorem admits_exclusive_hundred :
    (Row.ofList [("k", .int 100)]).resolve? ⟨none, "k"⟩ = some (.int 100) ∧
      (Cell.int 100).IsNumber ∧
      Writes (Text.trimChars " +1.0E+02\u00a0".toList) ⟨false, ['1'], ['0'], 2⟩ ∧
      (∃! op, op ≠ .like ∧
        (Condition.mk ⟨none, "k"⟩ op " +1.0E+02\u00a0").admits (.ofList [("k", .int 100)])) ∧
      (Condition.mk ⟨none, "k"⟩ .eq " +1.0E+02\u00a0").admits (.ofList [("k", .int 100)]) := by
  have hcell : (Row.ofList [("k", .int 100)]).resolve? ⟨none, "k"⟩ = some (.int 100) := by decide
  have hn : Writes (Text.trimChars " +1.0E+02\u00a0".toList) ⟨false, ['1'], ['0'], 2⟩ :=
    .parts .plus (@WritesDigits.point ['1'] ['0'] (by simp) (by simp) (by simp))
      (@WritesExponent.some 'E' ['+'] ['0', '2'] false (.inr rfl) .plus (by simp) (by simp))
  obtain ⟨-, hone⟩ := admits_exclusive (.ofList [("k", .int 100)]) ⟨none, "k"⟩ " +1.0E+02\u00a0"
  exact ⟨hcell, trivial, hn, hone _ hcell trivial _ hn, by decide +kernel⟩

end Condition

end AskTables
