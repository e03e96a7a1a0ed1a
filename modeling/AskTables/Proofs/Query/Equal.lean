import AskTables.Proofs.Decimal.Shortest
import AskTables.Proofs.Json.Number
import AskTables.Proofs.Query.Standing
import AskTables.Proofs.Text.Respaced
import AskTables.Query.Filter
import AskTables.Query.Join

/-!
# Equal integers

Two integers can be compared as keys of a join, as a cell with a literal, and as cells to sort by.
The first two convert both integers to floats, the literal by way of its digits, and both
conversions give the float nearest to the integer.  So these two agree with each other, and they
agree with the third, which compares the integers themselves, as long as one of the integers has at
most 53 binary digits (`equals_integer_iff`).
-/

namespace AskTables

open Float.Model Float.Model.UnpackedFloat
open Json (NumberParts)
open Binary

/-! ## The digits of an integer -/

/-- The digits of an integer read as its nearest float. -/
theorem Binary.isRounded_ofInt {n : ℤ} (hn : n.natAbs ≤ 2 ^ 63) :
    IsRounded n (NumberParts.ofInt n).numeral.toFloat.toModel.unpack := by
  have hfloat : (NumberParts.ofInt n).numeral.toFloat =
      if n < 0 then -Float.ofModel (.ofScientific n.natAbs 0)
      else Float.ofModel (.ofScientific n.natAbs 0) := by
    rw [Decimal.Numeral.toFloat, Decimal.Numeral.significand, Decimal.Numeral.scale]
    simp only [NumberParts.numeral, NumberParts.ofInt, List.append_nil, Json.natOfDigits_toDigits,
      decide_eq_true_eq]
    rfl
  rw [hfloat]
  rcases eq_zero_or_exists_apply n with rfl | ⟨s, k, hk, rfl⟩
  · rw [if_neg (lt_irrefl 0), Int.natAbs_zero, Decimal.ofScientific_zero]
    exact isRounded_zero .positive
  · rw [natAbs_apply] at hn ⊢
    obtain ⟨m, q, hc, hunpack, hvalue⟩ := unpack_ofScientific hk hn
    cases s with
    | positive =>
        rw [if_neg (by simp [Sign.apply]), hunpack]
        exact isRounded_finite .positive hk hc hvalue
    | negative =>
        rw [if_pos (by simp [Sign.apply, hk]), unpack_neg, hunpack]
        exact isRounded_finite .negative hk hc hvalue

theorem Json.NumberParts.isBlank_of_mem_chars {n : ℤ} {c : Char} (h : c ∈ (ofInt n).chars) :
    Text.isBlank c = false := by
  have hcases : n < 0 ∧ c = '-' ∨ c ∈ (ofInt n).whole := by
    simpa [chars, unsigned, ofInt, fractionChars, exponentChars] using h
  rcases hcases with ⟨-, rfl⟩ | hdigit
  · decide
  · have hword : Grammar.isWordChar c := by
      simp [Grammar.isWordChar, Char.isAlphanum, (wellFormed_ofInt n).digits c hdigit]
    exact Grammar.isBlank_of_isWordChar hword

namespace Cell

/-- The text of an integer is a literal, and read to its end. -/
theorem literalNumber?_toString (n : ℤ) :
    literalNumber? (toString n) = some (NumberParts.ofInt n).numeral.toFloat := by
  have hform := NumberParts.wellFormed_ofInt n
  have hscan := NumberParts.scan?_chars hform
  obtain ⟨c, s, hs, -⟩ := NumberParts.chars_head hform
  rw [literalNumber?, ← NumberParts.chars_ofInt,
    Text.trimChars_of_forall fun _ => NumberParts.isBlank_of_mem_chars, hs]
  rw [hs] at hscan
  simp only [Decimal.readFloat?, hscan]

/-! ## Three ways to compare -/

/-- Floats of integers are equal if the integers are rounded alike. -/
theorem beq_iff_roundedInt {x y : Float} {i j : ℤ}
    (hx : IsRounded i x.toModel.unpack) (hy : IsRounded j y.toModel.unpack) :
    x == y ↔ roundedInt i = roundedInt j := by
  have hvalue : x == y ↔ value x = value y := beq_iff hx.1.isNaN_eq_false hy.1.isNaN_eq_false
  rw [hvalue, value, value, hx.2, hy.2, ofRat_strictMono.injective.eq_iff]

/-- As keys of a join two integers are equal if they are rounded alike. -/
theorem equalsKey_int_iff (i j : Int64) :
    (Cell.int i).equalsKey (.int j) ↔ roundedInt i.toInt = roundedInt j.toInt :=
  beq_iff_roundedInt (isRounded_ofInt64 i) (isRounded_ofInt64 j)

/-- An integer equals the literal of another if the two are rounded alike. -/
theorem equalsLiteral_int_iff (i j : Int64) :
    (Cell.int i).equalsLiteral (toString j.toInt) ↔ roundedInt i.toInt = roundedInt j.toInt := by
  rw [equalsLiteral, literalNumber?_toString]
  exact beq_iff_roundedInt (isRounded_ofInt64 i) (isRounded_ofInt (natAbs_toInt_le j))

/-- Sorting tells all integers apart. -/
theorem compare_int_eq_iff (i j : Int64) : compare (.int i) (.int j) = .eq ↔ i = j := by
  rw [compare_int, cmp_eq_eq_iff, Int64.toInt_inj]

/-- Two integers are equal as keys, and as a cell and a literal, if and only if they are the same
when they are rounded to 53 binary digits.  If one of them has no more digits, they are then the
same integer, as they always are when a sort takes them for equal. -/
theorem equals_integer_iff (i j : Int64) :
    ((Cell.int i).equalsKey (.int j) ↔ roundedInt i.toInt = roundedInt j.toInt) ∧
      (∀ (column : Column) (row : Row), row.resolve? column = some (.int i) →
        ((Condition.mk column .eq (toString j.toInt)).admits row ↔
          roundedInt i.toInt = roundedInt j.toInt)) ∧
      (compare (.int i) (.int j) = .eq ↔ i = j) ∧
      (i.toInt.natAbs < 2 ^ 53 ∨ j.toInt.natAbs < 2 ^ 53 →
        (roundedInt i.toInt = roundedInt j.toInt ↔ i = j)) := by
  refine ⟨equalsKey_int_iff i j, ?_, compare_int_eq_iff i j, ?_⟩
  · intro column row hcell
    rw [Condition.admits, hcell]
    exact equalsLiteral_int_iff i j
  · rintro (hi | hj)
    · rw [roundedInt_inj hi, Int64.toInt_inj]
    · rw [eq_comm, roundedInt_inj hj, Int64.toInt_inj, eq_comm]

/-- The largest integer of 53 binary digits differs from the next one. -/
theorem equals_integer_iff_digits :
    (9007199254740991 : Int64).toInt.natAbs < 2 ^ 53 ∧
      (Row.ofList [("k", .int 9007199254740991)]).resolve? ⟨none, "k"⟩ =
        some (.int 9007199254740991) ∧
      ¬ (Condition.mk ⟨none, "k"⟩ .eq (toString (9007199254740992 : Int64).toInt)).admits
        (.ofList [("k", .int 9007199254740991)]) := by
  have hdigits : (9007199254740991 : Int64).toInt.natAbs < 2 ^ 53 := by decide
  have hcell : (Row.ofList [("k", .int 9007199254740991)]).resolve? ⟨none, "k"⟩ =
      some (.int 9007199254740991) := by decide
  obtain ⟨-, hadmits, -, hinj⟩ := equals_integer_iff 9007199254740991 9007199254740992
  refine ⟨hdigits, hcell, ?_⟩
  rw [hadmits _ _ hcell, hinj (.inl hdigits)]
  decide

/-- The one after is its equal, as a key and as a literal, but not to a sort. -/
theorem equals_integer_neighbours :
    (Cell.int 9007199254740992).equalsKey (.int 9007199254740993) ∧
      (Condition.mk ⟨none, "k"⟩ .eq "9007199254740993").admits
        (.ofList [("k", .int 9007199254740992)]) ∧
      compare (.int 9007199254740992) (.int 9007199254740993) = .lt := by
  decide +kernel

end Cell

end AskTables
