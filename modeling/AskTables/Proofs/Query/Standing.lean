import AskTables.Cell
import AskTables.Proofs.Binary.Integer

/-!
# Where cells stand

The order of cells in terms of linear orders: nothing stands below all, then come the numbers by
value, then the texts by code point.
-/

namespace AskTables

open Binary

/-- A place in the order of cells: the bottom, a number, or a text. -/
abbrev Standing := WithBot (Value ⊕ₗ String)

namespace Standing

/-- The place of a number. -/
def ofNumber (v : Value) : Standing := ((Sum.inlₗ v : Value ⊕ₗ String) : Standing)

/-- The place of a text. -/
def ofText (s : String) : Standing := ((Sum.inrₗ s : Value ⊕ₗ String) : Standing)

theorem bot_lt_ofNumber (v : Value) : ⊥ < ofNumber v := WithBot.bot_lt_coe _

theorem bot_lt_ofText (s : String) : ⊥ < ofText s := WithBot.bot_lt_coe _

theorem ofNumber_lt_ofText (v : Value) (s : String) : ofNumber v < ofText s :=
  WithBot.coe_lt_coe.2 (Sum.Lex.inl_lt_inr v s)

theorem ofNumber_strictMono : StrictMono ofNumber := fun _ _ h =>
  WithBot.coe_lt_coe.2 (Sum.Lex.inl_lt_inl_iff.2 h)

theorem ofText_strictMono : StrictMono ofText := fun _ _ h =>
  WithBot.coe_lt_coe.2 (Sum.Lex.inr_lt_inr_iff.2 h)

end Standing

namespace Cell

/-- The cell holds no NaN. -/
def IsComparable : Cell → Prop
  | .float x => x.isNaN = false
  | _ => True

instance : DecidablePred IsComparable
  | .float x => inferInstanceAs (Decidable (x.isNaN = false))
  | .null | .int _ | .text _ => .isTrue trivial

/-- The cell holds neither NaN nor an integer that may lie between two floats. -/
def IsExact : Cell → Prop
  | .int i => i.toInt.natAbs ≤ 2 ^ 53
  | .float x => x.isNaN = false
  | _ => True

instance : DecidablePred IsExact
  | .int i => inferInstanceAs (Decidable (i.toInt.natAbs ≤ 2 ^ 53))
  | .float x => inferInstanceAs (Decidable (x.isNaN = false))
  | .null | .text _ => .isTrue trivial

/-- Where a cell stands. -/
def standing : Cell → Standing
  | .null => ⊥
  | .int i => .ofNumber (.ofRat i.toInt)
  | .float x => .ofNumber (value x)
  | .text s => .ofText s

/-- Where a cell stands when integers count as their nearest floats. -/
def roundedStanding : Cell → Standing
  | .int i => .ofNumber (.ofRat (roundedInt i.toInt))
  | cell => cell.standing

theorem compareFloats_eq_cmp {x y : Float} (hx : x.isNaN = false) (hy : y.isNaN = false) :
    compareFloats x y = cmp (value x) (value y) := by
  rw [compareFloats]
  simp only [lt_iff hx hy, lt_iff hy hx]
  rfl

theorem compare_numbers {x y : Float} (hx : x.isNaN = false) (hy : y.isNaN = false) :
    compareFloats x y = cmp (Standing.ofNumber (value x)) (.ofNumber (value y)) := by
  rw [compareFloats_eq_cmp hx hy, Standing.ofNumber_strictMono.cmp_map_eq]

/-- Two integers are compared exactly. -/
theorem compare_int (i k : Int64) : compare (.int i) (.int k) = cmp i.toInt k.toInt :=
  (cmp_eq_compare i.toInt k.toInt).symm

theorem compare_int_float (i : Int64) {y : Float} (hy : y.isNaN = false) :
    compare (.int i) (.float y) = cmp (roundedStanding (.int i)) (roundedStanding (.float y)) := by
  rw [roundedStanding, ← value_ofInt64]
  exact compare_numbers (isNaN_ofInt64 i) hy

theorem compare_float_int {x : Float} (hx : x.isNaN = false) (k : Int64) :
    compare (.float x) (.int k) = cmp (roundedStanding (.float x)) (roundedStanding (.int k)) := by
  rw [roundedStanding, ← value_ofInt64]
  exact compare_numbers hx (isNaN_ofInt64 k)

theorem compare_text (s t : String) :
    compare (.text s) (.text t) = cmp (Standing.ofText s) (.ofText t) := by
  rw [Standing.ofText_strictMono.cmp_map_eq, cmp_eq_compare]
  rfl

/-- Unless both are integers, cells are compared as if integers were floats. -/
theorem compare_cases {a b : Cell} (ha : a.IsComparable) (hb : b.IsComparable) :
    (∃ i k, a = .int i ∧ b = .int k) ∨
      a.compare b = cmp a.roundedStanding b.roundedStanding := by
  cases a with
  | null =>
      cases b with
      | null => exact .inr (cmp_self_eq_eq _).symm
      | int k => exact .inr ((cmp_eq_lt_iff _ _).2 (Standing.bot_lt_ofNumber _)).symm
      | float y => exact .inr ((cmp_eq_lt_iff _ _).2 (Standing.bot_lt_ofNumber _)).symm
      | text t => exact .inr ((cmp_eq_lt_iff _ _).2 (Standing.bot_lt_ofText _)).symm
  | int i =>
      cases b with
      | null => exact .inr ((cmp_eq_gt_iff _ _).2 (Standing.bot_lt_ofNumber _)).symm
      | int k => exact .inl ⟨i, k, rfl, rfl⟩
      | float y => exact .inr (compare_int_float i hb)
      | text t => exact .inr ((cmp_eq_lt_iff _ _).2 (Standing.ofNumber_lt_ofText _ _)).symm
  | float x =>
      cases b with
      | null => exact .inr ((cmp_eq_gt_iff _ _).2 (Standing.bot_lt_ofNumber _)).symm
      | int k => exact .inr (compare_float_int ha k)
      | float y => exact .inr (compare_numbers ha hb)
      | text t => exact .inr ((cmp_eq_lt_iff _ _).2 (Standing.ofNumber_lt_ofText _ _)).symm
  | text s =>
      cases b with
      | null => exact .inr ((cmp_eq_gt_iff _ _).2 (Standing.bot_lt_ofText _)).symm
      | int k => exact .inr ((cmp_eq_gt_iff _ _).2 (Standing.ofNumber_lt_ofText _ _)).symm
      | float y => exact .inr ((cmp_eq_gt_iff _ _).2 (Standing.ofNumber_lt_ofText _ _)).symm
      | text t => exact .inr (compare_text s t)

theorem compare_self {a : Cell} (ha : a.IsComparable) : a.compare a = .eq := by
  rcases compare_cases ha ha with ⟨i, k, rfl, -⟩ | h
  · rw [compare_int, cmp_self_eq_eq]
  · rw [h, cmp_self_eq_eq]

theorem compare_swap {a b : Cell} (ha : a.IsComparable) (hb : b.IsComparable) :
    b.compare a = (a.compare b).swap := by
  rcases compare_cases ha hb with ⟨i, k, rfl, rfl⟩ | hab
  · rw [compare_int, compare_int, cmp_swap]
  · rcases compare_cases hb ha with ⟨i, k, rfl, rfl⟩ | hba
    · rw [compare_int, compare_int, cmp_swap]
    · rw [hab, hba, cmp_swap]

/-- Rounding keeps the order of any two cells. -/
theorem roundedStanding_le {a b : Cell} (ha : a.IsComparable) (hb : b.IsComparable)
    (h : a.compare b ≠ .gt) : a.roundedStanding ≤ b.roundedStanding := by
  rcases compare_cases ha hb with ⟨i, k, rfl, rfl⟩ | hab
  · rw [compare_int, Ne, cmp_eq_gt_iff, not_lt] at h
    exact Standing.ofNumber_strictMono.monotone (ofRat_strictMono.monotone (roundedInt_mono h))
  · rwa [hab, Ne, cmp_eq_gt_iff, not_lt] at h

/-- The order is transitive but for a float between two integers that it cannot tell apart. -/
theorem compare_eq_gt_iff {a b c : Cell} (ha : a.IsComparable) (hb : b.IsComparable)
    (hc : c.IsComparable) (hab : a.compare b ≠ .gt) (hbc : b.compare c ≠ .gt) :
    a.compare c = .gt ↔ ∃ i y k, a = .int i ∧ b = .float y ∧ c = .int k ∧ k < i := by
  constructor
  · intro hgt
    rcases compare_cases ha hc with ⟨i, k, rfl, rfl⟩ | hac
    · rw [compare_int, cmp_eq_gt_iff] at hgt
      -- A text or nothing cannot stand between two integers, and a third integer keeps the order.
      cases b with
      | null => exact absurd rfl hab
      | int j =>
          rw [compare_int, Ne, cmp_eq_gt_iff] at hab hbc
          omega
      | float y => exact ⟨i, y, k, rfl, rfl, rfl, Int64.lt_iff_toInt_lt.2 hgt⟩
      | text t => exact absurd rfl hbc
    · have hle := (roundedStanding_le ha hb hab).trans (roundedStanding_le hb hc hbc)
      rw [hac, cmp_eq_gt_iff] at hgt
      exact absurd hgt hle.not_gt
  · rintro ⟨i, y, k, rfl, rfl, rfl, h⟩
    rw [compare_int, cmp_eq_gt_iff]
    exact Int64.lt_iff_toInt_lt.1 h

theorem compare_ne_eq_iff {a b c : Cell} (ha : a.IsComparable) (hb : b.IsComparable)
    (hc : c.IsComparable) (hab : a.compare b = .eq) (hbc : b.compare c = .eq) :
    a.compare c ≠ .eq ↔ ∃ i y k, a = .int i ∧ b = .float y ∧ c = .int k ∧ i ≠ k := by
  have hba : b.compare a = .eq := by rw [compare_swap ha hb, hab, Ordering.swap_eq]
  have hcb : c.compare b = .eq := by rw [compare_swap hb hc, hbc, Ordering.swap_eq]
  constructor
  · intro hne
    cases hac : a.compare c with
    | lt =>
        have hca : c.compare a = .gt := by rw [compare_swap ha hc, hac, Ordering.swap_lt]
        obtain ⟨k, y, i, rfl, rfl, rfl, h⟩ :=
          (compare_eq_gt_iff hc hb ha (by simp [hcb]) (by simp [hba])).1 hca
        exact ⟨i, y, k, rfl, rfl, rfl, Int64.ne_of_lt h⟩
    | eq => exact absurd hac hne
    | gt =>
        obtain ⟨i, y, k, rfl, rfl, rfl, h⟩ :=
          (compare_eq_gt_iff ha hb hc (by simp [hab]) (by simp [hbc])).1 hac
        exact ⟨i, y, k, rfl, rfl, rfl, (Int64.ne_of_lt h).symm⟩
  · rintro ⟨i, y, k, rfl, rfl, rfl, h⟩
    rw [compare_int, Ne, cmp_eq_eq_iff]
    exact fun he => h (Int64.toInt_inj.1 he)

theorem IsExact.isComparable {a : Cell} (ha : a.IsExact) : a.IsComparable := by
  cases a with
  | null => trivial
  | int i => trivial
  | float x => exact ha
  | text s => trivial

theorem IsExact.roundedStanding_eq {a : Cell} (ha : a.IsExact) :
    a.roundedStanding = a.standing := by
  cases a with
  | null => rfl
  | int i => rw [roundedStanding, standing, roundedInt_of_natAbs_le ha]
  | float x => rfl
  | text s => rfl

/-- Cells whose numbers are floats are compared by where they stand. -/
theorem compare_of_isExact {a b : Cell} (ha : a.IsExact) (hb : b.IsExact) :
    a.compare b = cmp a.standing b.standing := by
  rcases compare_cases ha.isComparable hb.isComparable with ⟨i, k, rfl, rfl⟩ | h
  · have hmono : StrictMono fun n : ℤ => Standing.ofNumber (.ofRat n) :=
      Standing.ofNumber_strictMono.comp (ofRat_strictMono.comp Int.cast_strictMono)
    rw [compare_int, ← hmono.cmp_map_eq]
    rfl
  · rw [h, ha.roundedStanding_eq, hb.roundedStanding_eq]

/-- The laws of the order.  It is reflexive, and total with its reverse.  It is transitive, and so
is equality, unless a float stands between two integers: these are compared exactly with each other
and as floats with it. -/
theorem compare_laws {a b c : Cell} (ha : a.IsComparable) (hb : b.IsComparable)
    (hc : c.IsComparable) :
    a.compare a = .eq ∧ b.compare a = (a.compare b).swap ∧
      (a.compare b ≠ .gt → b.compare c ≠ .gt →
        (a.compare c = .gt ↔ ∃ i y k, a = .int i ∧ b = .float y ∧ c = .int k ∧ k < i)) ∧
      (a.compare b = .eq → b.compare c = .eq →
        (a.compare c ≠ .eq ↔ ∃ i y k, a = .int i ∧ b = .float y ∧ c = .int k ∧ i ≠ k)) :=
  ⟨compare_self ha, compare_swap ha hb, compare_eq_gt_iff ha hb hc, compare_ne_eq_iff ha hb hc⟩

/-- The float 2^53. -/
def largeFloat : Cell := .float (.ofModel (.ofScientific 9007199254740992 0))

/-- It stands between the integers 2^53 + 1 and 2^53. -/
theorem compare_laws_neighbours :
    largeFloat.IsComparable ∧
      largeFloat.compare (.int 9007199254740993) =
        (compare (.int 9007199254740993) largeFloat).swap ∧
      (compare (.int 9007199254740993) (.int 9007199254740992) = .gt ↔ ∃ i y k,
        Cell.int 9007199254740993 = .int i ∧ largeFloat = .float y ∧
          Cell.int 9007199254740992 = .int k ∧ k < i) := by
  have hfloat : largeFloat.IsComparable := by decide +kernel
  obtain ⟨-, hswap, htrans, -⟩ := compare_laws (a := .int 9007199254740993)
    (c := .int 9007199254740992) trivial hfloat trivial
  exact ⟨hfloat, hswap, htrans (by decide +kernel) (by decide +kernel)⟩

/-- It equals both, and they are not equal. -/
theorem compare_not_trans :
    compare (.int 9007199254740993) largeFloat = .eq ∧
      largeFloat.compare (.int 9007199254740992) = .eq ∧
      compare (.int 9007199254740993) (.int 9007199254740992) = .gt := by
  decide +kernel

end Cell

end AskTables
