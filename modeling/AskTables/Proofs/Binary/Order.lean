import AskTables.Proofs.Binary.Rounding

/-!
# The order of floats

A float that is a number has a value: a rational number or one of the infinities.  Two floats are
compared by sign, exponent and mantissa, in this order.  That is the order of their values
(`compare_eq_cmp`, `lt_iff`, `beq_iff`), since a mantissa has all its digits unless the exponent is the least
one.
-/

namespace AskTables.Binary

open Float.Model Float.Model.UnpackedFloat

/-- The rational numbers with an infinity at either end. -/
abbrev Value := WithBot (WithTop ℚ)

/-- A rational number as a value. -/
def Value.ofRat (v : ℚ) : Value := ((v : WithTop ℚ) : Value)

/-- The value of a float in parts.  What is no number has none and is put with the least. -/
def valueOf : UnpackedFloat → Value
  | .notANumber => ⊥
  | .infinity .negative => ⊥
  | .infinity .positive => ((⊤ : WithTop ℚ) : Value)
  | .zero _ => .ofRat 0
  | .finite s m q _ => .ofRat ((s.apply m : ℤ) * 2 ^ q)

/-- The parts of a float that is a number. -/
inductive IsNumber : UnpackedFloat → Prop where
  | infinity (s : Sign) : IsNumber (.infinity s)
  | zero (s : Sign) : IsNumber (.zero s)
  | finite (s : Sign) {m : ℕ} {q : ℤ} (hc : Canonical m q) : IsNumber (.finite s m q hc.pos)

variable {m₁ m₂ : ℕ} {q₁ q₂ : ℤ}

theorem ofRat_lt_ofRat {v w : ℚ} : Value.ofRat v < .ofRat w ↔ v < w := by
  rw [Value.ofRat, Value.ofRat, WithBot.coe_lt_coe, WithTop.coe_lt_coe]

/-- Finite values are ordered as the rationals are. -/
theorem ofRat_strictMono : StrictMono Value.ofRat := fun _ _ => ofRat_lt_ofRat.2

/-- The larger exponent has the larger value, since its mantissa has all digits. -/
theorem lt_of_exponent_lt (h₁ : Canonical m₁ q₁) (h₂ : Canonical m₂ q₂) (h : q₁ < q₂) :
    (m₁ : ℚ) * 2 ^ q₁ < m₂ * 2 ^ q₂ := by
  have hleast := h₁.least
  have hfull : 2 ^ 52 ≤ m₂ := h₂.full.resolve_right (by omega)
  calc (m₁ : ℚ) * 2 ^ q₁ < 2 ^ 53 * 2 ^ q₁ := by
        gcongr
        exact_mod_cast h₁.lt
    _ = 2 ^ 52 * 2 ^ (q₁ + 1) := by
        rw [zpow_add_one₀ (by norm_num)]
        ring
    _ ≤ m₂ * 2 ^ q₂ := by
        gcongr
        · exact_mod_cast hfull
        · norm_num
        · omega

/-- Comparing exponents and then mantissas compares the values, since mantissas are full unless the
exponent is the least. -/
theorem compare_canonical (h₁ : Canonical m₁ q₁) (h₂ : Canonical m₂ q₂) :
    (compare q₁ q₂).then (compare m₁ m₂) = cmp ((m₁ : ℚ) * 2 ^ q₁) (m₂ * 2 ^ q₂) := by
  rcases lt_trichotomy q₁ q₂ with h | rfl | h
  · rw [compare_lt_iff_lt.2 h, (cmp_eq_lt_iff _ _).2 (lt_of_exponent_lt h₁ h₂ h)]
    rfl
  · have hmono : StrictMono fun m : ℕ => (m : ℚ) * 2 ^ q₁ := fun m m' h => by
      dsimp only
      gcongr
    rw [compare_eq_iff_eq.2 rfl, ← cmp_eq_compare, ← hmono.cmp_map_eq]
    rfl
  · rw [compare_gt_iff_gt.2 h, (cmp_eq_gt_iff _ _).2 (lt_of_exponent_lt h₂ h₁ h)]
    rfl

theorem bot_lt_ofRat (v : ℚ) : (⊥ : Value) < .ofRat v := WithBot.bot_lt_coe _

theorem ofRat_lt_top (v : ℚ) : Value.ofRat v < ((⊤ : WithTop ℚ) : Value) :=
  WithBot.coe_lt_coe.2 (WithTop.coe_lt_top v)

theorem bot_lt_top : (⊥ : Value) < ((⊤ : WithTop ℚ) : Value) := WithBot.bot_lt_coe _

theorem apply_pos {m : ℕ} {q : ℤ} (hm : 0 < m) : (0 : ℚ) < (Sign.positive.apply m : ℤ) * 2 ^ q := by
  have h : (0 : ℚ) < m := by exact_mod_cast hm
  simp only [Sign.apply, Int.cast_natCast]
  positivity

theorem apply_neg {m : ℕ} {q : ℤ} (hm : 0 < m) : (Sign.negative.apply m : ℤ) * (2 : ℚ) ^ q < 0 := by
  have h : (0 : ℚ) < m := by exact_mod_cast hm
  simp only [Sign.apply, Int.cast_neg, Int.cast_natCast, neg_mul]
  rw [neg_lt_zero]
  positivity

theorem some_eq_cmp {v : Value} : some Ordering.eq = some (cmp v v) := by rw [cmp_self_eq_eq]

theorem some_lt_cmp {v w : Value} (h : v < w) : some Ordering.lt = some (cmp v w) := by
  rw [(cmp_eq_lt_iff v w).2 h]

theorem some_gt_cmp {v w : Value} (h : w < v) : some Ordering.gt = some (cmp v w) := by
  rw [(cmp_eq_gt_iff v w).2 h]

/-- Finite floats of any signs compare as their values do. -/
theorem compare_finite {s t : Sign} {h₁ : 0 < m₁} {h₂ : 0 < m₂} (hc₁ : Canonical m₁ q₁)
    (hc₂ : Canonical m₂ q₂) : UnpackedFloat.compare (.finite s m₁ q₁ h₁) (.finite t m₂ q₂ h₂) =
      some (cmp (valueOf (.finite s m₁ q₁ h₁)) (valueOf (.finite t m₂ q₂ h₂))) := by
  cases s <;> cases t
  case negative.negative =>
    have hanti : StrictAnti fun v : ℚ => -v := fun _ _ => neg_lt_neg
    simp only [UnpackedFloat.compare, valueOf, ofRat_strictMono.cmp_map_eq, Sign.apply,
      Int.cast_neg, Int.cast_natCast, neg_mul]
    rw [compare_canonical hc₁ hc₂, cmp_swap, ← hanti.cmp_map_eq]
  case negative.positive =>
    exact some_lt_cmp (ofRat_lt_ofRat.2 ((apply_neg h₁).trans (apply_pos h₂)))
  case positive.negative =>
    exact some_gt_cmp (ofRat_lt_ofRat.2 ((apply_neg h₂).trans (apply_pos h₁)))
  case positive.positive =>
    simp only [UnpackedFloat.compare, valueOf, ofRat_strictMono.cmp_map_eq, Sign.apply,
      Int.cast_natCast]
    rw [compare_canonical hc₁ hc₂]

/-- Comparing floats is comparing values. -/
theorem compare_eq_cmp {a b : UnpackedFloat} (ha : IsNumber a) (hb : IsNumber b) :
    a.compare b = some (cmp (valueOf a) (valueOf b)) := by
  cases ha with
  | infinity s =>
      cases s with
      | negative =>
          cases hb with
          | infinity t =>
              cases t with
              | negative => exact some_eq_cmp
              | positive => exact some_lt_cmp bot_lt_top
          | zero t => exact some_lt_cmp (bot_lt_ofRat _)
          | finite t hc => exact some_lt_cmp (bot_lt_ofRat _)
      | positive =>
          cases hb with
          | infinity t =>
              cases t with
              | negative => exact some_gt_cmp bot_lt_top
              | positive => exact some_eq_cmp
          | zero t => exact some_gt_cmp (ofRat_lt_top _)
          | finite t hc => exact some_gt_cmp (ofRat_lt_top _)
  | zero s =>
      cases hb with
      | infinity t =>
          cases t with
          | negative => exact some_gt_cmp (bot_lt_ofRat _)
          | positive => exact some_lt_cmp (ofRat_lt_top _)
      | zero t => exact some_eq_cmp
      | finite t hc =>
          cases t with
          | negative => exact some_gt_cmp (ofRat_lt_ofRat.2 (apply_neg hc.pos))
          | positive => exact some_lt_cmp (ofRat_lt_ofRat.2 (apply_pos hc.pos))
  | finite s hc =>
      cases hb with
      | infinity t =>
          cases t with
          | negative => exact some_gt_cmp (bot_lt_ofRat _)
          | positive => exact some_lt_cmp (ofRat_lt_top _)
      | zero t =>
          cases s with
          | negative => exact some_lt_cmp (ofRat_lt_ofRat.2 (apply_neg hc.pos))
          | positive => exact some_gt_cmp (ofRat_lt_ofRat.2 (apply_pos hc.pos))
      | finite t hc' => exact compare_finite hc hc'

/-- The value of a float. -/
def value (x : Float) : Value := valueOf x.toModel.unpack

theorem IsNumber.isNaN_eq_false {a : UnpackedFloat} (ha : IsNumber a) : a.isNaN = false := by
  cases ha <;> rfl

theorem isNumber_unpack {x : Float} (hx : x.isNaN = false) : IsNumber x.toModel.unpack := by
  change x.toModel.unpack.isNaN = false at hx
  cases h : x.toModel.unpack with
  | notANumber =>
      rw [h] at hx
      cases hx
  | infinity s => exact .infinity s
  | zero s => exact .zero s
  | finite s m q hm => exact .finite s (canonical_of_unpack h)

variable {x y : Float}

theorem lt_iff_compare : x < y ↔ x.toModel.unpack.compare y.toModel.unpack = some .lt := by
  rw [← beq_iff_eq]
  exact decide_eq_true_iff

theorem beq_iff_compare : x == y ↔ x.toModel.unpack.compare y.toModel.unpack = some .eq := by
  have hbeq : (x == y) = (x.toModel.unpack.compare y.toModel.unpack == some .eq) := rfl
  rw [hbeq, beq_iff_eq]

/-- Numbers are less than one another as their values are. -/
theorem lt_iff (hx : x.isNaN = false) (hy : y.isNaN = false) : x < y ↔ value x < value y := by
  rw [lt_iff_compare, compare_eq_cmp (isNumber_unpack hx) (isNumber_unpack hy), Option.some.injEq,
    cmp_eq_lt_iff]
  rfl

/-- Numbers are equal as floats if their values are, so the two zeros are. -/
theorem beq_iff (hx : x.isNaN = false) (hy : y.isNaN = false) : x == y ↔ value x = value y := by
  rw [beq_iff_compare, compare_eq_cmp (isNumber_unpack hx) (isNumber_unpack hy), Option.some.injEq,
    cmp_eq_eq_iff]
  rfl

/-! ## One of three -/

/-- Only numbers are compared. -/
theorem isNaN_of_compare {a b : UnpackedFloat} {o : Ordering} (h : a.compare b = some o) :
    a.isNaN = false ∧ b.isNaN = false := by
  constructor
  · cases a with
    | notANumber => cases h
    | _ => rfl
  · cases b with
    | notANumber => cases a <;> cases h
    | _ => rfl

theorem not_lt_of_beq (h : x == y) : ¬ x < y := by
  rw [lt_iff_compare, beq_iff_compare.1 h]
  simp

theorem not_lt_of_lt (h : x < y) : ¬ y < x := by
  obtain ⟨hx, hy⟩ := isNaN_of_compare (lt_iff_compare.1 h)
  rw [lt_iff hy hx]
  exact ((lt_iff hx hy).1 h).asymm

/-- Any two numbers compare. -/
theorem lt_or_beq_or_lt (hx : x.isNaN = false) (hy : y.isNaN = false) : x < y ∨ x == y ∨ y < x := by
  rw [lt_iff hx hy, beq_iff hx hy, lt_iff hy hx]
  exact lt_trichotomy _ _

end AskTables.Binary
