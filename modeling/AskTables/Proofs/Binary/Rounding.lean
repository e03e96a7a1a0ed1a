import AskTables.Proofs.Binary.Bits

/-!
# Rounding

The product and the quotient of two floats, and the float of a decimal, are computed exactly at
first, as a mantissa with a note on what is cut off, and rounded to 53 digits then.  So the result
depends on the exact value alone, and not on how it was come by: it is `nearest` of that value.  Two
computations with one exact value have the same result.
-/

namespace AskTables.Binary

open Float.Model Float.Model.UnpackedFloat

/-! ## Cutting off digits -/

/-- A value cut to a whole number.  What is lost is kept as far as rounding asks for it: whether it
is half or more, and whether it is anything but nothing and half. -/
def cut (w : ℚ) : ExtendedMantissa :=
  ⟨⌊w⌋₊, decide (1 / 2 ≤ w - ⌊w⌋₊), decide (w - ⌊w⌋₊ ≠ 0 ∧ w - ⌊w⌋₊ ≠ 1 / 2)⟩

/-- Of a value between two whole numbers, cutting keeps the lower, whether half of a unit is lost,
and whether anything else is. -/
theorem cut_add (n : ℕ) {f : ℚ} (hf : 0 ≤ f) (hlt : f < 1) :
    cut (n + f) = ⟨n, decide (1 / 2 ≤ f), decide (f ≠ 0 ∧ f ≠ 1 / 2)⟩ := by
  have hfloor : ⌊(n : ℚ) + f⌋₊ = n := by
    rw [Nat.floor_eq_iff (by positivity)]
    constructor <;> linarith
  rw [cut, hfloor, add_sub_cancel_left]

theorem cut_natCast (n : ℕ) : cut n = ⟨n, false, false⟩ := by
  have hcut := cut_add n (le_refl 0) (by norm_num)
  rw [add_zero] at hcut
  rw [hcut]
  norm_num

theorem exists_floor_add {w : ℚ} (hw : 0 ≤ w) : ∃ (n : ℕ) (f : ℚ), w = n + f ∧ 0 ≤ f ∧ f < 1 :=
  ⟨⌊w⌋₊, w - ⌊w⌋₊, by ring, by linarith [Nat.floor_le hw], by linarith [Nat.lt_floor_add_one w]⟩

/-- The last digit cut off is the new half, and the digits before it are something unless all are
zero. -/
theorem shiftRightOne_cut {w : ℚ} (hw : 0 ≤ w) : (cut w).shiftRightOne = cut (w / 2) := by
  obtain ⟨n, f, rfl, hf, hlt⟩ := exists_floor_add hw
  rw [cut_add n hf hlt, ExtendedMantissa.shiftRightOne]
  have hlost : (decide (1 / 2 ≤ f) || decide (f ≠ 0 ∧ f ≠ 1 / 2)) = decide (f ≠ 0) := by
    rw [← Bool.decide_or, decide_eq_decide]
    constructor
    · rintro (h | h)
      · linarith
      · exact h.1
    · intro h
      by_cases hhalf : f = 1 / 2
      · exact .inl hhalf.ge
      · exact .inr ⟨h, hhalf⟩
  -- An odd mantissa leaves one half more than an even one.
  obtain ⟨k, rfl | rfl⟩ := Nat.even_or_odd' n
  · have hsplit : (((2 * k : ℕ) : ℚ) + f) / 2 = (k : ℕ) + f / 2 := by
      push_cast
      ring
    rw [hsplit, cut_add k (by linarith) (by linarith), ExtendedMantissa.mk.injEq]
    refine ⟨by dsimp only; omega, ?_, ?_⟩
    · have hhalf : ¬ (1 / 2 ≤ f / 2) := by linarith
      have heven : 2 * k % 2 = 0 := by omega
      simp only [hhalf, heven, decide_false]
      rfl
    · rw [hlost, decide_eq_decide]
      constructor
      · intro h
        exact ⟨by positivity, by linarith⟩
      · rintro ⟨h, -⟩ rfl
        norm_num at h
  · have hsplit : (((2 * k + 1 : ℕ) : ℚ) + f) / 2 = (k : ℕ) + (1 + f) / 2 := by
      push_cast
      ring
    rw [hsplit, cut_add k (by linarith) (by linarith), ExtendedMantissa.mk.injEq]
    refine ⟨by dsimp only; omega, ?_, ?_⟩
    · have hhalf : 1 / 2 ≤ (1 + f) / 2 := by linarith
      have hodd : (2 * k + 1) % 2 = 1 := by omega
      simp only [hhalf, hodd, decide_true]
      rfl
    · rw [hlost, decide_eq_decide]
      constructor
      · intro h
        refine ⟨by positivity, fun he => h ?_⟩
        linarith
      · rintro ⟨-, h⟩ rfl
        norm_num at h

/-- Shifting by some places is cutting after a division by a power of two. -/
theorem shiftRight_cut {w : ℚ} (hw : 0 ≤ w) (n : ℕ) : cut w >>> n = cut (w / 2 ^ n) := by
  induction n with
  | zero =>
      rw [pow_zero, div_one]
      rfl
  | succ n ih =>
      change (cut w >>> n).shiftRightOne = _
      rw [ih, shiftRightOne_cut (by positivity), div_div, ← pow_succ]

/-! ## The exponent of a value -/

/-- The exponent of the floats around a value. -/
def exponentOf (v : ℚ) : ℤ := max (Int.log 2 v - 52) (-1074)

theorem targetExponent_eq (t : ℤ) : Format.binary64.targetExponent t = max (t - 53) (-1074) := rfl

/-- Cutting a value does not change its logarithm, if it is not below the unit. -/
theorem log_eq {v : ℚ} {e : ℤ} (hv : 2 ^ e ≤ v) :
    Int.log 2 v = (⌊v / 2 ^ e⌋₊.log2 : ℤ) + e := by
  have hunit : (0 : ℚ) < 2 ^ e := by positivity
  have hpos : 0 < v := lt_of_lt_of_le hunit hv
  have hone : ⌊v / 2 ^ e⌋₊ ≠ 0 := by
    have hle : 1 ≤ v / 2 ^ e := (one_le_div hunit).2 hv
    have hfloor := Nat.le_floor (n := 1) (by exact_mod_cast hle)
    omega
  apply le_antisymm
  · rw [← Int.lt_add_one_iff, ← Int.lt_zpow_iff_log_lt (by norm_num) hpos]
    have hlt : v / 2 ^ e < 2 ^ (⌊v / 2 ^ e⌋₊.log2 + 1) := by
      refine lt_of_lt_of_le (Nat.lt_floor_add_one _) ?_
      exact_mod_cast Nat.lt_log2_self (n := ⌊v / 2 ^ e⌋₊)
    rw [div_lt_iff₀ hunit] at hlt
    have hpow : ((2 : ℕ) : ℚ) ^ ((⌊v / 2 ^ e⌋₊.log2 : ℤ) + e + 1) =
        2 ^ (⌊v / 2 ^ e⌋₊.log2 + 1) * 2 ^ e := by
      rw [← zpow_natCast, Nat.cast_two, ← zpow_add₀ (by norm_num)]
      congr 1
      push_cast
      ring
    rwa [hpow]
  · rw [← Int.zpow_le_iff_le_log (by norm_num) hpos]
    have hle : (2 : ℚ) ^ ⌊v / 2 ^ e⌋₊.log2 ≤ v / 2 ^ e := by
      refine le_trans ?_ (Nat.floor_le (by positivity))
      exact_mod_cast Nat.log2_self_le hone
    rw [le_div_iff₀ hunit] at hle
    have hpow : ((2 : ℕ) : ℚ) ^ ((⌊v / 2 ^ e⌋₊.log2 : ℤ) + e) = 2 ^ ⌊v / 2 ^ e⌋₊.log2 * 2 ^ e := by
      rw [← zpow_natCast, Nat.cast_two, ← zpow_add₀ (by norm_num)]
    rwa [hpow]

/-- The exponent of a cut value is that of the value. -/
theorem targetExponent_totalExponent {v : ℚ} {e : ℤ} (hv : 2 ^ e ≤ v) :
    Format.binary64.targetExponent (totalExponent ⌊v / 2 ^ e⌋₊ e) = exponentOf v := by
  rw [targetExponent_eq, totalExponent, exponentOf, log_eq hv]
  congr 1
  ring

/-! ## The nearest float -/

/-- The float nearest to a positive value, with an even last digit in a tie. -/
def nearest (s : Sign) (v : ℚ) : UnpackedFloat :=
  let rounded := (cut (v / 2 ^ exponentOf v)).roundedMantissa
  let final := shiftToTargetExponent .binary64 rounded (exponentOf v) .exact
  if h : final.1.mantissa = 0 then .zero s
  else .finite s final.1.mantissa final.2 (Nat.pos_of_ne_zero h)

variable {m : ℕ} {e : ℤ} {acc : Accuracy} {v : ℚ} {s : Sign}

/-- A mantissa with a note on what is cut off is brought to the exponent of its value, if it has
digits enough. -/
theorem shiftToTargetExponent_eq_cut
    (hcut : ExtendedMantissa.ofMantissaAndAccuracy m acc = cut (v / 2 ^ e)) (hv : 2 ^ e ≤ v)
    (he : e ≤ exponentOf v) :
    shiftToTargetExponent .binary64 m e acc = (cut (v / 2 ^ exponentOf v), exponentOf v) := by
  have hpos : 0 < v := lt_of_lt_of_le (by positivity) hv
  have hm : m = ⌊v / 2 ^ e⌋₊ := by
    have hmantissa : (ExtendedMantissa.ofMantissaAndAccuracy m acc).mantissa = m := by
      rcases acc with _ | _ | _ | _ <;> rfl
    rw [← hmantissa, hcut]
    rfl
  obtain ⟨n, hn⟩ := Int.eq_ofNat_of_zero_le (sub_nonneg.2 he)
  have hexponent : exponentOf v = e + n := by omega
  have hvalue : v / 2 ^ e / 2 ^ n = v / 2 ^ (e + n) := by
    rw [div_div, zpow_add₀ (by norm_num), zpow_natCast]
  rw [shiftToTargetExponent, hm, targetExponent_totalExponent hv, ← hm, shiftToExponent, hcut, hn,
    Int.toNat_natCast, shiftRight_cut (by positivity), hvalue, hexponent]

/-- It is rounded to the float nearest to the value then. -/
theorem roundWithAccuracy_eq_nearest
    (hcut : ExtendedMantissa.ofMantissaAndAccuracy m acc = cut (v / 2 ^ e)) (hv : 2 ^ e ≤ v)
    (he : e ≤ exponentOf v) : roundWithAccuracy .binary64 s m e acc = nearest s v := by
  rw [roundWithAccuracy, shiftToTargetExponent_eq_cut hcut hv he]
  rfl

theorem cut_exact (m : ℕ) (e : ℤ) :
    ExtendedMantissa.ofMantissaAndAccuracy m .exact = cut (m * 2 ^ e / 2 ^ e) := by
  rw [mul_div_cancel_right₀ _ (by positivity), cut_natCast]
  rfl

theorem le_value {m : ℕ} (hm : 0 < m) (e : ℤ) : (2 : ℚ) ^ e ≤ m * 2 ^ e := by
  have hone : (1 : ℚ) ≤ m := by exact_mod_cast hm
  exact le_mul_of_one_le_left (by positivity) hone

theorem log_value {m : ℕ} (hm : 0 < m) (e : ℤ) : Int.log 2 ((m : ℚ) * 2 ^ e) = m.log2 + e := by
  rw [log_eq (le_value hm e), mul_div_cancel_right₀ _ (by positivity), Nat.floor_natCast]

/-- An exact mantissa with all digits is rounded to the nearest float. -/
theorem roundWithAccuracy_exact (hm : 2 ^ 52 ≤ m) :
    roundWithAccuracy .binary64 s m e .exact = nearest s (m * 2 ^ e) := by
  have hpos : 0 < m := by omega
  refine roundWithAccuracy_eq_nearest (cut_exact m e) (le_value hpos e) ?_
  have hlog : 52 ≤ m.log2 := (Nat.le_log2 (by omega)).2 hm
  rw [exponentOf, log_value hpos]
  omega

/-- A float has the exponent that its value calls for. -/
theorem exponentOf_canonical (hc : Canonical m e) : exponentOf (m * 2 ^ e) = e := by
  have hle := log2_le hc.lt
  have hleast := hc.least
  rw [exponentOf, log_value hc.pos]
  rcases hc.full with hfull | hleast
  · rw [log2_eq hfull hc.lt]
    omega
  · omega

theorem cut_canonical (hc : Canonical m e) :
    cut ((m : ℚ) * 2 ^ e / 2 ^ exponentOf (m * 2 ^ e)) = ⟨m, false, false⟩ := by
  rw [exponentOf_canonical hc, mul_div_cancel_right₀ _ (by positivity), cut_natCast]

/-- Whatever exact mantissa a float is given by, it is brought to its canonical one. -/
theorem shiftToTargetExponent_canonical {r : ℕ} {d : ℤ} (hc : Canonical m e) (hr : 0 < r)
    (hd : d ≤ e) (hvalue : (r : ℚ) * 2 ^ d = m * 2 ^ e) :
    shiftToTargetExponent .binary64 r d .exact = (⟨m, false, false⟩, e) := by
  have hexponent := exponentOf_canonical hc
  have hle : d ≤ exponentOf ((r : ℚ) * 2 ^ d) := by rwa [hvalue, hexponent]
  rw [shiftToTargetExponent_eq_cut (cut_exact r d) (le_value hr d) hle, hvalue, cut_canonical hc,
    hexponent]

/-- The nearest float has the value that is left after rounding. -/
theorem nearest_eq_finite {hm : 0 < m} {r : ℕ} (hc : Canonical m e) (hr : 0 < r)
    (hround : (cut (v / 2 ^ exponentOf v)).roundedMantissa = r) (hle : exponentOf v ≤ e)
    (hvalue : (r : ℚ) * 2 ^ exponentOf v = m * 2 ^ e) : nearest s v = .finite s m e hm := by
  simp only [nearest, hround, shiftToTargetExponent_canonical hc hr hle hvalue]
  rw [dif_neg (by omega)]

/-- A value that is a float is its own nearest. -/
theorem nearest_canonical {hm : 0 < m} (hc : Canonical m e) :
    nearest s (m * 2 ^ e) = .finite s m e hm := by
  have hexponent := exponentOf_canonical hc
  have hround : (cut ((m : ℚ) * 2 ^ e / 2 ^ exponentOf (m * 2 ^ e))).roundedMantissa = m := by
    rw [cut_canonical hc]
    rfl
  exact nearest_eq_finite hc hm hround hexponent.le (by rw [hexponent])

/-! ## Products and quotients -/

variable {m₁ m₂ : ℕ} {e₁ e₂ : ℤ} {s₁ s₂ : Sign} {h₁ : 0 < m₁} {h₂ : 0 < m₂}

/-- Multiplication of floats rounds the exact product. -/
theorem mul_eq_nearest (h : 2 ^ 52 ≤ m₁ * m₂) :
    UnpackedFloat.mul .binary64 (.finite s₁ m₁ e₁ h₁) (.finite s₂ m₂ e₂ h₂) =
      nearest (s₁ * s₂) (m₁ * 2 ^ e₁ * (m₂ * 2 ^ e₂)) := by
  have hvalue : ((m₁ * m₂ : ℕ) : ℚ) * 2 ^ (e₁ + e₂) = m₁ * 2 ^ e₁ * (m₂ * 2 ^ e₂) := by
    rw [zpow_add₀ (by norm_num)]
    push_cast
    ring
  rw [UnpackedFloat.mul, roundWithAccuracy_exact h, hvalue]

/-- What a division of natural numbers leaves is what is cut off the quotient. -/
theorem cut_div (n : ℕ) {d : ℕ} (hd : 0 < d) :
    ExtendedMantissa.ofMantissaAndAccuracy (n / d) (accuracyOfFraction (n % d) d) =
      cut ((n : ℚ) / d) := by
  have hpos : (0 : ℚ) < d := by exact_mod_cast hd
  have hsplit : (n : ℚ) / d = (n / d : ℕ) + (n % d : ℕ) / d := by
    have hnat : (n : ℚ) = (d : ℚ) * (n / d : ℕ) + (n % d : ℕ) := by
      exact_mod_cast (Nat.div_add_mod n d).symm
    rw [eq_comm, ← mul_right_inj' hpos.ne', mul_add, mul_div_cancel₀ _ hpos.ne',
      mul_div_cancel₀ _ hpos.ne', hnat]
  have hlt : ((n % d : ℕ) : ℚ) / d < 1 := by
    rw [div_lt_one hpos]
    exact_mod_cast Nat.mod_lt n hd
  have hhalf : 1 / 2 ≤ ((n % d : ℕ) : ℚ) / d ↔ d ≤ 2 * (n % d) := by
    rw [le_div_iff₀ hpos, one_div, inv_mul_le_iff₀ (by norm_num)]
    exact_mod_cast Iff.rfl
  have heq : ((n % d : ℕ) : ℚ) / d = 1 / 2 ↔ 2 * (n % d) = d := by
    rw [div_eq_iff hpos.ne', one_div, eq_inv_mul_iff_mul_eq₀ (by norm_num)]
    exact_mod_cast Iff.rfl
  have hzero : ((n % d : ℕ) : ℚ) / d = 0 ↔ n % d = 0 := by
    rw [div_eq_zero_iff, Nat.cast_eq_zero, Nat.cast_eq_zero, or_iff_left hd.ne']
  rw [hsplit, cut_add _ (by positivity) hlt]
  simp only [ne_eq, hhalf, heq, hzero, accuracyOfFraction]
  split
  · rename_i hexact
    simp [ExtendedMantissa.ofMantissaAndAccuracy, hexact, hd.ne']
  · rename_i hinexact
    rcases lt_trichotomy (2 * (n % d)) d with h | h | h
    · rw [Nat.compare_eq_lt.2 h]
      simp [ExtendedMantissa.ofMantissaAndAccuracy, hinexact, h.ne, h]
    · rw [Nat.compare_eq_eq.2 h]
      simp [ExtendedMantissa.ofMantissaAndAccuracy, h]
    · rw [Nat.compare_eq_gt.2 h]
      simp [ExtendedMantissa.ofMantissaAndAccuracy, hinexact, h.ne', h.le]

theorem le_log_div (h₁ : 0 < m₁) (h₂ : 0 < m₂) :
    totalExponent m₁ e₁ - totalExponent m₂ e₂ - 1 ≤
      Int.log 2 ((m₁ : ℚ) * 2 ^ e₁ / (m₂ * 2 ^ e₂)) := by
  have hpos₁ : (0 : ℚ) < m₁ * 2 ^ e₁ := by positivity
  have hpos₂ : (0 : ℚ) < m₂ * 2 ^ e₂ := by positivity
  have hlow := Int.zpow_log_le_self (b := 2) (by norm_num) hpos₁
  have hhigh := Int.lt_zpow_succ_log_self (b := 2) (by norm_num) ((m₂ : ℚ) * 2 ^ e₂)
  rw [log_value h₁, Nat.cast_two] at hlow
  rw [log_value h₂, Nat.cast_two] at hhigh
  rw [← Int.zpow_le_iff_le_log (by norm_num) (by positivity), le_div_iff₀ hpos₂, Nat.cast_two]
  calc (2 : ℚ) ^ (totalExponent m₁ e₁ - totalExponent m₂ e₂ - 1) * (m₂ * 2 ^ e₂)
      ≤ 2 ^ (totalExponent m₁ e₁ - totalExponent m₂ e₂ - 1) * 2 ^ ((m₂.log2 : ℤ) + e₂ + 1) := by
        gcongr
    _ = 2 ^ ((m₁.log2 : ℤ) + e₁) := by
        rw [← zpow_add₀ (by norm_num), totalExponent, totalExponent]
        congr 1
        ring
    _ ≤ m₁ * 2 ^ e₁ := hlow

/-- Division of floats rounds the exact quotient. -/
theorem div_eq_nearest (hv : 2 ^ (-1074 : ℤ) ≤ (m₁ : ℚ) * 2 ^ e₁ / (m₂ * 2 ^ e₂)) :
    UnpackedFloat.div .binary64 (.finite s₁ m₁ e₁ h₁) (.finite s₂ m₂ e₂ h₂) =
      nearest (s₁ / s₂) (m₁ * 2 ^ e₁ / (m₂ * 2 ^ e₂)) := by
  have hlog := @le_log_div _ _ e₁ e₂ h₁ h₂
  generalize hvalue : (m₁ : ℚ) * 2 ^ e₁ / (m₂ * 2 ^ e₂) = v at hv hlog ⊢
  have hpos : 0 < v := lt_of_lt_of_le (by positivity) hv
  have hleast : -1074 ≤ Int.log 2 v := by
    rw [← Int.zpow_le_iff_le_log (by norm_num) hpos]
    exact_mod_cast hv
  generalize ht : min (e₁ - e₂)
    (Format.binary64.targetExponent (totalExponent m₁ e₁ - totalExponent m₂ e₂)) = t
  rw [targetExponent_eq] at ht
  have hexponent : t ≤ exponentOf v := by
    rw [exponentOf]
    omega
  have hunit : 2 ^ t ≤ v := by
    refine le_trans ?_ (Int.zpow_log_le_self (b := 2) (by norm_num) hpos)
    rw [Nat.cast_two]
    exact zpow_le_zpow_right₀ (by norm_num) (by omega)
  obtain ⟨k, hk⟩ := Int.eq_ofNat_of_zero_le (show 0 ≤ e₁ - e₂ - t by omega)
  have hcut : (((m₁ <<< k : ℕ) : ℚ)) / m₂ = v / 2 ^ t := by
    have hsplit : e₁ = t + k + e₂ := by omega
    rw [← hvalue, hsplit, zpow_add₀ (by norm_num), zpow_add₀ (by norm_num), zpow_natCast,
      Nat.shiftLeft_eq]
    push_cast
    field_simp
  simp only [UnpackedFloat.div, divCore, targetExponent_eq, ht, hk, Int.toNat_natCast]
  refine roundWithAccuracy_eq_nearest ?_ hunit hexponent
  rw [cut_div _ h₂, hcut]

/-- The zeros that bring a number to 53 binary digits. -/
theorem mul_two_pow_bounds {n i : ℕ} (hpos : 0 < n) (hi : 52 = n.log2 + i) :
    2 ^ 52 ≤ n * 2 ^ i ∧ n * 2 ^ i < 2 ^ 53 := by
  constructor
  · rw [hi, pow_add]
    exact Nat.mul_le_mul_right _ (Nat.log2_self_le hpos.ne')
  · rw [show 53 = n.log2 + 1 + i by omega, pow_add]
    exact Nat.mul_lt_mul_of_pos_right Nat.lt_log2_self (by positivity)

/-- A whole number is brought to all digits first, unless it has them. -/
theorem round_eq_nearest {n : ℕ} (hpos : 0 < n) : round .binary64 s n 0 = nearest s n := by
  generalize hshift : (0 - Format.binary64.targetExponent (totalExponent n 0)).toNat = i
  rw [targetExponent_eq, totalExponent] at hshift
  have hlow : 2 ^ 52 ≤ n <<< i := by
    rw [Nat.shiftLeft_eq]
    rcases Nat.lt_or_ge n (2 ^ 53) with hlt | hge
    · exact (mul_two_pow_bounds hpos (by have := log2_le hlt; omega)).1
    · calc 2 ^ 52 ≤ n := by omega
        _ ≤ n * 2 ^ i := Nat.le_mul_of_pos_right n (by positivity)
  have hvalue : ((n <<< i : ℕ) : ℚ) * 2 ^ (0 - (i : ℤ)) = n := by
    rw [Nat.shiftLeft_eq, zero_sub, zpow_neg, zpow_natCast]
    push_cast
    field_simp
  simp only [UnpackedFloat.round, decreaseExponent, targetExponent_eq, totalExponent, hshift]
  rw [roundWithAccuracy_exact hlow, hvalue]

/-! ## Decimals -/

/-- A decimal numeral within the range is rounded once. -/
theorem ofScientific_eq_nearest {m : ℕ} {e : ℤ} (hm : 0 < m) (hlow : -2048 ≤ e) (hhigh : e ≤ 2048)
    (hv : 2 ^ (-1074 : ℤ) ≤ (m : ℚ) * 10 ^ e) :
    UnpackedFloat.ofScientific .binary64 m e = nearest .positive (m * 10 ^ e) := by
  have hbits : (2 : ℤ) ^ Format.binary64.exponentBits = 2048 := by decide
  have hwidth : Format.binary64.mantissaBits = 53 := by decide
  rw [UnpackedFloat.ofScientific, dif_neg hm.ne', hbits, if_neg (by omega), if_neg (by omega)]
  split
  · rename_i he
    obtain ⟨k, rfl⟩ := Int.eq_ofNat_of_zero_le he
    have hlarge : 2 ^ 52 ≤ (m <<< Format.binary64.mantissaBits) * 10 ^ ((k : ℤ)).toNat := by
      rw [Nat.shiftLeft_eq, hwidth]
      have hten : 1 ≤ 10 ^ ((k : ℤ)).toNat := Nat.one_le_pow _ _ (by norm_num)
      nlinarith
    have hvalue : (((m <<< Format.binary64.mantissaBits : ℕ) : ℚ) *
          2 ^ (-(Format.binary64.mantissaBits : ℤ))) *
        ((10 ^ ((k : ℤ)).toNat : ℕ) * 2 ^ (0 : ℤ)) = m * 10 ^ (k : ℤ) := by
      rw [Nat.shiftLeft_eq, hwidth, Int.toNat_natCast]
      push_cast
      rw [zpow_neg, zpow_natCast]
      field_simp
      norm_num
    rw [mul_eq_nearest hlarge, hvalue]
    rfl
  · rename_i he
    obtain ⟨k, rfl⟩ : ∃ k : ℕ, e = -k := ⟨e.natAbs, by omega⟩
    have hvalue : (m : ℚ) * 2 ^ (0 : ℤ) / ((10 ^ (-(-(k : ℤ))).toNat : ℕ) * 2 ^ (0 : ℤ)) =
        m * 10 ^ (-(k : ℤ)) := by
      rw [neg_neg, Int.toNat_natCast]
      push_cast
      rw [zpow_neg, zpow_natCast]
      field_simp
    rw [div_eq_nearest (by rwa [hvalue]), hvalue]
    rfl

theorem isNaN_roundWithAccuracy (s : Sign) (m : ℕ) (e : ℤ) (acc : Accuracy) :
    (roundWithAccuracy .binary64 s m e acc).isNaN = false := by
  rw [roundWithAccuracy]
  dsimp only
  split <;> rfl

theorem isNaN_ofScientific (m : ℕ) (e : ℤ) :
    (UnpackedFloat.ofScientific .binary64 m e).isNaN = false := by
  rw [UnpackedFloat.ofScientific]
  split
  · rfl
  split
  · rfl
  split
  · rfl
  split
  · exact isNaN_roundWithAccuracy ..
  · exact isNaN_roundWithAccuracy ..

/-! ## Floats with a value -/

/-- The float `x` has the positive value `v`, and its mantissa has all digits. -/
def HasValue (x : Float) (v : ℚ) : Prop :=
  ∃ (m : ℕ) (q : ℤ) (hm : 0 < m),
    x.toModel.unpack = .finite .positive m q hm ∧ 2 ^ 52 ≤ m ∧ (m : ℚ) * 2 ^ q = v

/-- A number of at most 53 binary digits, and any that ends in zeros beyond them, is a float. -/
theorem exists_canonical {n : ℕ} (hpos : 0 < n) (hlt : n < 2 ^ 53) {k : ℕ} (hk : k ≤ 971) :
    ∃ (m : ℕ) (q : ℤ), Canonical m q ∧ 2 ^ 52 ≤ m ∧ (m : ℚ) * 2 ^ q = n * 2 ^ k := by
  obtain ⟨i, hi⟩ := Nat.exists_eq_add_of_le (log2_le hlt)
  obtain ⟨hlow, hhigh⟩ := mul_two_pow_bounds hpos hi
  refine ⟨n * 2 ^ i, k - i, ⟨by positivity, hhigh, by omega, by omega, .inl hlow⟩, hlow, ?_⟩
  rw [zpow_sub₀ (by norm_num), zpow_natCast, zpow_natCast]
  push_cast
  field_simp

/-- A float with a full mantissa has the value that its parts say. -/
theorem hasValue_of_canonical {x : Float} {m : ℕ} {q : ℤ} (hc : Canonical m q) (hm : 2 ^ 52 ≤ m)
    (hx : x = .ofModel (.pack (.finite .positive m q hc.pos))) : HasValue x (m * 2 ^ q) := by
  refine ⟨m, q, hc.pos, ?_, hm, rfl⟩
  rw [hx]
  exact unpack_pack hc

/-- A whole number of at most 53 binary digits is converted without loss. -/
theorem hasValue_toFloat {n : ℕ} (hpos : 0 < n) (hlt : n < 2 ^ 53) :
    HasValue (UInt64.ofNat n).toFloat n := by
  obtain ⟨m, q, hc, hm, hvalue⟩ := exists_canonical hpos hlt (Nat.zero_le _)
  rw [pow_zero, mul_one] at hvalue
  have hround : UnpackedFloat.ofUInt64 .binary64 (UInt64.ofNat n) =
      .finite .positive m q hc.pos := by
    have hsize : n < UInt64.size := lt_trans hlt (by decide)
    have hsign : compare (n : ℤ) 0 = .gt := Int.compare_eq_gt.2 (by exact_mod_cast hpos)
    rw [UnpackedFloat.ofUInt64, UInt64.toNat_ofNat_of_lt' hsize, UnpackedFloat.ofNat,
      UnpackedFloat.ofInt]
    simp only [UnpackedFloat.normalize, hsign, Int.toNat_natCast]
    rw [round_eq_nearest hpos, ← hvalue, nearest_canonical hc]
  rw [← hvalue]
  refine hasValue_of_canonical hc hm ?_
  rw [← hround]
  rfl

/-- A decimal that is a float is converted without loss. -/
theorem hasValue_powerOfTen {k : ℕ} (hk : k ≤ 22) :
    HasValue (.ofModel (.ofScientific 1 k)) (10 ^ k) := by
  obtain ⟨m, q, hc, hm, hvalue⟩ := exists_canonical (n := 5 ^ k) (k := k) (by positivity)
    (lt_of_le_of_lt (Nat.pow_le_pow_right (by norm_num) hk) (by norm_num)) (by omega)
  have hten : (m : ℚ) * 2 ^ q = 10 ^ k := by
    rw [hvalue]
    push_cast
    rw [← mul_pow]
    norm_num
  have hround : UnpackedFloat.ofScientific .binary64 1 k = .finite .positive m q hc.pos := by
    have hvalue : ((1 : ℕ) : ℚ) * 10 ^ (k : ℤ) = m * 2 ^ q := by
      rw [hten, Nat.cast_one, one_mul, zpow_natCast]
    have hleast : (2 : ℚ) ^ (-1074 : ℤ) ≤ m * 2 ^ q := by
      rw [hten]
      exact le_trans (zpow_le_one_of_nonpos₀ (by norm_num) (by norm_num))
        (one_le_pow₀ (by norm_num))
    rw [ofScientific_eq_nearest one_pos (by omega) (by omega) (by rwa [hvalue]), hvalue,
      nearest_canonical hc]
  rw [← hten]
  refine hasValue_of_canonical hc hm ?_
  rw [← hround]
  rfl

/-- The product of two such floats is the float nearest to the product of their values. -/
theorem HasValue.mul {x y : Float} {v w : ℚ} (hx : HasValue x v) (hy : HasValue y w) :
    x * y = .ofModel (.pack (nearest .positive (v * w))) := by
  obtain ⟨m₁, q₁, h₁, hx, hm₁, rfl⟩ := hx
  obtain ⟨m₂, q₂, h₂, hy, hm₂, rfl⟩ := hy
  change Float.ofModel (.pack (UnpackedFloat.mul .binary64 x.toModel.unpack y.toModel.unpack)) = _
  rw [hx, hy, mul_eq_nearest (le_trans hm₁ (Nat.le_mul_of_pos_right m₁ h₂))]
  rfl

/-- The quotient is the float nearest to the quotient of their values, unless it is too small. -/
theorem HasValue.div {x y : Float} {v w : ℚ} (hx : HasValue x v) (hy : HasValue y w)
    (hleast : 2 ^ (-1074 : ℤ) ≤ v / w) :
    x / y = .ofModel (.pack (nearest .positive (v / w))) := by
  obtain ⟨m₁, q₁, h₁, hx, hm₁, rfl⟩ := hx
  obtain ⟨m₂, q₂, h₂, hy, hm₂, rfl⟩ := hy
  change Float.ofModel (.pack (UnpackedFloat.div .binary64 x.toModel.unpack y.toModel.unpack)) = _
  rw [hx, hy, div_eq_nearest hleast]
  rfl

theorem HasValue.zero_mul {y : Float} {w : ℚ} (hy : HasValue y w) :
    (UInt64.ofNat 0).toFloat * y = .ofModel (.pack (.zero .positive)) := by
  obtain ⟨m, q, hm, hy, -⟩ := hy
  change Float.ofModel (.pack (UnpackedFloat.mul .binary64 (.zero .positive) y.toModel.unpack)) = _
  rw [hy]
  rfl

theorem HasValue.zero_div {y : Float} {w : ℚ} (hy : HasValue y w) :
    (UInt64.ofNat 0).toFloat / y = .ofModel (.pack (.zero .positive)) := by
  obtain ⟨m, q, hm, hy, -⟩ := hy
  change Float.ofModel (.pack (UnpackedFloat.div .binary64 (.zero .positive) y.toModel.unpack)) = _
  rw [hy]
  rfl

end AskTables.Binary
