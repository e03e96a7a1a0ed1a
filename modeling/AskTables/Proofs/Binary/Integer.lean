import AskTables.Proofs.Binary.Order

/-!
# Integers as floats

An integer is converted to the nearest float.  The value of that float is the integer itself as long
as it has at most 53 binary digits (`roundedInt_of_natAbs_le`).  Beyond, different integers may have
one float, but rounding never turns their order around (`roundedInt_mono`): within one exponent the
mantissas are in order, and between two exponents stands a power of two that is a float itself.
-/

namespace AskTables.Binary

open Float.Model Float.Model.UnpackedFloat

variable {v w : ℚ} {m : ℕ} {q : ℤ} {s : Sign}

/-! ## Rounding to a whole number -/

/-- Rounding cuts off or adds one. -/
theorem roundedMantissa_bounds (em : ExtendedMantissa) :
    em.mantissa ≤ em.roundedMantissa ∧ em.roundedMantissa ≤ em.mantissa + 1 := by
  obtain ⟨m, half, more⟩ := em
  cases half <;> cases more <;>
    simp only [ExtendedMantissa.roundedMantissa, ExtendedMantissa.accuracy,
      Accuracy.roundToNearestEven] <;> omega

theorem roundedMantissa_of_lt (n : ℕ) {f : ℚ} (hf : 0 ≤ f) (hlt : f < 1 / 2) :
    (cut (n + f)).roundedMantissa = n := by
  rw [cut_add n hf (by linarith), decide_eq_false (not_le.2 hlt)]
  cases decide (f ≠ 0 ∧ f ≠ 1 / 2) <;> rfl

/-- Half of a unit is rounded to the even neighbour. -/
theorem roundedMantissa_half (n : ℕ) : (cut (n + 1 / 2)).roundedMantissa = n + n % 2 := by
  rw [cut_add n (by norm_num) (by norm_num), decide_eq_true le_rfl,
    decide_eq_false fun h => h.2 rfl]
  rfl

theorem roundedMantissa_of_gt (n : ℕ) {f : ℚ} (hgt : 1 / 2 < f) (hf : f < 1) :
    (cut (n + f)).roundedMantissa = n + 1 := by
  rw [cut_add n (by linarith) hf, decide_eq_true hgt.le,
    decide_eq_true ⟨by linarith, hgt.ne'⟩]
  rfl

/-- A larger number is not rounded to a smaller one. -/
theorem roundedMantissa_mono (hv : 0 ≤ v) (h : v ≤ w) :
    (cut v).roundedMantissa ≤ (cut w).roundedMantissa := by
  obtain ⟨n, f, rfl, hf, hf1⟩ := exists_floor_add hv
  obtain ⟨k, g, rfl, hg, hg1⟩ := exists_floor_add (hv.trans h)
  have hn : (cut (n + f)).mantissa = n := by rw [cut_add n hf hf1]
  have hk : (cut (k + g)).mantissa = k := by rw [cut_add k hg hg1]
  have hhigh := (roundedMantissa_bounds (cut (n + f))).2
  have hlow := (roundedMantissa_bounds (cut (k + g))).1
  rcases lt_trichotomy n k with hlt | rfl | hgt
  · omega
  · have hfg : f ≤ g := by linarith
    rcases lt_trichotomy f (1 / 2) with hless | rfl | hmore
    · rw [roundedMantissa_of_lt n hf hless]
      omega
    · rcases hfg.eq_or_lt with rfl | hmore
      · exact le_rfl
      · rw [roundedMantissa_half, roundedMantissa_of_gt n hmore hg1]
        omega
    · rw [roundedMantissa_of_gt n hmore hf1, roundedMantissa_of_gt n (hmore.trans_le hfg) hg1]
  · have hcast : (k : ℚ) + 1 ≤ n := by exact_mod_cast hgt
    linarith

/-! ## Rounding to 53 digits -/

/-- The value that is left of a positive value when it is rounded to 53 binary digits. -/
def rounded (v : ℚ) : ℚ := (cut (v / 2 ^ exponentOf v)).roundedMantissa * 2 ^ exponentOf v

theorem log_nonneg (hv : 1 ≤ v) : 0 ≤ Int.log 2 v := by
  rw [← Int.zpow_le_iff_le_log (by norm_num) (by linarith), zpow_zero]
  exact hv

theorem exponentOf_of_one_le (hv : 1 ≤ v) : exponentOf v = Int.log 2 v - 52 := by
  have hlog := log_nonneg hv
  rw [exponentOf]
  omega

/-- A value of at least one keeps all digits, and rounding may bring it to the next power of two. -/
theorem rounded_bounds (hv : 1 ≤ v) :
    2 ^ 52 ≤ (cut (v / 2 ^ exponentOf v)).roundedMantissa ∧
      (cut (v / 2 ^ exponentOf v)).roundedMantissa ≤ 2 ^ 53 := by
  have hpower : (2 : ℚ) ^ Int.log 2 v = 2 ^ 52 * 2 ^ exponentOf v := by
    rw [exponentOf_of_one_le hv, zpow_sub₀ (by norm_num)]
    norm_num
    ring
  have hlow : 2 ^ 52 ≤ ⌊v / 2 ^ exponentOf v⌋₊ := by
    have hle := Int.zpow_log_le_self (b := 2) (by norm_num) (show 0 < v by linarith)
    rw [Nat.cast_two, hpower] at hle
    rw [Nat.le_floor_iff (by positivity), le_div_iff₀ (by positivity)]
    exact_mod_cast hle
  have hhigh : ⌊v / 2 ^ exponentOf v⌋₊ < 2 ^ 53 := by
    have hlt := Int.lt_zpow_succ_log_self (b := 2) (by norm_num) v
    rw [Nat.cast_two, zpow_add_one₀ (by norm_num), hpower] at hlt
    rw [Nat.floor_lt (by positivity), div_lt_iff₀ (by positivity)]
    push_cast
    linarith
  have hbounds := roundedMantissa_bounds (cut (v / 2 ^ exponentOf v))
  simp only [cut] at hbounds ⊢
  omega

/-- Within one exponent the mantissas are in order, and a power of two separates two exponents. -/
theorem rounded_mono (hv : 1 ≤ v) (h : v ≤ w) : rounded v ≤ rounded w := by
  have hw := hv.trans h
  have hexponent : exponentOf v ≤ exponentOf w := by
    have hlog := Int.log_mono_right (b := 2) (by linarith) h
    rw [exponentOf_of_one_le hv, exponentOf_of_one_le hw]
    omega
  rcases hexponent.eq_or_lt with heq | hlt
  · have hmantissa : (cut (v / 2 ^ exponentOf v)).roundedMantissa ≤
        (cut (w / 2 ^ exponentOf v)).roundedMantissa := by
      refine roundedMantissa_mono (by positivity) ?_
      gcongr
    rw [rounded, rounded, ← heq]
    gcongr
  · calc rounded v ≤ 2 ^ 53 * 2 ^ exponentOf v := by
          rw [rounded]
          gcongr
          exact_mod_cast (rounded_bounds hv).2
      _ = 2 ^ 52 * 2 ^ (exponentOf v + 1) := by
          rw [zpow_add_one₀ (by norm_num)]
          ring
      _ ≤ 2 ^ 52 * 2 ^ exponentOf w := by
          gcongr
          · norm_num
          · omega
      _ ≤ rounded w := by
          rw [rounded]
          gcongr
          exact_mod_cast (rounded_bounds hw).1

/-- What has a mantissa and an exponent of a float is not rounded. -/
theorem rounded_canonical (hc : Canonical m q) : rounded (m * 2 ^ q) = m * 2 ^ q := by
  rw [rounded, cut_canonical hc, exponentOf_canonical hc]
  rfl

/-- Up to the largest power of two among the floats, the nearest float has the rounded value. -/
theorem exists_nearest (hv : 1 ≤ v) (hlt : v < 2 ^ 1023) :
    ∃ m q, ∃ hc : Canonical m q, nearest s v = .finite s m q hc.pos ∧
      (m : ℚ) * 2 ^ q = rounded v := by
  obtain ⟨hlow, hhigh⟩ := rounded_bounds hv
  have hexponent := exponentOf_of_one_le hv
  have hleast := log_nonneg hv
  have hgreatest : Int.log 2 v < 1023 := by
    rw [← Int.lt_zpow_iff_log_lt (by norm_num) (by linarith)]
    exact_mod_cast hlt
  generalize hr : (cut (v / 2 ^ exponentOf v)).roundedMantissa = r at hlow hhigh
  have hvalue : rounded v = r * 2 ^ exponentOf v := by rw [rounded, hr]
  have hpos : 0 < r := by omega
  rcases hhigh.lt_or_eq with hless | heq
  · have hc : Canonical r (exponentOf v) := ⟨hpos, hless, by omega, by omega, .inl hlow⟩
    exact ⟨r, _, hc, nearest_eq_finite hc hpos hr le_rfl rfl, hvalue.symm⟩
  · -- The digits were rounded up to the next power of two, which has one exponent more.
    have hc : Canonical (2 ^ 52) (exponentOf v + 1) :=
      ⟨by norm_num, by norm_num, by omega, by omega, .inl le_rfl⟩
    have hnext : (r : ℚ) * 2 ^ exponentOf v = (2 ^ 52 : ℕ) * 2 ^ (exponentOf v + 1) := by
      rw [heq, zpow_add_one₀ (by norm_num)]
      push_cast
      ring
    exact ⟨_, _, hc, nearest_eq_finite hc hpos hr (by omega) hnext, by rw [hvalue, hnext]⟩

/-! ## Integers -/

/-- The value that is left of an integer when it is rounded to 53 binary digits. -/
def roundedInt (n : ℤ) : ℚ := n.sign * rounded n.natAbs

theorem roundedInt_zero : roundedInt 0 = 0 := by
  rw [roundedInt, Int.sign_zero, Int.cast_zero, zero_mul]

/-- Rounding is the same on both sides of zero. -/
theorem roundedInt_neg (n : ℤ) : roundedInt (-n) = -roundedInt n := by
  rw [roundedInt, roundedInt, Int.sign_neg, Int.natAbs_neg, Int.cast_neg, neg_mul]

theorem roundedInt_natCast {n : ℕ} (hpos : 0 < n) : roundedInt n = rounded n := by
  rw [roundedInt, Int.sign_natCast_of_ne_zero hpos.ne', Int.natAbs_natCast, Int.cast_one, one_mul]

/-- Rounding does not turn the order of two integers around. -/
theorem roundedInt_mono : Monotone roundedInt := by
  refine monotone_of_odd_of_monotoneOn_nonneg roundedInt_neg ?_
  intro i hi j hj h
  lift i to ℕ using hi
  lift j to ℕ using hj
  have hle : i ≤ j := by exact_mod_cast h
  rcases Nat.eq_zero_or_pos j with rfl | hj
  · rw [Nat.le_zero.1 hle]
  · rw [roundedInt_natCast hj]
    rcases Nat.eq_zero_or_pos i with rfl | hi
    · rw [Nat.cast_zero, roundedInt_zero, rounded]
      positivity
    · rw [roundedInt_natCast hi]
      exact rounded_mono (by exact_mod_cast hi) (by exact_mod_cast hle)

/-- Whole numbers up to 2 ^ 53 are not rounded. -/
theorem rounded_natCast {n : ℕ} (hpos : 0 < n) (h : n ≤ 2 ^ 53) : rounded n = n := by
  rcases h.lt_or_eq with hlt | rfl
  · obtain ⟨m, q, hc, -, hvalue⟩ := exists_canonical hpos hlt (Nat.zero_le _)
    rw [pow_zero, mul_one] at hvalue
    rw [← hvalue, rounded_canonical hc]
  · obtain ⟨m, q, hc, -, hvalue⟩ := exists_canonical (k := 53) one_pos (by norm_num) (by norm_num)
    rw [Nat.cast_one, one_mul] at hvalue
    rw [Nat.cast_pow, Nat.cast_two, ← hvalue, rounded_canonical hc]

/-- An integer of at most 53 binary digits is a float, and so is the next power of two. -/
theorem roundedInt_of_natAbs_le {n : ℤ} (h : n.natAbs ≤ 2 ^ 53) : roundedInt n = n := by
  rcases Nat.eq_zero_or_pos n.natAbs with hzero | hpos
  · rw [Int.natAbs_eq_zero.1 hzero, roundedInt_zero, Int.cast_zero]
  · have hsign := congrArg (Int.cast : ℤ → ℚ) (Int.sign_mul_natAbs n)
    rw [Int.cast_mul, Int.cast_natCast] at hsign
    rw [roundedInt, rounded_natCast hpos h, hsign]

/-- Below 53 binary digits no integer shares its float with another one. -/
theorem roundedInt_inj {i j : ℤ} (h : i.natAbs < 2 ^ 53) :
    roundedInt i = roundedInt j ↔ i = j := by
  refine ⟨fun heq => ?_, fun heq => heq ▸ rfl⟩
  have hexact : roundedInt i = i := roundedInt_of_natAbs_le h.le
  by_cases hsmall : j.natAbs ≤ 2 ^ 53
  · rw [hexact, roundedInt_of_natAbs_le hsmall] at heq
    exact_mod_cast heq
  · -- From 2^53 on no integer is rounded below it, on either side of zero.
    rcases Int.le_total 0 j with hj | hj
    · have hpower : roundedInt (2 ^ 53) = (2 ^ 53 : ℤ) := roundedInt_of_natAbs_le (by decide)
      have hmono := roundedInt_mono (show 2 ^ 53 ≤ j by omega)
      rw [hpower, ← heq, hexact, Int.cast_le] at hmono
      omega
    · have hpower : roundedInt (-2 ^ 53) = (-2 ^ 53 : ℤ) := roundedInt_of_natAbs_le (by decide)
      have hmono := roundedInt_mono (show j ≤ -2 ^ 53 by omega)
      rw [hpower, ← heq, hexact, Int.cast_le] at hmono
      omega

/-- A 64-bit integer is far from the largest float, so rounding leaves a float. -/
theorem exists_round {n : ℕ} (hpos : 0 < n) (hlt : n ≤ 2 ^ 63) (s : Sign) :
    ∃ m q, ∃ hc : Canonical m q, round .binary64 s n 0 = .finite s m q hc.pos ∧
      (m : ℚ) * 2 ^ q = rounded n := by
  rw [round_eq_nearest hpos]
  refine exists_nearest (by exact_mod_cast hpos) ?_
  calc (n : ℚ) ≤ 2 ^ 63 := by exact_mod_cast hlt
    _ < 2 ^ 1023 := pow_lt_pow_right₀ (by norm_num) (by norm_num)

/-- The parts of a float that is what rounding leaves of an integer. -/
def IsRounded (n : ℤ) (f : UnpackedFloat) : Prop :=
  IsNumber f ∧ valueOf f = .ofRat (roundedInt n)

theorem isRounded_zero (s : Sign) : IsRounded 0 (.zero s) :=
  ⟨.zero s, by rw [roundedInt_zero]; rfl⟩

/-- A canonical float whose value is a rounded number is that number rounded. -/
theorem isRounded_finite (s : Sign) {n : ℕ} (hpos : 0 < n) (hc : Canonical m q)
    (hvalue : (m : ℚ) * 2 ^ q = rounded n) : IsRounded (s.apply n) (.finite s m q hc.pos) := by
  refine ⟨.finite s hc, ?_⟩
  cases s with
  | positive =>
      rw [valueOf, Sign.apply, Sign.apply, roundedInt_natCast hpos, ← hvalue, Int.cast_natCast]
  | negative =>
      rw [valueOf, Sign.apply, Sign.apply, roundedInt_neg, roundedInt_natCast hpos, ← hvalue,
        Int.cast_neg, Int.cast_natCast, neg_mul]

/-- An integer is zero, or it has a sign and a size. -/
theorem eq_zero_or_exists_apply (n : ℤ) :
    n = 0 ∨ ∃ (s : Sign) (k : ℕ), 0 < k ∧ n = s.apply k := by
  rcases lt_trichotomy n 0 with hneg | rfl | hpos
  · exact .inr ⟨.negative, n.natAbs, by omega, by rw [Sign.apply]; omega⟩
  · exact .inl rfl
  · exact .inr ⟨.positive, n.natAbs, by omega, by rw [Sign.apply]; omega⟩

theorem natAbs_apply (s : Sign) (n : ℕ) : (s.apply n).natAbs = n := by
  cases s with
  | positive => exact Int.natAbs_natCast n
  | negative => rw [Sign.apply, Int.natAbs_neg, Int.natAbs_natCast]

theorem natAbs_toInt_le (i : Int64) : i.toInt.natAbs ≤ 2 ^ 63 := by
  have hlow := i.le_toInt
  have hhigh := i.toInt_lt
  omega

/-- Whatever the sign, an integer is normalised by rounding its size. -/
theorem normalize_apply (s : Sign) {n : ℕ} (hpos : 0 < n) :
    UnpackedFloat.normalize .binary64 (s.apply n) 0 .positive = round .binary64 s n 0 := by
  cases s with
  | positive =>
      have hsign : compare (n : ℤ) 0 = .gt := Int.compare_eq_gt.2 (by exact_mod_cast hpos)
      rw [UnpackedFloat.normalize, Sign.apply, hsign, Int.toNat_natCast]
  | negative =>
      have hsign : compare (-(n : ℤ)) 0 = .lt := Int.compare_eq_lt.2 (by omega)
      rw [UnpackedFloat.normalize, Sign.apply, hsign]
      simp only [neg_neg, Int.toNat_natCast]

/-- The float of an integer is a number and has the rounded value. -/
theorem isRounded_ofInt64 (i : Int64) : IsRounded i.toInt (Float.Model.ofInt64 i).unpack := by
  have hsize := natAbs_toInt_le i
  have hmodel : Float.Model.ofInt64 i =
      .pack (UnpackedFloat.normalize .binary64 i.toInt 0 .positive) := rfl
  rw [hmodel]
  generalize i.toInt = n at hsize ⊢
  rcases eq_zero_or_exists_apply n with rfl | ⟨s, k, hk, rfl⟩
  · exact isRounded_zero .positive
  · rw [natAbs_apply] at hsize
    obtain ⟨m, q, hc, hround, hvalue⟩ := exists_round hk hsize s
    rw [normalize_apply s hk, hround, unpack_pack hc]
    exact isRounded_finite s hk hc hvalue

/-- Digits of a whole number read as the float nearest to it. -/
theorem unpack_ofScientific {n : ℕ} (hpos : 0 < n) (hle : n ≤ 2 ^ 63) :
    ∃ m q, ∃ hc : Canonical m q,
      (Float.Model.ofScientific n 0).unpack = .finite .positive m q hc.pos ∧
        (m : ℚ) * 2 ^ q = rounded n := by
  obtain ⟨m, q, hc, hround, hvalue⟩ := exists_round hpos hle .positive
  refine ⟨m, q, hc, ?_, hvalue⟩
  have hleast : (2 : ℚ) ^ (-1074 : ℤ) ≤ n * 10 ^ (0 : ℤ) := by
    rw [zpow_zero, mul_one]
    exact le_trans (zpow_le_one_of_nonpos₀ (by norm_num) (by norm_num)) (by exact_mod_cast hpos)
  rw [Float.Model.ofScientific, ofScientific_eq_nearest hpos (by norm_num) (by norm_num) hleast,
    zpow_zero, mul_one, ← round_eq_nearest hpos, hround, unpack_pack hc]

theorem isNaN_ofInt64 (i : Int64) : (Float.ofModel (.ofInt64 i)).isNaN = false :=
  (isRounded_ofInt64 i).1.isNaN_eq_false

/-- The float of an integer has the value of the rounded integer. -/
theorem value_ofInt64 (i : Int64) :
    value (.ofModel (.ofInt64 i)) = .ofRat (roundedInt i.toInt) := (isRounded_ofInt64 i).2

end AskTables.Binary
