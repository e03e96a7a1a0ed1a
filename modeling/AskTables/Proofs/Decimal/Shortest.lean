import AskTables.Decimal.Shortest
import AskTables.Proofs.Binary.Rounding

/-!
# The digits of a float read back

`shortest` tries few digits before many and takes the first that read back.  Should none of them do,
it takes the value in full, and that reads back too, since a value that is a float is its own
nearest.  So the digits of a float always read back as the float (`toFloat_shortest`).
-/

namespace AskTables.Decimal

open Float.Model Float.Model.UnpackedFloat
open Binary

variable {x : Float} {m : ℕ} {q : ℤ} {hm : 0 < m}

theorem ofScientific_zero (e : ℤ) : Float.Model.ofScientific 0 e = .pack (.zero .positive) := by
  rw [Float.Model.ofScientific, UnpackedFloat.ofScientific, dif_pos rfl]

/-- Two ways to write one decimal make one float. -/
theorem ofScientific_eq_of_value {m₁ m₂ : ℕ} {e₁ e₂ : ℤ} (h₁ : 0 < m₁) (h₂ : 0 < m₂)
    (he₁ : e₁.natAbs ≤ 2048) (he₂ : e₂.natAbs ≤ 2048)
    (hleast : 2 ^ (-1074 : ℤ) ≤ (m₁ : ℚ) * 10 ^ e₁)
    (h : (m₁ : ℚ) * 10 ^ e₁ = m₂ * 10 ^ e₂) :
    Float.Model.ofScientific m₁ e₁ = Float.Model.ofScientific m₂ e₂ := by
  rw [Float.Model.ofScientific, Float.Model.ofScientific,
    ofScientific_eq_nearest h₁ (by omega) (by omega) hleast, h,
    ofScientific_eq_nearest h₂ (by omega) (by omega) (h ▸ hleast)]

/-- A power of two below one is a decimal with as many places. -/
theorem inFull_value (m : ℕ) (q : ℤ) :
    ((inFull m q).digits : ℚ) * 10 ^ (inFull m q).exponent = m * 2 ^ q := by
  rw [inFull]
  split
  · rename_i hq
    obtain ⟨k, rfl⟩ := Int.eq_ofNat_of_zero_le hq
    simp
  · rename_i hq
    obtain ⟨k, rfl⟩ : ∃ k : ℕ, q = -k := ⟨q.natAbs, by omega⟩
    have hten : (10 : ℚ) ^ k = 5 ^ k * 2 ^ k := by
      rw [← mul_pow]
      norm_num
    simp only [neg_neg, Int.toNat_natCast, zpow_neg, zpow_natCast, hten, Nat.pow_eq]
    push_cast
    field_simp

/-- A decimal whose value is a float is that float. -/
theorem toFloat_of_value {d : Scaled} (hx : x.toModel.unpack = .finite .positive m q hm)
    (hpos : 0 < d.digits) (hexponent : d.exponent.natAbs ≤ 2048)
    (hvalue : (d.digits : ℚ) * 10 ^ d.exponent = m * 2 ^ q) : d.toFloat = x := by
  have hc := canonical_of_unpack hx
  have hleast : (2 : ℚ) ^ (-1074 : ℤ) ≤ m * 2 ^ q :=
    le_trans (zpow_le_zpow_right₀ (by norm_num) hc.least) (le_value hm q)
  rw [Scaled.toFloat, Float.Model.ofScientific,
    ofScientific_eq_nearest hpos (by omega) (by omega) (by rwa [hvalue]), hvalue,
    @nearest_canonical _ _ _ hm hc, ← eq_of_unpack hx]

/-- The numeral of a float in full digits stands for the float. -/
theorem toFloat_inFull (hx : x.toModel.unpack = .finite .positive m q hm) :
    0 < (inFull m q).digits ∧ (inFull m q).toFloat = x := by
  have hpos : 0 < (inFull m q).digits := by
    rw [inFull]
    split <;> simp [hm]
  have hexponent : (inFull m q).exponent.natAbs ≤ 2048 := by
    have hleast := (canonical_of_unpack hx).least
    rw [inFull]
    split <;> dsimp only <;> omega
  exact ⟨hpos, toFloat_of_value hx hpos hexponent (inFull_value m q)⟩

/-- The digits found for a positive float are not zero, and read back as the float. -/
theorem toFloat_shortest (tie : Tie) (hx : x.toModel.unpack = .finite .positive m q hm) :
    0 < (shortest tie x m q).digits ∧ (shortest tie x m q).toFloat = x := by
  rw [shortest]
  generalize hfound : List.findSome? _ _ = found
  cases found with
  | none => exact toFloat_inFull hx
  | some d =>
      rw [Option.getD_some]
      obtain ⟨k, -, hk⟩ := List.exists_of_findSome?_eq_some hfound
      have hequal : d.toFloat == x := by simpa using List.find?_some hk
      have hd : d.toFloat = x := Binary.eq_of_beq hequal hx
      refine ⟨Nat.pos_of_ne_zero fun hzero => ?_, hd⟩
      have hunpack : d.toFloat.toModel.unpack = .zero .positive := by
        rw [Scaled.toFloat, hzero, ofScientific_zero]
        rfl
      rw [hd, hx] at hunpack
      cases hunpack

/-! ## Whole numbers -/

section Whole

variable {n : ℕ}

theorem pos_of_value (hm : 0 < m) (hvalue : (m : ℚ) * 2 ^ q = n) : 0 < n := by
  have hrat : (0 : ℚ) < n := hvalue ▸ by positivity
  exact_mod_cast hrat

/-- A whole number against a power of ten, both multiplied by what makes the float whole. -/
theorem numerator_eq (hvalue : (m : ℚ) * 2 ^ q = n) (k : ℕ) :
    numerator m q k = 2 ^ (-q).toNat * n ∧ denominator q k = 2 ^ (-q).toNat * 10 ^ k := by
  refine ⟨?_, rfl⟩
  have hpow : (2 : ℚ) ^ q * 2 ^ (-q).toNat = 2 ^ q.toNat := by
    rw [← zpow_natCast, ← zpow_natCast, ← zpow_add₀ (by norm_num)]
    congr 1
    omega
  have hnat : m * 2 ^ q.toNat = 2 ^ (-q).toNat * n := by
    have hrat : (m : ℚ) * 2 ^ q.toNat = 2 ^ (-q).toNat * n := by
      rw [← hvalue, ← hpow]
      ring
    exact_mod_cast hrat
  rw [numerator, show (-(k : ℤ)).toNat = 0 by omega]
  simpa using hnat

/-- Whether a value reaches a power of ten is decided on whole numbers. -/
theorem atLeastPower_iff (hvalue : (m : ℚ) * 2 ^ q = n) (k : ℕ) :
    atLeastPower m q k = true ↔ 10 ^ k ≤ n := by
  obtain ⟨hn, hd⟩ := numerator_eq hvalue k
  rw [atLeastPower, decide_eq_true_iff, hn, hd, Nat.mul_le_mul_left_iff (by positivity)]

/-- The first grid is no finer than the whole numbers, and not much coarser than the number. -/
theorem leadingPower_bounds (hm : 0 < m) (hvalue : (m : ℚ) * 2 ^ q = n) (hn : n < 10 ^ 15) :
    -1 ≤ leadingPower m q ∧ leadingPower m q ≤ 14 := by
  have hpos := pos_of_value hm hvalue
  have hlog : (m.log2 : ℤ) + q = Nat.log 2 n := by
    rw [← log_value hm, hvalue, Int.log_natCast]
  have hlt : Nat.log 2 n < 50 := Nat.log_lt_of_lt_pow hpos.ne' (lt_trans hn (by norm_num))
  rw [leadingPower, hlog, Int.fdiv_eq_ediv_of_nonneg _ (by norm_num)]
  generalize hestimate : (Nat.log 2 n : ℤ) * 30103 / 100000 = estimate
  cases hfind : List.find? (fun k => atLeastPower m q k)
      [estimate + 2, estimate + 1, estimate, estimate - 1] with
  | some k =>
      have hmem := List.mem_of_find?_eq_some hfind
      have hpower : atLeastPower m q k = true := List.find?_some hfind
      simp only [List.mem_cons, List.not_mem_nil, or_false] at hmem
      rw [Option.getD_some]
      refine ⟨by omega, ?_⟩
      by_contra hgt
      obtain ⟨i, rfl⟩ := Int.eq_ofNat_of_zero_le (show 0 ≤ k by omega)
      have hle := (atLeastPower_iff hvalue i).1 hpower
      have hfew := (Nat.pow_lt_pow_iff_right (by norm_num)).1 (lt_of_le_of_lt hle hn)
      omega
  | none =>
      have hzero : estimate ≠ 0 := by
        rintro rfl
        have hone := List.find?_eq_none.1 hfind 0 (by simp)
        exact hone ((atLeastPower_iff hvalue 0).2 (by rwa [pow_zero]))
      rw [Option.getD_none]
      omega

/-- The decimals around a whole number are whole. -/
theorem mem_neighbours_iff (hvalue : (m : ℚ) * 2 ^ q = n) {tie : Tie} {k : ℕ} {d : Scaled} :
    d ∈ neighbours tie m q k ↔
      (d.digits = n / 10 ^ k ∨ d.digits = n / 10 ^ k + 1) ∧ d.exponent = k := by
  obtain ⟨digits, exponent⟩ := d
  obtain ⟨hnum, hden⟩ := numerator_eq hvalue k
  have hbelow : numerator m q k / denominator q k = n / 10 ^ k := by
    rw [hnum, hden, Nat.mul_div_mul_left _ _ (by positivity)]
  rw [neighbours, hbelow, or_and_right]
  split
  · rw [List.mem_pair, or_comm, Scaled.mk.injEq, Scaled.mk.injEq]
  · rw [List.mem_pair, Scaled.mk.injEq, Scaled.mk.injEq]

/-- A search down a list does not go beyond an item that would do. -/
theorem findSome?_of_pairwise {α : Type} {f : ℤ → Option α} {ks : List ℤ}
    (hdown : ks.Pairwise fun a b => b < a) {k : ℤ} (hk : k ∈ ks) (hsome : f k ≠ none) :
    ∃ a ∈ ks, k ≤ a ∧ ∃ d, f a = some d ∧ ks.findSome? f = some d := by
  cases hfound : ks.findSome? f with
  | none => exact absurd (List.findSome?_eq_none_iff.1 hfound k hk) hsome
  | some d =>
      obtain ⟨before, a, after, rfl, hd, hbefore⟩ := List.findSome?_eq_some_iff.1 hfound
      refine ⟨a, by simp, ?_, d, hd, rfl⟩
      rcases List.mem_append.1 hk with hmem | hmem
      · exact absurd (hbefore k hmem) hsome
      rcases List.mem_cons.1 hmem with rfl | hmem
      · exact le_refl k
      · exact (List.rel_of_pairwise_cons (List.pairwise_append.1 hdown).2.1 hmem).le

/-- The grid of the whole numbers has the number itself. -/
theorem find?_neighbours_ne_none (tie : Tie) (hx : x.toModel.unpack = .finite .positive m q hm)
    (hvalue : (m : ℚ) * 2 ^ q = n) :
    (neighbours tie m q 0).find? (fun d => d.toFloat == x) ≠ none := by
  have hwhole : (Scaled.mk n 0).toFloat = x :=
    toFloat_of_value hx (pos_of_value hm hvalue) (by simp) (by simp [hvalue])
  intro hnone
  have hno := List.find?_eq_none.1 hnone ⟨n, 0⟩
    ((mem_neighbours_iff hvalue (k := 0)).2 ⟨.inl (by simp), rfl⟩)
  rw [hwhole] at hno
  exact hno (beq_self hx)

/-- The digits of a whole number are found before the grid goes below the whole numbers. -/
theorem exists_grid (tie : Tie) (hx : x.toModel.unpack = .finite .positive m q hm)
    (hvalue : (m : ℚ) * 2 ^ q = n) (hn : n < 10 ^ 15) :
    ∃ k : ℕ, k ≤ 15 ∧ shortest tie x m q ∈ neighbours tie m q k := by
  obtain ⟨hlow, hhigh⟩ := leadingPower_bounds hm hvalue hn
  have hdown : ((List.range (maxDigits + 1)).map fun i : ℕ =>
      leadingPower m q + 1 - (i : ℤ)).Pairwise fun a b => b < a := by
    rw [List.pairwise_map]
    exact List.pairwise_lt_range.imp fun h => by omega
  have hzero : 0 ∈ (List.range (maxDigits + 1)).map fun i : ℕ =>
      leadingPower m q + 1 - (i : ℤ) := by
    rw [List.mem_map]
    exact ⟨(leadingPower m q + 1).toNat, by rw [List.mem_range, maxDigits]; omega, by omega⟩
  obtain ⟨a, ha, hnonneg, d, hd, hfound⟩ := @findSome?_of_pairwise Scaled
    (fun k => (neighbours tie m q k).find? fun d => d.toFloat == x) _ hdown 0 hzero
    (find?_neighbours_ne_none tie hx hvalue)
  obtain ⟨k, rfl⟩ := Int.eq_ofNat_of_zero_le hnonneg
  obtain ⟨i, -, hi⟩ := List.mem_map.1 ha
  refine ⟨k, by omega, ?_⟩
  rw [shortest, hfound, Option.getD_some]
  exact List.mem_of_find?_eq_some hd

/-- Whole numbers of up to fifteen digits are written in full, but for zeros at the end. -/
theorem shortest_whole (tie : Tie) (hx : x.toModel.unpack = .finite .positive m q hm)
    (hvalue : (m : ℚ) * 2 ^ q = n) (hn : n < 10 ^ 15) :
    ∃ k : ℕ, (shortest tie x m q).exponent = k ∧ (shortest tie x m q).digits * 10 ^ k = n := by
  obtain ⟨hpos, hfloat⟩ := toFloat_shortest tie hx
  obtain ⟨k, hk, hd⟩ := exists_grid tie hx hvalue hn
  obtain ⟨hdigits, hexponent⟩ := (mem_neighbours_iff hvalue).1 hd
  generalize shortest tie x m q = d at hpos hfloat hdigits hexponent
  refine ⟨k, hexponent, ?_⟩
  have hlt : d.digits * 10 ^ k < 2 ^ 53 := by
    have hpow : 10 ^ k ≤ 10 ^ 15 := Nat.pow_le_pow_right (by norm_num) hk
    have hbelow := Nat.div_mul_le_self n (10 ^ k)
    rcases hdigits with h | h <;> rw [h]
    · omega
    · rw [Nat.add_mul]
      omega
  -- The grid leaves open whether the digits were rounded up.  They make a whole number that is a
  -- float, and they read back as `x`, so they make no other number than `n`.
  obtain ⟨m', q', hc, -, hwhole⟩ := exists_canonical (by positivity) hlt (Nat.zero_le _)
  have hsame : (d.digits : ℚ) * 10 ^ d.exponent = m' * 2 ^ q' := by
    rw [hwhole, hexponent, zpow_natCast]
    push_cast
    ring
  have hother : d.toFloat = .ofModel (.pack (.finite .positive m' q' hc.pos)) :=
    toFloat_of_value (unpack_pack hc) hpos (by omega) hsame
  have hunpack : UnpackedFloat.finite .positive m q hm = .finite .positive m' q' hc.pos := by
    rw [← hx, ← hfloat, hother]
    exact unpack_pack hc
  injection hunpack with _ hm' hq'
  rw [← hm', ← hq', hvalue, pow_zero, mul_one] at hwhole
  exact_mod_cast hwhole.symm

end Whole

end AskTables.Decimal
