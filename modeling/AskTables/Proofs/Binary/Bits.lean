import Mathlib

/-!
# The bits of a float

A float is kept as 64 bits.  Its operations take the bits apart, work on sign, mantissa and
exponent, and put bits together again.  A finite value is *canonical* if it is what some bits are
taken apart to: the mantissa has all of its 53 digits, or the exponent is the least one.  Canonical
values survive the way through the bits, so the operations can be followed without them.
-/

namespace AskTables.Binary

open Float.Model Float.Model.UnpackedFloat

/-- The mantissas and exponents of floats. -/
structure Canonical (m : Nat) (q : Int) : Prop where
  pos : 0 < m
  lt : m < 2 ^ 53
  least : -1074 ≤ q
  greatest : q ≤ 971
  /-- Only at the least exponent may digits be missing. -/
  full : 2 ^ 52 ≤ m ∨ q = -1074

variable {m : Nat} {q : Int} {s : Sign} {hm : 0 < m}

/-- A full mantissa has 53 bits. -/
theorem log2_eq (hlow : 2 ^ 52 ≤ m) (hlt : m < 2 ^ 53) : m.log2 = 52 :=
  (Nat.log2_eq_iff (by omega)).2 ⟨hlow, hlt⟩

theorem log2_le (hlt : m < 2 ^ 53) : m.log2 ≤ 52 := by
  rcases Nat.eq_zero_or_pos m with rfl | hpos
  · decide
  · have hlog := (Nat.log2_lt (by omega)).2 hlt
    omega

/-! ## Taking bits apart -/

/-- The leading bit that is not stored counts for its place. -/
theorem toNat_one_append {w : Nat} (v : BitVec w) : (1#1 ++ v).toNat = 2 ^ w + v.toNat := by
  rw [BitVec.toNat_append, ← Nat.shiftLeft_add_eq_or_of_lt v.isLt]
  simp [Nat.shiftLeft_eq]

/-- What bits are taken apart to is canonical. -/
theorem canonical_of_unpack {b : BitVec Format.binary64.numBits}
    (h : unpack .binary64 b = .finite s m q hm) : Canonical m q := by
  have hbias : ((Format.binary64.exponentBias : Nat) : Int) = 1023 := rfl
  have hwidth : ((Format.binary64.mantissaBitsWithoutImplicit : Nat) : Int) = 52 := rfl
  have hmantissa : (unpackMantissa b).toNat < 2 ^ 52 := (unpackMantissa b).isLt
  have hexponent : (unpackExponent b).toNat < 2048 := (unpackExponent b).isLt
  rw [UnpackedFloat.unpack] at h
  split at h
  · split at h <;> cases h
  rename_i hlast
  split at h
  · rename_i hfirst
    split at h
    · cases h
    · cases h
      have hzero : (unpackExponent b).toNat = 0 := by simp [hfirst]
      rw [hzero, hbias]
      exact ⟨hm, by omega, by decide, by decide, .inr (by decide)⟩
  · rename_i hfirst
    have hne : (unpackExponent b).toNat ≠ 2047 := fun he => hlast (BitVec.eq_of_toNat_eq he)
    have hpos : (unpackExponent b).toNat ≠ 0 := fun he => hfirst (BitVec.eq_of_toNat_eq he)
    cases h
    have hnat : (1#1 ++ unpackMantissa b).toNat = 2 ^ 52 + (unpackMantissa b).toNat :=
      toNat_one_append _
    rw [hbias, hwidth]
    exact ⟨hm, by omega, by omega, by omega, .inl (by omega)⟩

/-! ## Putting bits together -/

/-- A full mantissa survives the way through the bits, without its leading bit. -/
theorem unpack_pack_normal (hc : Canonical m q) (hlow : 2 ^ 52 ≤ m) :
    unpack .binary64 (pack .binary64 (.finite s m q hm)) = .finite s m q hm := by
  obtain ⟨-, hlt, hleast, hgreatest, -⟩ := hc
  have hbias : ((Format.binary64.exponentBias : Nat) : Int) = 1023 := rfl
  have hbiased : (q + (Format.binary64.exponentBias : Int) + (52 : Nat)).toNat =
      (q + 1075).toNat := by
    rw [hbias]
    omega
  have hbits : (BitVec.ofNat 11 (q + 1075).toNat).toNat = (q + 1075).toNat := by
    rw [BitVec.toNat_ofNat]
    omega
  have hlast : BitVec.ofNat 11 (q + 1075).toNat ≠ -1#11 := by
    intro he
    have hnat := congrArg BitVec.toNat he
    rw [hbits] at hnat
    simp at hnat
    omega
  have hfirst : BitVec.ofNat 11 (q + 1075).toNat ≠ 0#11 := by
    intro he
    have hnat := congrArg BitVec.toNat he
    rw [hbits] at hnat
    simp at hnat
    omega
  have hmantissa : (1#1 ++ BitVec.ofNat 52 m).toNat = m := by
    rw [toNat_one_append, BitVec.toNat_ofNat]
    omega
  rw [UnpackedFloat.pack]
  simp only [log2_eq hlow hlt, hbiased]
  rw [if_neg (by omega), if_pos (by decide), UnpackedFloat.unpack]
  simp only [unpackMantissa_packComponents, unpackExponent_packComponents,
    unpackSign_packComponents, Sign.ofBitVec_toBitVec]
  rw [if_neg hlast, if_neg hfirst]
  simp only [hmantissa, hbits, hbias]
  congr 1
  omega

theorem unpack_pack_subnormal (hlt : m < 2 ^ 52) :
    unpack .binary64 (pack .binary64 (.finite s m (-1074) hm)) = .finite s m (-1074) hm := by
  have hlog : m.log2 < 52 := (Nat.log2_lt (by omega)).2 hlt
  have hbiased : (-1074 + (Format.binary64.exponentBias : Int) + (52 : Nat)).toNat = 1 := by decide
  have hbits : Format.binary64.mantissaBits = 53 := by decide
  have hmantissa : (BitVec.ofNat 52 m).toNat = m := by
    rw [BitVec.toNat_ofNat]
    omega
  have hne : BitVec.ofNat 52 m ≠ 0#52 := by
    intro he
    have hnat := congrArg BitVec.toNat he
    rw [hmantissa] at hnat
    simp at hnat
    omega
  rw [UnpackedFloat.pack]
  simp only [hbiased, hbits]
  rw [if_neg (by decide), if_neg (by omega), UnpackedFloat.unpack]
  simp only [unpackMantissa_packComponents, unpackExponent_packComponents,
    unpackSign_packComponents, Sign.ofBitVec_toBitVec]
  rw [if_neg (by decide), if_pos trivial, dif_neg hne]
  simp only [hmantissa]
  congr 1

/-- A canonical value survives the way through the bits. -/
theorem unpack_pack (hc : Canonical m q) :
    (Float.Model.pack (.finite s m q hm)).unpack = .finite s m q hm := by
  change unpack .binary64 (pack .binary64 (.finite s m q hm)) = _
  by_cases hlow : 2 ^ 52 ≤ m
  · exact unpack_pack_normal hc hlow
  · obtain rfl : q = -1074 := hc.full.resolve_left hlow
    exact unpack_pack_subnormal (by omega)

/-- Only the last exponent makes a NaN. -/
theorem isNaN_unpack_packComponents (s : Sign) {e : BitVec 11} (he : e ≠ -1#11)
    (m : BitVec 52) : (unpack .binary64 (packComponents .binary64 s e m)).isNaN = false := by
  rw [UnpackedFloat.unpack]
  simp only [unpackMantissa_packComponents, unpackExponent_packComponents]
  rw [if_neg he]
  split
  · split <;> rfl
  · rfl

/-- The bits of a number are no NaN, whatever its size. -/
theorem isNaN_pack {f : UnpackedFloat} (hf : f.isNaN = false) :
    (Float.Model.pack f).unpack.isNaN = false := by
  change (unpack .binary64 (pack .binary64 f)).isNaN = false
  cases f with
  | notANumber => cases hf
  | infinity s => cases s <;> rfl
  | zero s => cases s <;> rfl
  | finite s m q hm =>
      rw [UnpackedFloat.pack]
      split
      · cases s <;> rfl
      · rename_i hsmall
        split
        · refine isNaN_unpack_packComponents s (fun he => ?_) _
          have hbits : Format.binary64.exponentBits = 11 := rfl
          have hlast : (-1#11).toNat = 2047 := rfl
          have hnat := congrArg BitVec.toNat he
          rw [hbits] at hsmall
          rw [BitVec.toNat_ofNat, hlast, hbits, Nat.mod_eq_of_lt (by omega)] at hnat
          omega
        · exact isNaN_unpack_packComponents s (by decide) _

/-! ## Floats -/

/-- Nothing is lost when a float is taken apart. -/
theorem ofModel_pack_unpack (x : Float) : Float.ofModel (.pack x.toModel.unpack) = x :=
  Float.ofBits_toBits x

/-- A float is given by its sign, mantissa and exponent. -/
theorem eq_of_unpack {x : Float} {f : UnpackedFloat} (h : x.toModel.unpack = f) :
    x = .ofModel (.pack f) := by
  rw [← h, ofModel_pack_unpack]

/-- Negation turns the sign over and leaves the rest, also through the bits. -/
theorem unpack_neg (x : Float) : (-x).toModel.unpack = x.toModel.unpack.neg := by
  change (Float.Model.pack x.toModel.unpack.neg).unpack = _
  cases h : x.toModel.unpack with
  | notANumber => rfl
  | infinity s => cases s <;> rfl
  | zero s => cases s <;> rfl
  | finite s m q hm => exact unpack_pack (canonical_of_unpack h)

theorem float_neg_neg (x : Float) : - -x = x := by
  have hneg : (- -x).toModel.unpack = x.toModel.unpack := by
    rw [unpack_neg, unpack_neg]
    cases x.toModel.unpack with
    | notANumber => rfl
    | infinity s => cases s <;> rfl
    | zero s => cases s <;> rfl
    | finite s m q hm => cases s <;> rfl
  rw [eq_of_unpack hneg, ofModel_pack_unpack]

theorem neg_zero :
    -(Float.ofModel (.pack (.zero .positive))) = .ofModel (.pack (.zero .negative)) := by
  refine eq_of_unpack ?_
  rw [unpack_neg]
  rfl

theorem isFinite_neg (x : Float) : (-x).isFinite = x.isFinite := by
  change (-x).toModel.unpack.isFinite = x.toModel.unpack.isFinite
  rw [unpack_neg]
  cases x.toModel.unpack <;> rfl

theorem isNaN_neg (x : Float) : (-x).isNaN = x.isNaN := by
  change (-x).toModel.unpack.isNaN = x.toModel.unpack.isNaN
  rw [unpack_neg]
  cases x.toModel.unpack <;> rfl

theorem isInf_of_isFinite {x : Float} (h : x.isFinite) : x.isInf = false := by
  change x.toModel.unpack.isFinite = true at h
  change x.toModel.unpack.isInf = false
  cases hunpack : x.toModel.unpack with
  | infinity s =>
      rw [hunpack] at h
      cases h
  | notANumber => rfl
  | zero s => rfl
  | finite s m q hm => rfl

/-- Equality of floats is equality of values, for all but the zeros and what is no number. -/
theorem eq_of_beq {x y : Float} (h : x == y) (hy : y.toModel.unpack = .finite s m q hm) :
    x = y := by
  obtain ⟨-, -, he | ⟨-, rfl⟩ | ⟨-, rfl⟩⟩ := Float.beq_iff_ne_nan_and_eq.1 h
  · exact he
  · cases hy
  · cases hy

theorem beq_self {x : Float} (hx : x.toModel.unpack = .finite s m q hm) : x == x := by
  rw [Float.beq_self_iff]
  rintro rfl
  cases hx

end AskTables.Binary
