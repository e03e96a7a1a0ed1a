import AskTables.Proofs.Decimal.Shortest
import AskTables.Proofs.Json.Number

/-!
# Floats in a JSON text

A finite float is printed as a number with a point or an exponent, and the nearest float to that
number is the float (`exists_parts`).

The number is read in one pass that rounds more than once, so what is read may be another float.  A
numeral is *short* if its digits and the power of ten it is scaled by are floats themselves.  Then
only the scaling rounds, and the nearest float is read (`float?_of_isShort`).
-/

namespace AskTables.Json

open Decimal (Numeral Scaled Layout compact)
open Float.Model.UnpackedFloat
open Binary

/-! ## Zeros around digits -/

theorem natOfDigits_append_zeros (ds : List Char) (n : Nat) :
    Decimal.natOfDigits (ds ++ List.replicate n '0') = Decimal.natOfDigits ds * 10 ^ n := by
  rw [natOfDigits_eq, natOfDigits_eq, Nat.ofDigitChars_append, Nat.ofDigitChars_replicate_zero,
    Nat.mul_comm]

theorem natOfDigits_zeros_append (ds : List Char) (n : Nat) :
    Decimal.natOfDigits (List.replicate n '0' ++ ds) = Decimal.natOfDigits ds := by
  rw [natOfDigits_eq, natOfDigits_eq, Nat.ofDigitChars_append, Nat.ofDigitChars_replicate_zero,
    Nat.mul_zero]

namespace NumberParts

/-! ## A printed decimal -/

/-- The parts of digits with the point at its place. -/
def positional (negative : Bool) (ds : List Char) (point : Int) : NumberParts :=
  if point ≤ 0 then ⟨negative, ['0'], List.replicate (-point).toNat '0' ++ ds, none⟩
  else if ds.length ≤ point then
    ⟨negative, ds ++ List.replicate (point.toNat - ds.length) '0', ['0'], none⟩
  else ⟨negative, ds.take point.toNat, ds.drop point.toNat, none⟩

/-- The parts of digits with the point after the first and an exponent. -/
def scientific (negative : Bool) (ds : List Char) (e : Int) : NumberParts :=
  ⟨negative, ds.take 1, ds.drop 1, some e⟩

/-- The parts of a decimal in a JSON text. -/
def ofScaled (negative : Bool) (d : Scaled) : NumberParts :=
  let ds := Layout.digitsOf d.digits
  let point := (ds.length : Int) + d.exponent
  if compact.isPositional (point - 1) then positional negative ds point
  else scientific negative ds (point - 1)

variable {negative : Bool} {ds : List Char} {point e : Int} {d : Scaled}

theorem fractionChars_of_ne_nil (h : ds ≠ []) : fractionChars ds = '.' :: ds := by
  cases ds with
  | nil => exact absurd rfl h
  | cons d ds => rfl

/-- The parts of a numeral with a point are its characters. -/
theorem chars_positional (hds : ds ≠ []) : (positional negative ds point).chars =
    (if negative then ['-'] else []) ++ compact.positional ds point := by
  rw [positional, Layout.positional]
  split
  · have hne : List.replicate (-point).toNat '0' ++ ds ≠ [] := by simp [hds]
    simp only [chars, unsigned, fractionChars_of_ne_nil hne, exponentChars, List.append_nil]
    rfl
  split
  · simp only [chars, unsigned, fractionChars, exponentChars, List.append_nil]
    rfl
  · have hne : ds.drop point.toNat ≠ [] := List.drop_eq_nil_iff.not.2 (by omega)
    simp only [chars, unsigned, fractionChars_of_ne_nil hne, exponentChars, List.append_nil]

theorem chars_scientific (hds : ds ≠ []) : (scientific negative ds e).chars =
    (if negative then ['-'] else []) ++ Layout.scientific ds e := by
  rw [scientific, chars, unsigned]
  congr 1
  rcases ds with _ | ⟨c, _ | ⟨f, fs⟩⟩
  · exact absurd rfl hds
  · rfl
  · rfl

theorem digitsOf_ne_nil {n : Nat} : Layout.digitsOf n ≠ [] := Nat.toDigits_ne_nil

/-- Digits and a power of ten are printed in the parts of a JSON number. -/
theorem chars_ofScaled : (ofScaled negative d).chars =
    (if negative then ['-'] else []) ++ compact.renderScaled d := by
  rw [ofScaled, Layout.renderScaled]
  split
  · exact chars_positional digitsOf_ne_nil
  · exact chars_scientific digitsOf_ne_nil

/-- A numeral with a point is a JSON number, as digits stand on both sides of the point. -/
theorem wellFormed_positional (hds : ∀ c ∈ ds, c.isDigit)
    (hhead : ∃ c cs, ds = c :: cs ∧ c ≠ '0') : (positional negative ds point).WellFormed := by
  have hzeros (n : Nat) : ∀ c ∈ List.replicate n '0', c.isDigit := by
    intro c hc
    rw [List.eq_of_mem_replicate hc]
    rfl
  obtain ⟨c, cs, rfl, hc⟩ := hhead
  rw [positional]
  split
  · exact ⟨hzeros 1, List.forall_mem_append.2 ⟨hzeros _, hds⟩, .inl rfl⟩
  split
  · exact ⟨List.forall_mem_append.2 ⟨hds, hzeros _⟩, hzeros 1, .inr ⟨c, _, List.cons_append, hc⟩⟩
  · obtain ⟨n, hn⟩ := Nat.exists_eq_add_of_le' (show 1 ≤ point.toNat by omega)
    refine ⟨fun c hc => hds c (List.mem_of_mem_take hc),
      fun c hc => hds c (List.mem_of_mem_drop hc), .inr ⟨c, cs.take n, ?_, hc⟩⟩
    rw [hn, List.take_succ_cons]

/-- A numeral with an exponent is a JSON number, as its first digit is no zero. -/
theorem wellFormed_scientific (hds : ∀ c ∈ ds, c.isDigit)
    (hhead : ∃ c cs, ds = c :: cs ∧ c ≠ '0') : (scientific negative ds e).WellFormed := by
  obtain ⟨c, cs, rfl, hc⟩ := hhead
  exact ⟨fun c hc => hds c (List.mem_of_mem_take hc), fun c hc => hds c (List.mem_of_mem_drop hc),
    .inr ⟨c, [], rfl, hc⟩⟩

theorem wellFormed_ofScaled (hd : 0 < d.digits) : (ofScaled negative d).WellFormed := by
  rw [ofScaled]
  split
  · exact wellFormed_positional (fun _ => isDigit_of_mem_toDigits) (head_toDigits hd)
  · exact wellFormed_scientific (fun _ => isDigit_of_mem_toDigits) (head_toDigits hd)

/-- A printed decimal has a point or an exponent. -/
theorem isFloat_ofScaled :
    (ofScaled negative d).fraction ≠ [] ∨ (ofScaled negative d).exponent.isSome := by
  rw [ofScaled]
  split
  · rw [positional]
    split
    · exact .inl (by simp [digitsOf_ne_nil])
    split
    · exact .inl (by simp)
    · exact .inl (List.drop_eq_nil_iff.not.2 (by omega))
  · exact .inr rfl

/-- Zeros after the digits count, and the zero after the point is paid for by the scale. -/
theorem positional_whole (hds : ds ≠ []) (n : Nat) :
    (positional negative ds (ds.length + n)).numeral.significand =
        Decimal.natOfDigits ds * 10 ^ (n + 1) ∧
      (positional negative ds (ds.length + n)).numeral.scale = -1 := by
  have hlength := List.length_pos_of_ne_nil hds
  have hzeros : ds ++ List.replicate (((ds.length : Int) + n).toNat - ds.length) '0' ++ ['0'] =
      ds ++ List.replicate (n + 1) '0' := by
    rw [List.append_assoc, List.replicate_succ']
    congr 3
    omega
  rw [Numeral.significand, Numeral.scale, numeral, positional, if_neg (by omega), if_pos (by omega)]
  dsimp only
  rw [hzeros, natOfDigits_append_zeros]
  exact ⟨rfl, rfl⟩

/-- Zeros before the digits and a point among them change nothing. -/
theorem ofScientific_positional (hds : 0 < Decimal.natOfDigits ds) (hpoint : point ≤ 16) :
    Float.Model.ofScientific (positional negative ds point).numeral.significand
        (positional negative ds point).numeral.scale =
      Float.Model.ofScientific (Decimal.natOfDigits ds) (point - ds.length) := by
  have hne : ds ≠ [] := by
    rintro rfl
    exact absurd hds (by decide)
  rcases lt_or_ge point ds.length with hlt | hle
  · rw [Numeral.significand, Numeral.scale, numeral, positional]
    split
    · have hscale : (0 : Int) - (List.replicate (-point).toNat '0' ++ ds).length =
          point - ds.length := by
        rw [List.length_append, List.length_replicate]
        omega
      dsimp only [Option.getD_none]
      rw [hscale, List.singleton_append, ← List.cons_append, ← List.replicate_succ,
        natOfDigits_zeros_append]
    · rw [if_neg (by omega)]
      have hscale : (0 : Int) - (ds.drop point.toNat).length = point - ds.length := by
        rw [List.length_drop]
        omega
      dsimp only [Option.getD_none]
      rw [List.take_append_drop, hscale]
  · -- Zeros are added, so significand and scale are others, and only the value is the same.
    obtain ⟨n, hn⟩ : ∃ n : Nat, point = ds.length + n := ⟨point.toNat - ds.length, by omega⟩
    obtain ⟨hsignificand, hscale⟩ := @positional_whole negative ds hne n
    have hvalue : ((Decimal.natOfDigits ds * 10 ^ (n + 1) : ℕ) : ℚ) * 10 ^ (-1 : ℤ) =
        Decimal.natOfDigits ds * 10 ^ (n : ℤ) := by
      rw [zpow_neg, zpow_one, zpow_natCast, pow_succ]
      push_cast
      field_simp
    have hleast : (2 : ℚ) ^ (-1074 : ℤ) ≤ Decimal.natOfDigits ds * 10 ^ (n : ℤ) := by
      have hone : (1 : ℚ) ≤ Decimal.natOfDigits ds := by exact_mod_cast hds
      refine le_trans (zpow_le_one_of_nonpos₀ (by norm_num) (by norm_num)) ?_
      exact one_le_mul_of_one_le_of_one_le hone (one_le_zpow₀ (by norm_num) (by omega))
    rw [hn, hsignificand, hscale, add_sub_cancel_left]
    exact Decimal.ofScientific_eq_of_value (by positivity) hds (by decide) (by omega)
      (by rwa [hvalue]) hvalue

/-- The float of a printed decimal is the float of the decimal. -/
theorem ofScientific_ofScaled (hd : 0 < d.digits) :
    Float.Model.ofScientific (ofScaled negative d).numeral.significand
        (ofScaled negative d).numeral.scale =
      Float.Model.ofScientific d.digits d.exponent := by
  have hvalue : Decimal.natOfDigits (Layout.digitsOf d.digits) = d.digits := natOfDigits_toDigits _
  have hlength : 0 < (Layout.digitsOf d.digits).length :=
    List.length_pos_of_ne_nil digitsOf_ne_nil
  rw [ofScaled]
  split
  · rename_i hposition
    simp only [compact, Bool.and_eq_true, decide_eq_true_eq] at hposition
    rw [ofScientific_positional (by omega) (by omega), hvalue, add_sub_cancel_left]
  · have hscale : ((Layout.digitsOf d.digits).length + d.exponent - 1 : Int) -
        ((Layout.digitsOf d.digits).drop 1).length = d.exponent := by
      rw [List.length_drop]
      omega
    rw [Numeral.significand, Numeral.scale, numeral, scientific]
    dsimp only [Option.getD_some]
    rw [List.take_append_drop, hvalue, hscale]

/-- What is printed stands for the digits that were scaled. -/
theorem toFloat_ofScaled (hd : 0 < d.digits) : (ofScaled negative d).numeral.toFloat =
    if negative then -d.toFloat else d.toFloat := by
  have hnegative : (ofScaled negative d).numeral.negative = negative := by
    simp only [ofScaled, positional, scientific, numeral]
    split_ifs <;> rfl
  rw [Numeral.toFloat, hnegative, ofScientific_ofScaled hd]
  rfl

/-- The parts of a zero. -/
def ofZero (negative : Bool) : NumberParts := ⟨negative, ['0'], ['0'], none⟩

theorem wellFormed_ofZero : (ofZero negative).WellFormed :=
  ⟨by simp [ofZero], by simp [ofZero], .inl rfl⟩

/-- The zeros keep their signs. -/
theorem toFloat_ofZero : (ofZero negative).numeral.toFloat =
    .ofModel (.pack (.zero (if negative then .negative else .positive))) := by
  have hzero : (ofZero negative).numeral.significand = 0 := rfl
  rw [Numeral.toFloat, hzero, Decimal.ofScientific_zero]
  cases negative with
  | false => rfl
  | true => exact neg_zero

/-! ## A printed float -/

section Render

variable {x : Float} {m : ℕ} {q : ℤ} {hm : 0 < m}

/-- A zero is printed as `0.0`, with its sign. -/
theorem render_zero (hx : x.toModel.unpack = .zero (if negative then .negative else .positive)) :
    compact.render x = (ofZero negative).chars := by
  rw [Layout.render, hx]
  cases negative <;> rfl

/-- A float above zero is printed in its shortest digits. -/
theorem render_finite (hx : x.toModel.unpack = .finite .positive m q hm) :
    compact.render x = (ofScaled false (Decimal.shortest compact.tie x m q)).chars := by
  rw [chars_ofScaled, Layout.render, hx]
  rfl

/-- A float below zero is printed as the one above with a minus sign. -/
theorem render_neg (hx : x.toModel.unpack = .finite .positive m q hm) :
    compact.render (-x) = (ofScaled true (Decimal.shortest compact.tie x m q)).chars := by
  rw [chars_ofScaled, Layout.render, unpack_neg, hx, float_neg_neg]
  rfl

/-- A finite float is printed as a number with a point or an exponent, and it is the float nearest
to that number. -/
theorem exists_parts (hx : x.isFinite) :
    ∃ p : NumberParts, compact.render x = p.chars ∧ p.WellFormed ∧
      (p.fraction ≠ [] ∨ p.exponent.isSome) ∧ p.numeral.toFloat = x := by
  change x.toModel.unpack.isFinite = true at hx
  cases hunpack : x.toModel.unpack with
  | notANumber =>
      rw [hunpack] at hx
      cases hx
  | infinity s =>
      rw [hunpack] at hx
      cases hx
  | zero s =>
      obtain ⟨negative, rfl⟩ :
          ∃ negative : Bool, s = if negative then .negative else .positive := by
        cases s with
        | positive => exact ⟨false, rfl⟩
        | negative => exact ⟨true, rfl⟩
      exact ⟨ofZero negative, render_zero hunpack, wellFormed_ofZero, .inl (by simp [ofZero]),
        toFloat_ofZero.trans (eq_of_unpack hunpack).symm⟩
  | finite s m q hm =>
      cases s with
      | positive =>
          obtain ⟨hpos, hfloat⟩ := Decimal.toFloat_shortest compact.tie hunpack
          refine ⟨_, render_finite hunpack, wellFormed_ofScaled hpos, isFloat_ofScaled, ?_⟩
          rw [toFloat_ofScaled hpos, if_neg (by decide), hfloat]
      | negative =>
          -- The digits are those of the opposite float.
          have hneg : (-x).toModel.unpack = .finite .positive m q hm := by
            rw [unpack_neg, hunpack]
            rfl
          obtain ⟨hpos, hfloat⟩ := Decimal.toFloat_shortest compact.tie hneg
          have hrender := render_neg hneg
          rw [float_neg_neg] at hrender
          refine ⟨_, hrender, wellFormed_ofScaled hpos, isFloat_ofScaled, ?_⟩
          rw [toFloat_ofScaled hpos, if_pos rfl, hfloat, float_neg_neg]

end Render

end NumberParts

/-- The digits of a float are right: the float nearest to them is the float. -/
theorem readFloat?_render {x : Float} (hx : x.isFinite) :
    Decimal.readFloat? (compact.render x) = some x := by
  obtain ⟨p, hchars, hp, -, hfloat⟩ := NumberParts.exists_parts hx
  rw [Decimal.readFloat?, hchars, NumberParts.scan?_chars hp]
  dsimp only
  rw [hfloat]

/-! ## Short numerals -/

/-- The digits of a numeral and the power of ten they are scaled by are floats themselves. -/
def IsShort (n : Numeral) : Prop := n.significand < 2 ^ 53 ∧ n.scale.natAbs ≤ 22

instance (n : Numeral) : Decidable (IsShort n) := inferInstanceAs (Decidable (_ ∧ _))

theorem le_ofDigitChars (n : Nat) (ds : List Char) : n ≤ Nat.ofDigitChars 10 ds n := by
  rw [Nat.ofDigitChars_eq_ofDigitChars_zero]
  have hpow : 1 ≤ 10 ^ ds.length := Nat.one_le_pow _ _ (by decide)
  nlinarith

/-- Digits are taken as long as the number they make fits. -/
theorem take64_eq {ds : List Char} {n : Nat} (h : Nat.ofDigitChars 10 ds n < 2 ^ 64) :
    take64 n ds = (Nat.ofDigitChars 10 ds n, []) := by
  induction ds generalizing n with
  | nil => rfl
  | cons d ds ih =>
      rw [Nat.ofDigitChars_cons] at h ⊢
      have hnext : _ < Nat.pow 2 64 := lt_of_le_of_lt (le_ofDigitChars _ ds) h
      rw [take64, if_pos hnext, ih h]

/-- Up to 10 ^ 22 powers of ten are floats, so multiplying by one rounds once. -/
theorem toFloat_mul_powerOfTen {m k : Nat} (hm : m < 2 ^ 53) (hk : k ≤ 22) :
    (UInt64.ofNat m).toFloat * powerOfTen k = .ofModel (.ofScientific m k) := by
  have hpower : HasValue (powerOfTen k) (10 ^ k) := hasValue_powerOfTen hk
  rcases Nat.eq_zero_or_pos m with rfl | hpos
  · rw [Decimal.ofScientific_zero]
    exact hpower.zero_mul
  · have hone : (1 : ℚ) ≤ m := by exact_mod_cast hpos
    have hleast : (2 : ℚ) ^ (-1074 : ℤ) ≤ m * 10 ^ (k : ℤ) :=
      le_trans (zpow_le_one_of_nonpos₀ (by norm_num) (by norm_num))
        (one_le_mul_of_one_le_of_one_le hone (one_le_zpow₀ (by norm_num) (by omega)))
    rw [(hasValue_toFloat hpos hm).mul hpower, Float.Model.ofScientific,
      ofScientific_eq_nearest hpos (by omega) (by omega) hleast, zpow_natCast]

/-- Dividing by such a power rounds once as well. -/
theorem toFloat_div_powerOfTen {m k : Nat} (hm : m < 2 ^ 53) (hk : k ≤ 22) :
    (UInt64.ofNat m).toFloat / powerOfTen k = .ofModel (.ofScientific m (-k)) := by
  have hpower : HasValue (powerOfTen k) (10 ^ k) := hasValue_powerOfTen hk
  rcases Nat.eq_zero_or_pos m with rfl | hpos
  · rw [Decimal.ofScientific_zero]
    exact hpower.zero_div
  · have hone : (1 : ℚ) ≤ m := by exact_mod_cast hpos
    have hvalue : (m : ℚ) * 10 ^ (-(k : ℤ)) = m / 10 ^ k := by
      rw [zpow_neg, zpow_natCast, div_eq_mul_inv]
    have hleast : (2 : ℚ) ^ (-1074 : ℤ) ≤ m / 10 ^ k := by
      rw [le_div_iff₀ (by positivity)]
      refine le_trans ?_ hone
      calc (2 : ℚ) ^ (-1074 : ℤ) * 10 ^ k ≤ 2 ^ (-74 : ℤ) * 10 ^ 22 := by
            gcongr <;> norm_num
        _ ≤ 1 := by norm_num
    rw [(hasValue_toFloat hpos hm).div hpower hleast, Float.Model.ofScientific,
      ofScientific_eq_nearest hpos (by omega) (by omega) (by rwa [hvalue]), hvalue]

/-- A small exponent is dealt with in one step. -/
theorem scale?_of_le {e : Int} (he : e.natAbs ≤ maxPower) (steps : Nat) (x : Float) :
    scale? steps x e =
      if 0 ≤ e then
        if (x * powerOfTen e.natAbs).isInf then none else some (x * powerOfTen e.natAbs)
      else some (x / powerOfTen e.natAbs) := by
  rw [scale?.eq_def]
  exact if_pos he

/-- Digits that are floats are scaled once, by a power of ten that is a float. -/
theorem scale?_of_isShort {m : Nat} {e : Int} (hm : m < 2 ^ 53) (he : e.natAbs ≤ 22)
    (hfinite : (Float.ofModel (.ofScientific m e)).isFinite) (steps : Nat) :
    scale? steps (UInt64.ofNat m).toFloat e = some (.ofModel (.ofScientific m e)) := by
  rw [scale?_of_le (by rw [maxPower.eq_def]; omega)]
  split
  · rename_i hnonneg
    obtain ⟨k, rfl⟩ := Int.eq_ofNat_of_zero_le hnonneg
    rw [Int.natAbs_natCast] at he ⊢
    rw [toFloat_mul_powerOfTen hm he, isInf_of_isFinite hfinite]
    rfl
  · rename_i hneg
    obtain ⟨k, rfl⟩ : ∃ k : ℕ, e = -k := ⟨e.natAbs, by omega⟩
    rw [Int.natAbs_neg, Int.natAbs_natCast] at he ⊢
    rw [toFloat_div_powerOfTen hm he]

/-- A short numeral of a finite float is read as that float. -/
theorem float?_of_isShort {n : Numeral} (h : IsShort n) (hfinite : n.toFloat.isFinite) :
    float? n = some n.toFloat := by
  obtain ⟨hsignificand, hscale⟩ := h
  have hsplit : n.significand =
      Nat.ofDigitChars 10 n.fraction (Nat.ofDigitChars 10 n.whole 0) := by
    rw [Numeral.significand, natOfDigits_eq, Nat.ofDigitChars_append]
  have hfits : n.significand < 2 ^ 64 := lt_trans hsignificand (by decide)
  have hwhole : take64 0 n.whole = (Nat.ofDigitChars 10 n.whole 0, []) :=
    take64_eq (lt_of_le_of_lt (le_ofDigitChars _ n.fraction) (hsplit ▸ hfits))
  have hfraction : take64 (Nat.ofDigitChars 10 n.whole 0) n.fraction = (n.significand, []) := by
    rw [hsplit]
    exact take64_eq (hsplit ▸ hfits)
  have hexponent : n.exponent + (([] : List Char).length : Int) -
      ((n.fraction.length - ([] : List Char).length : Nat) : Int) = n.scale := by
    rw [Numeral.scale, List.length_nil]
    omega
  rw [float?, hwhole]
  dsimp only
  rw [hfraction]
  dsimp only
  rw [hexponent, scale?_of_isShort hsignificand hscale]
  · rfl
  · rw [Numeral.toFloat] at hfinite
    split at hfinite
    · rwa [isFinite_neg] at hfinite
    · exact hfinite

/-! ## Floats that come back -/

/-- The float that is read where a float was written. -/
def reread? (x : Float) : Option Float :=
  (Numeral.scan? (compact.render x)).bind fun r => float? r.1

/-- Whether a float is written as a short numeral. -/
def WritesShort (x : Float) : Prop :=
  ∃ n, Numeral.scan? (compact.render x) = some (n, []) ∧ IsShort n

instance (x : Float) : Decidable (WritesShort x) :=
  decidable_of_iff ((Numeral.scan? (compact.render x)).any fun r =>
    r.2.isEmpty && decide (IsShort r.1)) (by simp [WritesShort, Option.any_eq_true])

/-- A float that is written as a short numeral comes back. -/
theorem reread?_of_writesShort {x : Float} (hx : x.isFinite) (h : WritesShort x) :
    reread? x = some x := by
  obtain ⟨p, hchars, hp, -, hfloat⟩ := NumberParts.exists_parts hx
  obtain ⟨n, hscan, hshort⟩ := h
  have hn : p.numeral = n := by
    rw [hchars, NumberParts.scan?_chars hp] at hscan
    cases hscan
    rfl
  rw [reread?, hscan, Option.bind_some, ← hn, float?_of_isShort (hn ▸ hshort)]
  · rw [hfloat]
  · rwa [hfloat]

/-- Whole numbers, written with one digit more than they have, are short if that still is. -/
theorem isShort_ofScaled {d : Scaled} {negative : Bool} {k : Nat} (hd : 0 < d.digits)
    (hk : d.exponent = k) (hlt : 10 * (d.digits * 10 ^ k) < 2 ^ 53) :
    IsShort (NumberParts.ofScaled negative d).numeral := by
  have hdigits : (Layout.digitsOf d.digits).length + k ≤ 15 := by
    have hfew : d.digits * 10 ^ k < 10 ^ 15 := by omega
    have hkfew : k < 15 := by
      rw [← Nat.pow_lt_pow_iff_right (show 1 < 10 by decide)]
      exact lt_of_le_of_lt (Nat.le_mul_of_pos_left _ hd) hfew
    obtain ⟨j, hj⟩ := Nat.exists_eq_add_of_lt hkfew
    have hlt : d.digits < 10 ^ (j + 1) := by
      rw [show 15 = (j + 1) + k by omega, pow_add] at hfew
      exact Nat.lt_of_mul_lt_mul_right hfew
    have hlength := (Nat.length_toDigits_le_iff (by decide) (by omega)).2 hlt
    rw [Layout.digitsOf]
    omega
  have hposition : compact.isPositional
      ((Layout.digitsOf d.digits).length + d.exponent - 1) = true := by
    simp only [compact, Bool.and_eq_true, decide_eq_true_eq]
    omega
  obtain ⟨hsignificand, hscale⟩ :=
    @NumberParts.positional_whole negative _ (@NumberParts.digitsOf_ne_nil d.digits) k
  rw [NumberParts.ofScaled, if_pos hposition, hk, IsShort, hsignificand, hscale]
  refine ⟨?_, by decide⟩
  rw [Layout.digitsOf, natOfDigits_toDigits, pow_succ, ← Nat.mul_assoc]
  omega

/-- A whole number below a tenth of `2 ^ 53` is written as a short numeral, with either sign, and so
is zero. -/
theorem writesShort_toFloat {n : Nat} (hn : 10 * n < 2 ^ 53) :
    WritesShort (UInt64.ofNat n).toFloat ∧ WritesShort (-(UInt64.ofNat n).toFloat) := by
  have hshort {x : Float} {p : NumberParts} (hchars : compact.render x = p.chars)
      (hp : p.WellFormed) (h : IsShort p.numeral) : WritesShort x :=
    ⟨p.numeral, by rw [hchars, NumberParts.scan?_chars hp], h⟩
  rcases Nat.eq_zero_or_pos n with rfl | hpos
  · have hunpack : (UInt64.ofNat 0).toFloat.toModel.unpack = .zero .positive := rfl
    have hneg : (-(UInt64.ofNat 0).toFloat).toModel.unpack = .zero .negative := by
      rw [unpack_neg, hunpack]
      rfl
    exact ⟨hshort (@NumberParts.render_zero false _ hunpack) NumberParts.wellFormed_ofZero
        (by decide),
      hshort (@NumberParts.render_zero true _ hneg) NumberParts.wellFormed_ofZero (by decide)⟩
  · obtain ⟨m, q, hm, hunpack, -, hvalue⟩ := hasValue_toFloat hpos (by omega)
    obtain ⟨k, hk, hdigits⟩ := Decimal.shortest_whole compact.tie hunpack hvalue (by omega)
    have hd := (Decimal.toFloat_shortest compact.tie hunpack).1
    rw [← hdigits] at hn
    exact ⟨hshort (NumberParts.render_finite hunpack) (NumberParts.wellFormed_ofScaled hd)
        (isShort_ofScaled hd hk hn),
      hshort (NumberParts.render_neg hunpack) (NumberParts.wellFormed_ofScaled hd)
        (isShort_ofScaled hd hk hn)⟩

end AskTables.Json
