import AskTables.Json.Number
import AskTables.Proofs.Json.RoundTrip
import AskTables.Proofs.Text.Ascii

/-!
# Numbers in a JSON text

A number is written as a sign, digits, and possibly a point with more digits and an exponent.
`NumberParts` holds these parts, and `NumberParts.chars` is the number they write.  A number in good
form is read off a text as far as it goes, and its parts are found again: `readNumber?_chars` and
`scan?_chars`.

A number without point and exponent is an integer as long as it fits, and no other number is one.
-/

namespace AskTables.Json

open Decimal (Numeral)

/-! ## The digits of a number -/

theorem natOfDigits_eq (ds : List Char) : Decimal.natOfDigits ds = Nat.ofDigitChars 10 ds 0 := by
  rw [Decimal.natOfDigits, Nat.ofDigitChars_eq_foldl]

theorem natOfDigits_toDigits (n : Nat) : Decimal.natOfDigits (Nat.toDigits 10 n) = n := by
  rw [natOfDigits_eq, Nat.ofDigitChars_ten_toDigits]

theorem isDigit_of_mem_toDigits {n : Nat} {c : Char} (h : c ∈ Nat.toDigits 10 n) : c.isDigit :=
  Nat.isDigit_of_mem_toDigits (by decide) (by decide) h

/-- A number that is not zero begins with no zero. -/
theorem head_toDigits {n : Nat} (hn : 0 < n) : ∃ c ds, Nat.toDigits 10 n = c :: ds ∧ c ≠ '0' := by
  induction n using Nat.strongRecOn with
  | ind n ih =>
      rw [Nat.toDigits_eq_if (by decide)]
      split
      · rename_i hlt
        refine ⟨Nat.digitChar n, [], rfl, ?_⟩
        rw [ne_eq, Nat.digitChar_eq_zero]
        omega
      · rename_i hge
        obtain ⟨c, ds, he, hc⟩ := ih (n / 10) (by omega) (by omega)
        exact ⟨c, ds ++ [Nat.digitChar (n % 10)], by rw [he, List.cons_append], hc⟩

/-! ## Parts -/

/-- The parts of a number. -/
structure NumberParts where
  /-- Whether a minus sign stands in front. -/
  negative : Bool
  /-- The digits before the point. -/
  whole : List Char
  /-- The digits after the point.  Without digits there is no point. -/
  fraction : List Char
  /-- The exponent, if there is one. -/
  exponent : Option Int

namespace NumberParts

/-- The point and the digits after it. -/
def fractionChars : List Char → List Char
  | [] => []
  | ds => '.' :: ds

/-- The mark, the sign and the digits of an exponent. -/
def exponentChars : Option Int → List Char
  | none => []
  | some e => 'e' :: (if e < 0 then '-' else '+') :: Nat.toDigits 10 e.natAbs

/-- A number without its sign. -/
def unsigned (p : NumberParts) : List Char :=
  p.whole ++ (fractionChars p.fraction ++ exponentChars p.exponent)

/-- The number that the parts write. -/
def chars (p : NumberParts) : List Char := (if p.negative then ['-'] else []) ++ p.unsigned

/-- The numeral that the parts make. -/
def numeral (p : NumberParts) : Numeral := ⟨p.negative, p.whole, p.fraction, p.exponent.getD 0⟩

/-- The parts of a number in good form: digits on both sides of the point, and no zero in front of
others. -/
structure WellFormed (p : NumberParts) : Prop where
  digits : ∀ c ∈ p.whole, c.isDigit
  fraction : ∀ c ∈ p.fraction, c.isDigit
  head : p.whole = ['0'] ∨ ∃ c ds, p.whole = c :: ds ∧ c ≠ '0'

variable {p : NumberParts} {rest : List Char}

theorem WellFormed.ne_nil (h : p.WellFormed) : p.whole ≠ [] := by
  rcases h.head with he | ⟨c, ds, he, _⟩ <;> simp [he]

/-! ## Reading -/

/-- A text that digits before it do not go on into. -/
def EndsDigits (rest : List Char) : Prop := ∀ c ∈ rest.head?, c.isDigit = false

theorem takeWhile_isDigit {ds : List Char} (hds : ∀ c ∈ ds, c.isDigit) (hrest : EndsDigits rest) :
    (ds ++ rest).takeWhile Char.isDigit = ds ∧ (ds ++ rest).dropWhile Char.isDigit = rest :=
  Text.span_run hds hrest

/-- Digits are read up to what ends them. -/
theorem readDigits?_append {ds : List Char} (hne : ds ≠ []) (hds : ∀ c ∈ ds, c.isDigit)
    (hrest : EndsDigits rest) : readDigits? (ds ++ rest) = some (ds, rest) := by
  obtain ⟨htake, hdrop⟩ := takeWhile_isDigit hds hrest
  rw [readDigits?, htake, hdrop]
  cases ds with
  | nil => exact absurd rfl hne
  | cons d ds => rfl

theorem endsDigits_of_endsNumber (h : EndsNumber rest) : EndsDigits rest := by
  intro c hc
  have hcont := h c hc
  simp only [continuesNumber, Bool.or_eq_false_iff] at hcont
  exact hcont.1.1.1

/-- Behind the point the exponent ends the digits, or whatever ends the number. -/
theorem endsDigits_exponentChars (e : Option Int) (h : EndsNumber rest) :
    EndsDigits (exponentChars e ++ rest) := by
  cases e with
  | none => exact endsDigits_of_endsNumber h
  | some e =>
      intro c hc
      cases hc
      rfl

theorem endsDigits_fractionChars (ds : List Char) (e : Option Int) (h : EndsNumber rest) :
    EndsDigits (fractionChars ds ++ (exponentChars e ++ rest)) := by
  cases ds with
  | nil => exact endsDigits_exponentChars e h
  | cons d ds =>
      intro c hc
      cases hc
      rfl

/-- The digits before the point are read, as a zero stands there alone. -/
theorem readWhole?_append (h : p.WellFormed) (hrest : EndsDigits rest) :
    readWhole? (p.whole ++ rest) = some (p.whole, rest) := by
  rw [readWhole?, readDigits?_append h.ne_nil h.digits hrest]
  split
  · rename_i heq
    rcases h.head with he | ⟨c, ds, he, hc⟩
    · rw [he] at heq
      cases heq
    · rw [he] at heq
      cases heq
      exact absurd rfl hc
  · rfl

/-- A fraction is read with its point, and none if there is none. -/
theorem readFraction?_append {ds : List Char} (hds : ∀ c ∈ ds, c.isDigit) {e : Option Int}
    (hrest : EndsNumber rest) :
    readFraction? (fractionChars ds ++ (exponentChars e ++ rest)) =
      some (fractionChars ds, exponentChars e ++ rest) := by
  have hend := endsDigits_exponentChars e hrest
  cases ds with
  | cons d ds =>
      simp only [fractionChars, List.cons_append, readFraction?]
      rw [← List.cons_append, readDigits?_append (List.cons_ne_nil d ds) hds hend]
      rfl
  | nil =>
      simp only [fractionChars, List.nil_append, readFraction?]
      split
      · -- Neither an exponent nor what follows the number begins with a point.
        rename_i he
        cases e with
        | some e => cases he
        | none =>
            have hpoint := hrest '.' (by simpa [exponentChars] using congrArg List.head? he)
            cases hpoint
      · rfl

/-- An exponent is read with its sign, and none if there is none. -/
theorem readExponent?_append (e : Option Int) (hrest : EndsNumber rest) :
    readExponent? (exponentChars e ++ rest) = some (exponentChars e, rest) := by
  have hend := endsDigits_of_endsNumber hrest
  cases e with
  | none =>
      cases rest with
      | nil => rfl
      | cons c rest =>
          have hc := hrest c (by simp)
          simp only [continuesNumber, Bool.or_eq_false_iff, beq_eq_false_iff_ne] at hc
          have hmark : ¬ (c = 'e' ∨ c = 'E') := fun h => h.elim hc.1.2 hc.2
          simp [exponentChars, readExponent?, hmark]
  | some e =>
      have hdigits := @readDigits?_append _ (Nat.toDigits 10 e.natAbs) Nat.toDigits_ne_nil
        (fun _ => isDigit_of_mem_toDigits) hend
      by_cases he : e < 0 <;> simp [exponentChars, readExponent?, he, hdigits]

/-- The parts of a number are read one after another. -/
theorem readUnsigned?_append (h : p.WellFormed) (hrest : EndsNumber rest) :
    readUnsigned? (p.unsigned ++ rest) = some (p.unsigned, rest) := by
  have hwhole := readWhole?_append h (endsDigits_fractionChars p.fraction p.exponent hrest)
  simp only [readUnsigned?, unsigned, List.append_assoc, hwhole, Option.bind_eq_bind,
    Option.bind_some, readFraction?_append h.fraction hrest, readExponent?_append _ hrest,
    Option.pure_def]

/-- Without its sign a number begins with a digit. -/
theorem unsigned_head (h : p.WellFormed) : ∃ c s, p.unsigned = c :: s ∧ c.isDigit := by
  obtain ⟨c, ds, he⟩ := List.exists_cons_of_ne_nil h.ne_nil
  exact ⟨c, _, by rw [unsigned, he, List.cons_append], h.digits c (by simp [he])⟩

/-- A number in good form is read as far as it goes. -/
theorem readNumber?_chars (h : p.WellFormed) (hrest : EndsNumber rest) :
    readNumber? (p.chars ++ rest) = some (p.chars, rest) := by
  have hread := readUnsigned?_append h hrest
  obtain ⟨c, s, hu, hc⟩ := unsigned_head h
  rw [chars]
  cases p.negative with
  | true => simp [readNumber?, hread]
  | false =>
      simp only [Bool.false_eq_true, if_false, List.nil_append]
      rw [hu, List.cons_append] at hread ⊢
      unfold readNumber?
      split
      · rename_i heq
        cases heq
        cases hc
      · exact hread

/-- A number begins with a digit or a minus sign. -/
theorem chars_head (h : p.WellFormed) : ∃ c s, p.chars = c :: s ∧ (c.isDigit ∨ c = '-') := by
  obtain ⟨c, s, hu, hc⟩ := unsigned_head h
  rw [chars, hu]
  cases p.negative with
  | true => exact ⟨'-', c :: s, rfl, .inr rfl⟩
  | false => exact ⟨c, s, rfl, .inl hc⟩

/-- A number is read back off its text. -/
theorem WellFormed.readsBack (h : p.WellFormed) : ReadsBack (.number (String.ofList p.chars)) := by
  obtain ⟨c, s, hs, hc⟩ := chars_head h
  have hchars : (Json.number (String.ofList p.chars)).renderChars = c :: s := by
    rw [renderChars, String.toList_ofList, hs]
  have hcode : c.toNat = 45 ∨ 48 ≤ c.toNat ∧ c.toNat ≤ 57 := by
    rcases hc with hc | rfl
    · exact .inr ((Text.isDigit_iff c).1 hc)
    · exact .inl rfl
  have hother : ∀ d : Char, d.toNat ≠ 45 → ¬ (48 ≤ d.toNat ∧ d.toNat ≤ 57) → c ≠ d := by
    rintro d hd hd' rfl
    omega
  refine .of_succ hchars ⟨?_, hother ']' (by decide) (by decide)⟩ fun {fuel rest} hrest _ => ?_
  · rw [isSpace]
    simp [hother ' ' (by decide) (by decide), hother '\t' (by decide) (by decide),
      hother '\r' (by decide) (by decide), hother '\n' (by decide) (by decide)]
  · have hread := readNumber?_chars h hrest
    rw [hs, List.cons_append] at hread
    rw [hchars, List.cons_append, readAt?]
    · rw [hread, hs]
      rfl
    all_goals
      intro _ he
      exact hother _ (by decide) (by decide) (List.cons.inj he).1

/-! ## The parts found again -/

theorem scanDigits_append {ds : List Char} (hds : ∀ c ∈ ds, c.isDigit) (hrest : EndsDigits rest) :
    Numeral.scanDigits (ds ++ rest) = (ds, rest) := by
  obtain ⟨htake, hdrop⟩ := takeWhile_isDigit hds hrest
  rw [Numeral.scanDigits, htake, hdrop]

theorem scanExponent?_exponentChars (e : Int) :
    Numeral.scanExponent? (exponentChars (some e)) = some (e, []) := by
  have hdigits := @scanDigits_append [] (Nat.toDigits 10 e.natAbs)
    (fun _ => isDigit_of_mem_toDigits) (by intro c hc; cases hc)
  rw [List.append_nil] at hdigits
  obtain ⟨d, ds, hd⟩ := List.exists_cons_of_ne_nil
    (Nat.toDigits_ne_nil (n := e.natAbs) (b := 10))
  rw [hd] at hdigits
  by_cases he : e < 0
  · have hvalue : -(Decimal.natOfDigits (d :: ds) : Int) = e := by
      rw [← hd, natOfDigits_toDigits]
      omega
    simp only [exponentChars, he, if_true, Numeral.scanExponent?, Numeral.scanSign, hdigits, hd,
      true_or, hvalue]
  · have hvalue : (Decimal.natOfDigits (d :: ds) : Int) = e := by
      rw [← hd, natOfDigits_toDigits]
      omega
    simp only [exponentChars, he, if_false, Numeral.scanExponent?, Numeral.scanSign, hdigits, hd,
      true_or, if_true, hvalue, Bool.false_eq_true]

/-- The minus sign of a number is taken off, and no other sign is. -/
theorem scanSign_chars (h : p.WellFormed) :
    Numeral.scanSign p.chars = (p.negative, p.unsigned) := by
  obtain ⟨c, s, hu, hc⟩ := unsigned_head h
  rw [chars, hu]
  cases p.negative with
  | true => rfl
  | false =>
      simp only [Bool.false_eq_true, if_false, List.nil_append]
      unfold Numeral.scanSign
      split
      · rename_i he
        cases he
        cases hc
      · rename_i he
        cases he
        cases hc
      · rfl

/-- Scanning a number gives its parts, and takes all of it. -/
theorem scan?_chars (h : p.WellFormed) : Numeral.scan? p.chars = some (p.numeral, []) := by
  have hnil : EndsNumber ([] : List Char) := endsNumber_nil
  have hwhole : Numeral.scanDigits p.unsigned =
      (p.whole, fractionChars p.fraction ++ exponentChars p.exponent) := by
    have hscan := scanDigits_append h.digits (endsDigits_fractionChars p.fraction p.exponent hnil)
    rwa [List.append_nil] at hscan
  have hempty : p.whole.isEmpty = false := by simpa using h.ne_nil
  have hexponent : Numeral.scanExponent? (exponentChars p.exponent) =
      p.exponent.map fun e => (e, []) := by
    cases p.exponent with
    | none => rfl
    | some e => exact scanExponent?_exponentChars e
  simp only [Numeral.scan?, scanSign_chars h, hwhole, numeral]
  cases hf : p.fraction with
  | cons d ds =>
      have hscan := scanDigits_append h.fraction (endsDigits_exponentChars p.exponent hnil)
      rw [List.append_nil, hf] at hscan
      simp only [fractionChars, List.cons_append] at hscan ⊢
      simp only [hscan, hempty, hexponent]
      cases p.exponent <;> rfl
  | nil =>
      simp only [fractionChars, List.nil_append]
      cases he : p.exponent with
      | none => simp [exponentChars, hempty, Numeral.scanExponent?]
      | some e =>
          rw [he] at hexponent
          simp only [exponentChars] at hexponent ⊢
          simp [hexponent, hempty]

/-! ## Cells -/

/-- A number with a point or an exponent is a float. -/
theorem numberCell?_of_isSome (h : p.WellFormed)
    (hp : p.fraction ≠ [] ∨ p.exponent.isSome) :
    numberCell? (String.ofList p.chars) = (float? p.numeral).map .float := by
  have hwhole : isWhole p.chars = false := by
    have hmem : '.' ∈ p.chars ∨ 'e' ∈ p.chars := by
      rcases hp with hf | he
      · obtain ⟨d, ds, hd⟩ := List.exists_cons_of_ne_nil hf
        exact .inl (by simp [chars, unsigned, hd, fractionChars])
      · obtain ⟨e, he⟩ := Option.isSome_iff_exists.1 he
        exact .inr (by simp [chars, unsigned, he, exponentChars])
    rw [isWhole, List.all_eq_false]
    rcases hmem with hmem | hmem
    · exact ⟨'.', hmem, by decide⟩
    · exact ⟨'e', hmem, by decide⟩
  rw [numberCell?, String.toList_ofList, scan?_chars h, hwhole]
  rfl

/-- A number without them is an integer, if there is one for it. -/
theorem numberCell?_of_int (h : p.WellFormed) (hf : p.fraction = []) (he : p.exponent = none)
    {i : Int64} (hi : int? p.numeral = some i) :
    numberCell? (String.ofList p.chars) = some (.int i) := by
  have hwhole : isWhole p.chars = true := by
    rw [isWhole, List.all_eq_true]
    intro c hc
    rw [chars, unsigned, hf, he] at hc
    have hcases : p.negative = true ∧ c = '-' ∨ c ∈ p.whole := by
      simpa [fractionChars, exponentChars] using hc
    rcases hcases with ⟨_, rfl⟩ | hc
    · rfl
    · simp [h.digits c hc]
  rw [numberCell?, String.toList_ofList, scan?_chars h, hwhole]
  simp only [if_true, hi]

/-! ## Integers -/

/-- The parts of an integer. -/
def ofInt (i : Int) : NumberParts := ⟨decide (i < 0), Nat.toDigits 10 i.natAbs, [], none⟩

theorem wellFormed_ofInt (i : Int) : (ofInt i).WellFormed := by
  refine ⟨fun _ => isDigit_of_mem_toDigits, by simp [ofInt], ?_⟩
  rcases Nat.eq_zero_or_pos i.natAbs with h | h
  · exact .inl (by rw [ofInt, h]; rfl)
  · exact .inr (head_toDigits h)

theorem chars_ofInt (i : Int) : (ofInt i).chars = (toString i).toList := by
  cases i with
  | ofNat n =>
      have hn : ¬ (Int.ofNat n < 0) := Int.not_lt.2 (Int.natCast_nonneg n)
      have hs : (toString (Int.ofNat n)).toList = (toString n).toList := rfl
      rw [hs, Nat.toString_eq_ofList_toDigits, String.toList_ofList]
      simp [chars, unsigned, ofInt, fractionChars, exponentChars]
  | negSucc n =>
      have hs : (toString (Int.negSucc n)) = "-" ++ toString (n + 1) := rfl
      rw [hs, String.toList_append, Nat.toString_eq_ofList_toDigits, String.toList_ofList]
      simp [chars, unsigned, ofInt, fractionChars, exponentChars]

/-- An integer that fits in 64 bits is read back. -/
theorem int?_ofInt (i : Int64) : int? (ofInt i.toInt).numeral = some i := by
  have hsignificand : (ofInt i.toInt).numeral.significand = i.toInt.natAbs := by
    rw [Numeral.significand, numeral, ofInt, List.append_nil, natOfDigits_toDigits]
  have hlow := i.le_toInt
  have hhigh := i.toInt_lt
  have hpow : (Nat.pow 2 63 : Nat) = 9223372036854775808 := rfl
  simp only [int?, hsignificand, hpow]
  simp only [numeral, ofInt, decide_eq_true_eq]
  split
  · rw [if_pos (by omega)]
    have hneg : -(i.toInt.natAbs : Int) = i.toInt := by omega
    rw [hneg, Int64.ofInt_toInt]
  · rw [if_pos (by omega)]
    have hpos : (i.toInt.natAbs : Int) = i.toInt := by omega
    rw [← Int64.ofInt_eq_ofNat, hpos, Int64.ofInt_toInt]

/-- An integer is read back, the smallest and the largest included. -/
theorem numberCell?_toString (i : Int64) :
    numberCell? (toString i.toInt) = some (.int i) ∧
      ReadsBack (.number (toString i.toInt)) := by
  have hchars : toString i.toInt = String.ofList (ofInt i.toInt).chars := by
    rw [chars_ofInt, String.ofList_toList]
  rw [hchars]
  exact ⟨numberCell?_of_int (wellFormed_ofInt _) rfl rfl (int?_ofInt i),
    (wellFormed_ofInt _).readsBack⟩

end NumberParts

end AskTables.Json
