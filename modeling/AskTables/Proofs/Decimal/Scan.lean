import AskTables.Cell
import AskTables.Proofs.Binary.Order
import AskTables.Proofs.Json.Number
import AskTables.Proofs.Text.Respaced

/-!
# Numerals in a text

`Numeral.Writes s n` says that the text `s` writes the numeral `n`, part by part: a sign, digits
with a point, an exponent.  Scanning a text that writes a numeral gives this numeral
(`scan?_of_writes`), and blanks behind a text play no part in it (`scan?_append_blanks`).

A text is read as a number in two ways.  `readFloat?` wants all of it to be a number, and
`leadingFloat?` takes what stands in front.  They agree wherever both find a number
(`readFloat?_eq_of_leadingFloat?`), and on a numeral both do.
-/

namespace AskTables.Decimal

open Json (EndsNumber continuesNumber)
open Json.NumberParts (EndsDigits endsDigits_of_endsNumber scanDigits_append)
open Text (isBlank trimStart trimChars)

namespace Numeral

/-! ## Written numerals -/

/-- Nothing, a plus sign or a minus sign, and whether it is a minus. -/
inductive WritesSign : List Char → Bool → Prop where
  | none : WritesSign [] false
  | plus : WritesSign ['+'] false
  | minus : WritesSign ['-'] true

/-- Digits with an optional point, and the digits before and after it.  One of the two sides may be
empty. -/
inductive WritesDigits : List Char → List Char → List Char → Prop where
  | whole {ds : List Char} (hne : ds ≠ []) (hds : ∀ c ∈ ds, c.isDigit) : WritesDigits ds ds []
  | point {ds fs : List Char} (hne : ds ≠ []) (hds : ∀ c ∈ ds, c.isDigit)
      (hfs : ∀ c ∈ fs, c.isDigit) : WritesDigits (ds ++ '.' :: fs) ds fs
  | fraction {fs : List Char} (hne : fs ≠ []) (hfs : ∀ c ∈ fs, c.isDigit) :
      WritesDigits ('.' :: fs) [] fs

/-- Nothing, or a mark, a sign and digits, and the exponent they stand for. -/
inductive WritesExponent : List Char → Int → Prop where
  | none : WritesExponent [] 0
  | some {mark : Char} {sign ds : List Char} {negative : Bool} (hmark : mark = 'e' ∨ mark = 'E')
      (hsign : WritesSign sign negative) (hne : ds ≠ []) (hds : ∀ c ∈ ds, c.isDigit) :
      WritesExponent (mark :: (sign ++ ds))
        (if negative then -(natOfDigits ds : Int) else natOfDigits ds)

/-- A text is a numeral: a sign, digits with a point, and an exponent. -/
inductive Writes : List Char → Numeral → Prop where
  | parts {sign digits power whole fraction : List Char} {negative : Bool} {exponent : Int}
      (hsign : WritesSign sign negative) (hdigits : WritesDigits digits whole fraction)
      (hpower : WritesExponent power exponent) :
      Writes (sign ++ (digits ++ power)) ⟨negative, whole, fraction, exponent⟩

variable {s b : List Char}

/-! ## Scanning what is written -/

/-- A text that does not begin with a sign. -/
def LacksSign (s : List Char) : Prop := ∀ c ∈ s.head?, c ≠ '+' ∧ c ≠ '-'

theorem scanSign_of_lacksSign (h : LacksSign s) : scanSign s = (false, s) := by
  unfold scanSign
  split
  · exact absurd rfl (h '+' rfl).1
  · exact absurd rfl (h '-' rfl).2
  · rfl

/-- A sign before a text without one is taken off. -/
theorem scanSign_of_writesSign {sign : List Char} {negative : Bool}
    (h : WritesSign sign negative) (hs : LacksSign s) : scanSign (sign ++ s) = (negative, s) := by
  cases h with
  | none => exact scanSign_of_lacksSign hs
  | plus => rfl
  | minus => rfl

theorem ne_sign_of_isDigit {c : Char} (h : c.isDigit) : c ≠ '+' ∧ c ≠ '-' := by
  constructor
  · rintro rfl
    cases h
  · rintro rfl
    cases h

theorem lacksSign_of_digits {ds : List Char} (hne : ds ≠ []) (hds : ∀ c ∈ ds, c.isDigit) :
    LacksSign (ds ++ s) := by
  obtain ⟨d, ds, rfl⟩ := List.exists_cons_of_ne_nil hne
  intro c hc
  cases hc
  exact ne_sign_of_isDigit (hds d (by simp))

/-- An exponent is scanned to its end. -/
theorem scanExponent?_of_writes {power : List Char} {exponent : Int}
    (h : WritesExponent power exponent) :
    power = [] ∧ exponent = 0 ∨ scanExponent? power = some (exponent, []) := by
  cases h with
  | none => exact .inl ⟨rfl, rfl⟩
  | some hmark hsign hne hds =>
      rename_i ds negative
      refine .inr ?_
      have hlacks := @lacksSign_of_digits [] ds hne hds
      rw [List.append_nil] at hlacks
      have hdigits := @scanDigits_append [] ds hds (by intro c hc; cases hc)
      rw [List.append_nil] at hdigits
      obtain ⟨d, ds, rfl⟩ := List.exists_cons_of_ne_nil hne
      rw [scanExponent?, if_pos hmark]
      simp only [scanSign_of_writesSign hsign hlacks, hdigits]

/-- An exponent does not begin with a digit. -/
theorem endsDigits_of_writesExponent {power : List Char} {exponent : Int}
    (h : WritesExponent power exponent) : EndsDigits power := by
  intro c hc
  cases h with
  | none => cases hc
  | some hmark =>
      cases hc
      rcases hmark with rfl | rfl <;> rfl

/-- The digits behind a point at the front of a text, and the text after them. -/
def scanFraction (s : List Char) : List Char × List Char :=
  match s with
  | '.' :: rest => scanDigits rest
  | _ => ([], s)

/-- The numeral that some digits and the exponent in the text behind them make. -/
def withExponent (negative : Bool) (whole fraction s : List Char) :
    Option (Numeral × List Char) :=
  if whole.isEmpty && fraction.isEmpty then none
  else
    match scanExponent? s with
    | some (exponent, rest) => some (⟨negative, whole, fraction, exponent⟩, rest)
    | none => some (⟨negative, whole, fraction, 0⟩, s)

theorem scan?_eq_withExponent (s : List Char) : scan? s =
    withExponent (scanSign s).1 (scanDigits (scanSign s).2).1
      (scanFraction (scanDigits (scanSign s).2).2).1
      (scanFraction (scanDigits (scanSign s).2).2).2 := rfl

/-- A text that does not begin with a point. -/
def LacksPoint (s : List Char) : Prop := ∀ c ∈ s.head?, c ≠ '.'

theorem scanFraction_of_lacksPoint (h : LacksPoint s) : scanFraction s = ([], s) := by
  unfold scanFraction
  split
  · exact absurd rfl (h '.' rfl)
  · rfl

/-- Digits and an exponent make a numeral. -/
theorem withExponent_of_writes {whole fraction power : List Char} {exponent : Int}
    (hne : whole ≠ [] ∨ fraction ≠ []) (h : WritesExponent power exponent) (negative : Bool) :
    withExponent negative whole fraction power =
      some (⟨negative, whole, fraction, exponent⟩, []) := by
  have hempty : ¬ (whole.isEmpty && fraction.isEmpty) = true := by
    simpa [← not_and_or] using hne
  rw [withExponent, if_neg hempty]
  rcases scanExponent?_of_writes h with ⟨rfl, rfl⟩ | h
  · rfl
  · rw [h]

/-- Scanning a numeral finds it. -/
theorem scan?_of_writes {n : Numeral} (h : Writes s n) : scan? s = some (n, []) := by
  cases h with
  | @parts _ _ power whole fraction _ _ hsign hdigits hpower =>
      have hends := endsDigits_of_writesExponent hpower
      rw [scan?_eq_withExponent]
      cases hdigits with
      | whole hne hds =>
          have hpoint : LacksPoint power := by
            intro c hc
            cases hpower with
            | none => cases hc
            | some hmark =>
                cases hc
                rcases hmark with rfl | rfl <;> decide
          rw [scanSign_of_writesSign hsign (lacksSign_of_digits hne hds),
            scanDigits_append hds hends, scanFraction_of_lacksPoint hpoint]
          exact withExponent_of_writes (.inl hne) hpower _
      | point hne hds hfs =>
          have hpoint : EndsDigits ('.' :: (fraction ++ power)) := by
            intro c hc
            cases hc
            rfl
          rw [List.append_assoc, List.cons_append,
            scanSign_of_writesSign hsign (lacksSign_of_digits hne hds),
            scanDigits_append hds hpoint, scanFraction, scanDigits_append hfs hends]
          exact withExponent_of_writes (.inl hne) hpower _
      | fraction hne hfs =>
          have hlacks : LacksSign ('.' :: (fraction ++ power)) := by
            intro c hc
            cases hc
            decide
          have hwhole : scanDigits ('.' :: (fraction ++ power)) =
              ([], '.' :: (fraction ++ power)) := rfl
          rw [List.cons_append, scanSign_of_writesSign hsign hlacks, hwhole, scanFraction,
            scanDigits_append hfs hends]
          exact withExponent_of_writes (.inr hne) hpower _

/-! ## What stands behind a numeral -/

/-- A text that nothing in front of it goes on into as a numeral: it begins with no sign and with
nothing that may follow a digit. -/
structure Closes (b : List Char) : Prop where
  sign : LacksSign b
  number : EndsNumber b

/-- No numeral goes on with a blank. -/
theorem closes_of_blank (h : ∀ c ∈ b.head?, isBlank c) : Closes b := by
  constructor
  · intro c hc
    have hblank := h c hc
    constructor
    · rintro rfl
      exact absurd hblank (by decide)
    · rintro rfl
      exact absurd hblank (by decide)
  · intro c hc
    have hblank := h c hc
    rw [Bool.eq_false_iff]
    intro hcont
    have hcases : c.isDigit ∨ c = '.' ∨ c = 'e' ∨ c = 'E' := by
      simpa [continuesNumber, or_assoc] using hcont
    rcases hcases with hdigit | rfl | rfl | rfl
    · have hword : Grammar.isWordChar c := by simp [Grammar.isWordChar, Char.isAlphanum, hdigit]
      rw [Grammar.isBlank_of_isWordChar hword] at hblank
      cases hblank
    all_goals exact absurd hblank (by decide)

/-- A text that closes a numeral is left behind by the sign. -/
theorem scanSign_append (hb : Closes b) (s : List Char) :
    scanSign (s ++ b) = ((scanSign s).1, (scanSign s).2 ++ b) := by
  cases s with
  | nil => exact scanSign_of_lacksSign hb.sign
  | cons c s =>
      by_cases hplus : c = '+'
      · subst hplus
        rfl
      · by_cases hminus : c = '-'
        · subst hminus
          rfl
        · have hlacks (u : List Char) : LacksSign (c :: u) := by
            intro d hd
            cases hd
            exact ⟨hplus, hminus⟩
          rw [scanSign_of_lacksSign (hlacks s), List.cons_append, scanSign_of_lacksSign (hlacks _)]

theorem scanDigits_append_closes (hb : Closes b) (s : List Char) :
    scanDigits (s ++ b) = ((scanDigits s).1, (scanDigits s).2 ++ b) := by
  induction s with
  | nil =>
      have hnone : ∀ c ∈ ([] : List Char), c.isDigit := by simp
      exact scanDigits_append hnone (endsDigits_of_endsNumber hb.number)
  | cons d s ih =>
      simp only [scanDigits, Prod.mk.injEq] at ih ⊢
      by_cases hd : d.isDigit
      · simp [hd, ih]
      · simp [hd]

theorem scanExponent?_append (hb : Closes b) (s : List Char) :
    scanExponent? (s ++ b) = (scanExponent? s).map fun r => (r.1, r.2 ++ b) := by
  cases s with
  | nil =>
      cases b with
      | nil => rfl
      | cons c b =>
          have hc := hb.number c rfl
          simp only [continuesNumber, Bool.or_eq_false_iff, beq_eq_false_iff_ne] at hc
          simp [scanExponent?, hc.1.2, hc.2]
  | cons mark s =>
      rw [List.cons_append, scanExponent?, scanExponent?]
      split
      · simp only [scanSign_append hb, scanDigits_append_closes hb]
        cases scanDigits (scanSign s).2 with
        | mk ds left => cases ds <;> rfl
      · rfl

theorem scanFraction_append (hb : Closes b) (s : List Char) :
    scanFraction (s ++ b) = ((scanFraction s).1, (scanFraction s).2 ++ b) := by
  cases s with
  | nil =>
      refine scanFraction_of_lacksPoint fun c hc => ?_
      have hcont := hb.number c hc
      simp only [continuesNumber, Bool.or_eq_false_iff, beq_eq_false_iff_ne] at hcont
      exact hcont.1.1.2
  | cons d s =>
      by_cases hd : d = '.'
      · subst hd
        exact scanDigits_append_closes hb s
      · have hlacks (u : List Char) : LacksPoint (d :: u) := by
          intro c hc
          cases hc
          exact hd
        rw [List.cons_append, scanFraction_of_lacksPoint (hlacks _),
          scanFraction_of_lacksPoint (hlacks _), List.cons_append]

theorem withExponent_append (hb : Closes b) (negative : Bool) (whole fraction s : List Char) :
    withExponent negative whole fraction (s ++ b) =
      (withExponent negative whole fraction s).map fun r => (r.1, r.2 ++ b) := by
  rw [withExponent, withExponent, scanExponent?_append hb]
  split
  · rfl
  · cases scanExponent? s <;> rfl

/-- What closes a text is left behind. -/
theorem scan?_append (hb : Closes b) (s : List Char) :
    scan? (s ++ b) = (scan? s).map fun r => (r.1, r.2 ++ b) := by
  rw [scan?_eq_withExponent, scanSign_append hb, scanDigits_append_closes hb,
    scanFraction_append hb, withExponent_append hb, ← scan?_eq_withExponent]

end Numeral

/-! ## Two ways to read a number -/

/-- The number in front of a text stands in what trimming leaves of it. -/
theorem leadingFloat?_eq_trimChars (s : List Char) :
    leadingFloat? s = (Numeral.scan? (trimChars s)).map fun r => r.1.toFloat := by
  obtain ⟨r, hr, hend⟩ := Text.exists_blanks_trimEnd (trimStart s)
  have hclose : Numeral.Closes r :=
    Numeral.closes_of_blank fun c hc => hr c (List.mem_of_mem_head? hc)
  rw [leadingFloat?, hend, Numeral.scan?_append hclose, Option.map_map, ← trimChars]
  rfl

/-- A text that is a number as a whole has no other number in front. -/
theorem readFloat?_eq_of_leadingFloat? {s : List Char} {x y : Float}
    (hx : readFloat? (trimChars s) = some x) (hy : leadingFloat? s = some y) : x = y := by
  rw [leadingFloat?_eq_trimChars] at hy
  obtain ⟨⟨n, rest⟩, hscan, rfl⟩ := Option.map_eq_some_iff.1 hy
  rw [readFloat?, hscan] at hx
  cases rest with
  | nil => exact (Option.some.inj hx).symm
  | cons c rest => cases hx

/-- A text that is a numeral is read as its float. -/
theorem readFloat?_of_writes {s : List Char} {n : Numeral} (h : Numeral.Writes s n) :
    readFloat? s = some n.toFloat := by
  rw [readFloat?, Numeral.scan?_of_writes h]

theorem leadingFloat?_of_writes {s : List Char} {n : Numeral}
    (h : Numeral.Writes (trimChars s) n) : leadingFloat? s = some n.toFloat := by
  rw [leadingFloat?_eq_trimChars, Numeral.scan?_of_writes h, Option.map_some]

/-! ## The value of a numeral -/

/-- A numeral stands for a number, however long its digits and however large its exponent. -/
theorem Numeral.isNaN_toFloat (n : Numeral) : n.toFloat.isNaN = false := by
  have hmagnitude : (Float.ofModel (.ofScientific n.significand n.scale)).isNaN = false :=
    Binary.isNaN_pack (Binary.isNaN_ofScientific _ _)
  rw [Numeral.toFloat]
  split
  · rw [Binary.isNaN_neg, hmagnitude]
  · exact hmagnitude

end AskTables.Decimal
