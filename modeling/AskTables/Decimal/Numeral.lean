/-!
# Decimal numerals

A *numeral* is a sign, digits with an optional point among or around them, and an optional exponent:
`[+-]? (d+ (. d*)? | . d+) ([eE] [+-]? d+)?` with ASCII digits.  `Numeral.scan?` takes the longest
numeral off the front of a text, so a point or an exponent mark that no digit makes part of the
numeral is left behind.

The value of a numeral is a float, rounded to nearest with ties to even.
-/

namespace AskTables.Decimal

/-- The number that some digits write. -/
def natOfDigits (ds : List Char) : Nat := ds.foldl (fun n d => 10 * n + (d.toNat - '0'.toNat)) 0

/-- A decimal numeral in its parts. -/
structure Numeral where
  /-- Whether a minus sign stands in front. -/
  negative : Bool
  /-- The digits before the point. -/
  whole : List Char
  /-- The digits after the point. -/
  fraction : List Char
  /-- The exponent of ten. -/
  exponent : Int
deriving DecidableEq, Inhabited

namespace Numeral

/-- All digits of a numeral read as one number. -/
def significand (n : Numeral) : Nat := natOfDigits (n.whole ++ n.fraction)

/-- The power of ten that the significand is multiplied by. -/
def scale (n : Numeral) : Int := n.exponent - n.fraction.length

/-- The float nearest to the numeral. -/
def toFloat (n : Numeral) : Float :=
  let magnitude := Float.ofModel (Float.Model.ofScientific n.significand n.scale)
  if n.negative then -magnitude else magnitude

/-! ## Scanning -/

/-- An optional sign: whether it is a minus, and the text after it. -/
def scanSign : List Char → Bool × List Char
  | '+' :: rest => (false, rest)
  | '-' :: rest => (true, rest)
  | s => (false, s)

/-- The digits at the front of a text, and the text after them. -/
def scanDigits (s : List Char) : List Char × List Char :=
  (s.takeWhile Char.isDigit, s.dropWhile Char.isDigit)

/-- An exponent, if a mark, an optional sign and at least one digit stand in front. -/
def scanExponent? : List Char → Option (Int × List Char)
  | [] => none
  | mark :: rest =>
    if mark = 'e' ∨ mark = 'E' then
      let (negative, after) := scanSign rest
      match scanDigits after with
      | ([], _) => none
      | (ds, left) => some (if negative then -(natOfDigits ds : Int) else natOfDigits ds, left)
    else none

/-- The longest numeral at the front of a text, and the text after it. -/
def scan? (s : List Char) : Option (Numeral × List Char) :=
  let (negative, s₁) := scanSign s
  let (whole, s₂) := scanDigits s₁
  let (fraction, s₃) :=
    match s₂ with
    | '.' :: rest => scanDigits rest
    | _ => ([], s₂)
  if whole.isEmpty && fraction.isEmpty then none
  else
    match scanExponent? s₃ with
    | some (exponent, rest) => some (⟨negative, whole, fraction, exponent⟩, rest)
    | none => some (⟨negative, whole, fraction, 0⟩, s₃)

end Numeral

/-! ## Whole texts -/

/-- The words that stand for a float without a numeral. -/
def namedFloat? (word : List Char) : Option Float :=
  match String.ofList (word.map Char.toLower) with
  | "inf" | "infinity" => some (1.0 / 0.0)
  | "nan" => some (0.0 / 0.0)
  | _ => none

/-- The float that a whole text writes: a numeral, or `inf`, `infinity` or `nan` in any ASCII case,
with an optional sign. -/
def readFloat? (s : List Char) : Option Float :=
  match Numeral.scan? s with
  | some (n, []) => some n.toFloat
  | some (_, _ :: _) => none
  | none =>
    let (negative, word) := Numeral.scanSign s
    (namedFloat? word).map fun x => if negative then -x else x

end AskTables.Decimal
