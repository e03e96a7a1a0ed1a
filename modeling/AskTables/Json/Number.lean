import AskTables.Cell
import AskTables.Json.Basic

/-!
# The cell that a JSON number stands for

A number without point and exponent that fits in 64 bits with a sign is an integer, and every other
number is a float.  `-0` is a float, since an integer has no negative zero.

A float is read in one pass.  The leading digits that fit in 64 bits are converted, and the result
is multiplied or divided by a power of ten once.  That rounds twice, so a number with more than
fifteen digits may land one float beside the nearest.  A number too large for a float is refused.
-/

namespace AskTables.Json

open Decimal (Numeral)

/-- Reads on from `n` the digits that keep the number below `2 ^ 64`, and leaves the others. -/
def take64 (n : Nat) : List Char → Nat × List Char
  | [] => (n, [])
  | d :: ds =>
    let next := 10 * n + (d.toNat - '0'.toNat)
    if next < Nat.pow 2 64 then take64 next ds else (n, d :: ds)

/-- The largest power of ten that is scaled by at once. -/
def maxPower : Nat := 308

/-- The power of ten as a float. -/
def powerOfTen (n : Nat) : Float := .ofModel (.ofScientific 1 n)

/-- `x * 10 ^ e` for a positive or zero `x`, refused when it is too large.  Far below one the
scaling is done in steps, of which `steps` are allowed. -/
def scale? : (steps : Nat) → (x : Float) → (e : Int) → Option Float
  | steps, x, e =>
    if e.natAbs ≤ maxPower then
      if 0 ≤ e then
        let y := x * powerOfTen e.natAbs
        if y.isInf then none else some y
      else some (x / powerOfTen e.natAbs)
    else if x == 0.0 then some x
    else if 0 ≤ e then none
    else
      match steps with
      | 0 => some 0.0
      | n + 1 => scale? n (x / powerOfTen maxPower) (e + maxPower)

/-- Three steps take the largest number of 64 bits below the smallest float. -/
def maxSteps : Nat := 3

/-- The float of a numeral, or nothing if it is too large. -/
def float? (n : Numeral) : Option Float :=
  let (m₁, left) := take64 0 n.whole
  let (m₂, unread) := take64 m₁ n.fraction
  let e : Int := n.exponent + left.length - (n.fraction.length - unread.length : Nat)
  (scale? maxSteps (UInt64.ofNat m₂).toFloat e).map fun x => if n.negative then -x else x

/-- The integer of a numeral, if it has one of 64 bits with a sign and is no negative zero. -/
def int? (n : Numeral) : Option Int64 :=
  let m := n.significand
  if n.negative then
    if 0 < m ∧ m ≤ Nat.pow 2 63 then some (Int64.ofInt (-(m : Int))) else none
  else if m < Nat.pow 2 63 then some (Int64.ofNat m)
  else none

/-- Whether the characters of a number have neither point nor exponent. -/
def isWhole (digits : List Char) : Bool := digits.all fun c => c.isDigit || c == '-'

/-- The cell of a number. -/
def numberCell? (digits : String) : Option Cell :=
  match Numeral.scan? digits.toList with
  | some (n, []) =>
    match if isWhole digits.toList then int? n else none with
    | some i => some (.int i)
    | none => (float? n).map .float
  | _ => none

/-- The cell that a JSON value stands for, if it stands for one. -/
def toCell? : Json → Option Cell
  | .null => some .null
  | .number digits => numberCell? digits
  | .text (some s) => some (.text s)
  | _ => none

end AskTables.Json
