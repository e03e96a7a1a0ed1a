import AskTables.Decimal.Shortest

/-!
# The text of a float

A `Layout` holds the decisions of a format for floats: which exponents are written in positional
notation, whether a whole number gets a fraction, how a tie between shortest digits goes, and the
texts of the values that are no finite number.  `Layout.render` writes a float by a layout.

Two layouts are used.  `plain` is the display of a cell.  `compact` is a number of a JSON text.
-/

namespace AskTables.Decimal

/-- The decisions of a format for floats. -/
structure Layout where
  /-- Which of two equally near shortest decimals is written. -/
  tie : Tie
  /-- Whether a number whose first digit counts `10 ^ e` is written without an exponent. -/
  isPositional : Int → Bool
  /-- What follows the digits of a whole number. -/
  wholeSuffix : List Char
  /-- What is written where there is no number. -/
  nan : List Char
  /-- What is written for an infinity, by whether it is negative. -/
  infinity : Bool → List Char

namespace Layout

/-- The digits of a natural number. -/
def digitsOf (n : Nat) : List Char := Nat.toDigits 10 n

/-- Digits with the point at its place: `point` digits stand before it. -/
def positional (layout : Layout) (ds : List Char) (point : Int) : List Char :=
  if point ≤ 0 then '0' :: '.' :: (List.replicate (-point).toNat '0' ++ ds)
  else if (ds.length : Int) ≤ point then
    ds ++ List.replicate (point.toNat - ds.length) '0' ++ layout.wholeSuffix
  else ds.take point.toNat ++ '.' :: ds.drop point.toNat

/-- Digits with the point after the first and an exponent with its sign. -/
def scientific (ds : List Char) (e : Int) : List Char :=
  let mantissa :=
    match ds with
    | d :: e :: rest => d :: '.' :: e :: rest
    | _ => ds
  mantissa ++ 'e' :: (if e < 0 then '-' else '+') :: digitsOf e.natAbs

/-- A decimal by a layout. -/
def renderScaled (layout : Layout) (d : Scaled) : List Char :=
  let ds := digitsOf d.digits
  let point := (ds.length : Int) + d.exponent
  if layout.isPositional (point - 1) then layout.positional ds point
  else scientific ds (point - 1)

/-- The text of a float. -/
def render (layout : Layout) (x : Float) : List Char :=
  match x.toModel.unpack with
  | .notANumber => layout.nan
  | .infinity sign => layout.infinity (sign matches .negative)
  | .zero sign =>
    (if sign matches .negative then ['-'] else []) ++ '0' :: layout.wholeSuffix
  | .finite sign m q _ =>
    if sign matches .negative then
      '-' :: layout.renderScaled (shortest layout.tie (-x) m q)
    else layout.renderScaled (shortest layout.tie x m q)

end Layout

/-- The display of a float: never an exponent, and no fraction on a whole number. -/
def plain : Layout where
  tie := .up
  isPositional := fun _ => true
  wholeSuffix := []
  nan := ['N', 'a', 'N']
  infinity := fun negative => if negative then ['-', 'i', 'n', 'f'] else ['i', 'n', 'f']

/-- A float in a JSON text: an exponent outside `10 ^ -5` to `10 ^ 15`, a fraction on every whole
number, and `null` for what JSON has no number for. -/
def compact : Layout where
  tie := .toEven
  isPositional := fun e => decide (-5 ≤ e) && decide (e ≤ 15)
  wholeSuffix := ['.', '0']
  nan := ['n', 'u', 'l', 'l']
  infinity := fun _ => ['n', 'u', 'l', 'l']

/-- The display of a float. -/
def display (x : Float) : String := String.ofList (plain.render x)

end AskTables.Decimal
