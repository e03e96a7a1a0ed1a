import AskTables.Decimal.Layout
import AskTables.Json.Basic
import AskTables.Text.Blank

/-!
# Cells

A *cell* holds nothing, a 64-bit integer, a float or a text.  Dates are texts.

A cell can be read as a number, tested against a literal of a statement, tested for being truthy,
ordered against another cell and displayed.  A text reads as the number in front of it, so
`"2024-01-15"` reads as 2024.
-/

namespace AskTables

/-- One value of a row. -/
inductive Cell where
  | null
  | int (value : Int64)
  | float (value : Float)
  | text (value : String)
deriving DecidableEq, Inhabited

/-- The number in front of a text, after any blanks. -/
def Decimal.leadingFloat? (s : List Char) : Option Float :=
  (Numeral.scan? (Text.trimStart s)).map fun r => r.1.toFloat

namespace Cell

/-- The float nearest to an integer, ties to even. -/
def nearestFloat (i : Int64) : Float := .ofModel (.ofInt64 i)

/-- The cell read as a number. -/
def number? : Cell → Option Float
  | .null => none
  | .int i => some (nearestFloat i)
  | .float x => some x
  | .text s => Decimal.leadingFloat? s.toList

/-- The number that a literal stands for against a numeric cell: the whole literal without its outer
blanks.  An empty literal is zero. -/
def literalNumber? (literal : String) : Option Float :=
  match Text.trimChars literal.toList with
  | [] => some 0.0
  | s => Decimal.readFloat? s

/-- Whether a cell equals a literal.  Numbers compare by value and texts by their characters, and an
empty cell equals nothing. -/
def equalsLiteral (cell : Cell) (literal : String) : Bool :=
  match cell with
  | .null => false
  | .text s => s = literal
  | .int _ | .float _ =>
    match cell.number?, literalNumber? literal with
    | some x, some y => x == y
    | _, _ => false

/-- Whether a cell holds more than nothing, zero, NaN or the empty text. -/
def isTruthy : Cell → Bool
  | .null => false
  | .int i => i ≠ 0
  | .float x => !(x == 0.0) && !x.isNaN
  | .text s => s ≠ ""

/-- The place of a kind of cell in the order: nothing, numbers, texts. -/
def rank : Cell → Nat
  | .null => 0
  | .int _ | .float _ => 1
  | .text _ => 2

/-- Compares two floats.  NaN counts as equal to everything. -/
def compareFloats (x y : Float) : Ordering :=
  if x < y then .lt else if y < x then .gt else .eq

/-- The order of cells that rows are sorted by: nothing before numbers before texts.  Two integers
compare exactly, other numbers as floats, texts by code point. -/
def compare : Cell → Cell → Ordering
  | .int a, .int b => Ord.compare a.toInt b.toInt
  | .text a, .text b => Ord.compare a b
  | .int a, .float y => compareFloats (nearestFloat a) y
  | .float x, .int b => compareFloats x (nearestFloat b)
  | .float x, .float y => compareFloats x y
  | a, b => Ord.compare a.rank b.rank

/-- The text of a cell. -/
def display : Cell → String
  | .null => ""
  | .int i => toString i.toInt
  | .float x => Decimal.display x
  | .text s => s

/-- The cell as a JSON value. -/
def toJson : Cell → Json
  | .null => .null
  | .int i => .number (toString i.toInt)
  | .float x =>
    if x.isFinite then .number (String.ofList (Decimal.compact.render x)) else .null
  | .text s => .ofString s

end Cell

end AskTables
