import AskTables.Row
import AskTables.Text.Lowercase.Basic
import AskTables.Text.Search

/-!
# Conditions

Whether a row meets a condition.  A row without the column meets none.

`=` follows `Cell.equalsLiteral`.  `>` and `<` compare the cell and the literal as numbers, each
read from the front.  `LIKE` looks for the literal, without its percent signs and quotes, inside the
text of a truthy cell, with both in lower case.
-/

namespace AskTables

/-- The text that `LIKE` looks for. -/
def likeNeedle (literal : String) : List Char :=
  Text.lowercase (literal.toList.filter fun c => c != '%' && c != '\'')

namespace Cell

/-- Whether the text of a cell contains what a `LIKE` literal looks for. -/
def isLike (cell : Cell) (literal : String) : Bool :=
  cell.isTruthy && Text.occursIn (likeNeedle literal) (Text.lowercase cell.display.toList)

/-- Whether both a cell and a literal read as numbers that are related. -/
def comparesTo (cell : Cell) (literal : String) (related : Float → Float → Bool) : Bool :=
  match cell.number?, Decimal.leadingFloat? literal.toList with
  | some x, some y => related x y
  | _, _ => false

end Cell

namespace Condition

/-- Whether a cell meets a condition. -/
def admitsCell (c : Condition) (cell : Cell) : Bool :=
  match c.op with
  | .eq => cell.equalsLiteral c.value
  | .gt => cell.comparesTo c.value fun x y => decide (y < x)
  | .lt => cell.comparesTo c.value fun x y => decide (x < y)
  | .like => cell.isLike c.value

/-- Whether a row meets a condition. -/
def admits (c : Condition) (row : Row) : Bool :=
  match row.resolve? c.column with
  | some cell => c.admitsCell cell
  | none => false

/-- The rows that meet a condition. -/
def rows (c : Condition) (rows : List Row) : List Row := rows.filter c.admits

end Condition

end AskTables
