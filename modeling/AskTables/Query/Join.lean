import AskTables.Row

/-!
# Joining

A join puts each row of the base table together with the rows of the joined table whose key is equal
to its own.  The columns of the joined row win.  A base row without a partner, or without its key,
is kept by a left join and dropped by an inner one.
-/

namespace AskTables

/-- Whether two cells are equal as keys.  Nothing equals nothing, texts compare by their characters,
numbers as floats, and a number equals a text that writes it. -/
def Cell.equalsKey : Cell → Cell → Bool
  | .null, _ => false
  | _, .null => false
  | .text a, .text b => a = b
  | .text a, n => n.equalsLiteral a
  | n, .text b => n.equalsLiteral b
  | x, y =>
    match x.number?, y.number? with
    | some a, some b => a == b
    | _, _ => false

namespace JoinClause

/-- The key read from the base rows and the key read from the joined rows.  The two sides of `ON`
change places when the left one is qualified by the joined table and the right one by the base
table. -/
def keys (j : JoinClause) (base : String) : Column × Column :=
  if j.left.table = some j.table.binding ∧ j.right.table = some base then (j.right, j.left)
  else (j.left, j.right)

/-- Whether a joined row has the key that is looked for. -/
def isPartner (key : Cell) (column : Column) (row : Row) : Bool :=
  match row.resolve? column with
  | some cell => key.equalsKey cell
  | none => false

/-- The joined rows whose key equals the key of a base row. -/
def partners (keys : Column × Column) (row : Row) (joined : List Row) : List Row :=
  match row.resolve? keys.1 with
  | some key => joined.filter (isPartner key keys.2)
  | none => []

/-- The rows that one base row makes. -/
def expand (kind : JoinKind) (keys : Column × Column) (joined : List Row) (row : Row) : List Row :=
  match partners keys row joined with
  | [] => if kind = .left then [row] else []
  | found => found.map row.merge

/-- The join of two lists of rows, with the base table bound to `base`. -/
def rows (j : JoinClause) (base : String) (left right : List Row) : List Row :=
  left.flatMap (expand j.kind (j.keys base) right)

end JoinClause

end AskTables
