import AskTables.Row

/-!
# Projecting

A selection with an aggregate turns all rows into one row with one column: the first `AVG`, or else
the first `SUM`, or else the first `COUNT`.  A star keeps the rows as they are.  Otherwise each row
keeps the selected columns that it has, by their bare names.

A sum adds from left to right and starts from negative zero, the neutral element of float addition.
A cell that reads as no number counts as zero.
-/

namespace AskTables

namespace Aggregate

/-- What an aggregate adds for one row. -/
def term (arg : AggregateArg) (row : Row) : Float :=
  match arg with
  | .wildcard => 0.0
  | .column c =>
    match (row.resolve? c).bind Cell.number? with
    | some x => if x.isNaN then 0.0 else x
    | none => 0.0

/-- The sum of an aggregate over some rows. -/
def total (arg : AggregateArg) (rows : List Row) : Float :=
  rows.foldl (fun sum row => sum + term arg row) (-0.0)

/-- The value of an aggregate over some rows. -/
def value (a : Aggregate) (rows : List Row) : Cell :=
  match a.fn with
  | .count => .int (Int64.ofNat rows.length)
  | .sum => .float (total a.arg rows)
  | .avg => .float (total a.arg rows / (UInt64.ofNat rows.length).toFloat)

end Aggregate

namespace Selection

/-- The aggregate that decides the result, if the selection has one. -/
def aggregate? (s : Selection) : Option Aggregate :=
  [AggregateFn.avg, .sum, .count].findSome? s.aggregateOf?

/-- The columns of a row that a list of columns selects. -/
def pick (columns : List Column) (row : Row) : Row :=
  columns.foldl
    (fun out c =>
      match row.resolve? c with
      | some cell => out.insert c.name cell
      | none => out)
    .empty

/-- The rows that a selection makes of some rows. -/
def rows (s : Selection) (rows : List Row) : List Row :=
  match s with
  | .wildcard => rows
  | .items _ =>
    match s.aggregate? with
    | some a => [.ofList [(a.aliasName, a.value rows)]]
    | none => rows.map (pick s.columns)

end Selection

end AskTables
