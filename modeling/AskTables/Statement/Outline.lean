import AskTables.Statement.Basic
import AskTables.Text.Quoted

/-!
# Outlines of statements

An *outline* shows the whole structure of a statement on one line, with every part by its name.  Log
lines use it.
-/

namespace AskTables.Outline

/-- A named structure with its parts in braces. -/
def record (name : String) (parts : List (String × String)) : String :=
  name ++ " \x7b " ++ ", ".intercalate (parts.map fun p => p.1 ++ ": " ++ p.2) ++ " \x7d"

/-- A name applied to one part. -/
def wrap (name part : String) : String := name ++ "(" ++ part ++ ")"

/-- Parts in brackets. -/
def list (parts : List String) : String := "[" ++ ", ".intercalate parts ++ "]"

/-- A text that may be missing. -/
def optional : Option String → String
  | some s => wrap "Some" (Text.quote s)
  | none => "None"

/-- A column. -/
def column (c : Column) : String :=
  record "ColumnRef" [("table", optional c.table), ("column", Text.quote c.name)]

/-- A table. -/
def table (t : TableRef) : String :=
  record "TableRef" [("name", Text.quote t.name), ("alias", optional t.aliasName)]

/-- An aggregate function. -/
def aggregateFn : AggregateFn → String
  | .avg => "Avg"
  | .sum => "Sum"
  | .count => "Count"

/-- The argument of an aggregate. -/
def aggregateArg : AggregateArg → String
  | .wildcard => "Wildcard"
  | .column c => record "Column" [("col", column c)]

/-- An aggregate. -/
def aggregate (a : Aggregate) : String :=
  record "Aggregate" [("func", aggregateFn a.fn), ("arg", aggregateArg a.arg),
    ("alias", Text.quote a.aliasName)]

/-- A selected item. -/
def item : SelectItem → String
  | .aggregate a => wrap "Aggregate" (aggregate a)
  | .column c => wrap "Column" (column c)

/-- A selection. -/
def selection : Selection → String
  | .wildcard => "Wildcard"
  | .items items => record "Items" [("items", list (items.map item))]

/-- A kind of join. -/
def joinKind : JoinKind → String
  | .left => "Left"
  | .inner => "Inner"

/-- A comparison. -/
def compareOp : CompareOp → String
  | .eq => "Eq"
  | .gt => "Gt"
  | .lt => "Lt"
  | .like => "Like"

/-- A join. -/
def join (j : JoinClause) : String :=
  record "JoinClause" [("kind", joinKind j.kind), ("table", table j.table), ("left", column j.left),
    ("right", column j.right)]

/-- A condition. -/
def condition (c : Condition) : String :=
  record "Condition" [("column", column c.column), ("op", compareOp c.op),
    ("value", Text.quote c.value)]

/-- A truth value. -/
def truth (b : Bool) : String := if b then "true" else "false"

/-- A sort key. -/
def sortKey (k : SortKey) : String :=
  record "SortKey" [("column", column k.column), ("desc", truth k.desc)]

/-- A clause. -/
def clause : Clause → String
  | .join j => wrap "Join" (join j)
  | .filter c => wrap "Where" (condition c)
  | .groupBy keys => wrap "GroupBy" (list (keys.map column))
  | .orderBy k => wrap "OrderBy" (sortKey k)

/-- A statement. -/
def statement (s : Statement) : String :=
  record "ParsedStatement" [("select", selection s.select), ("table", table s.table),
    ("clauses", list (s.clauses.map clause))]

end AskTables.Outline
