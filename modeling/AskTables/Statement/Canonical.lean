import AskTables.Digest.Sha256
import AskTables.Json.Basic
import AskTables.Statement.Basic

/-!
# The canonical form of a statement

Each statement is written as one JSON value with its members in a fixed order.  A missing qualifier,
a missing table alias and an empty list of clauses are left out.  The *fingerprint* of a statement
is the SHA-256 digest of that text.
-/

namespace AskTables

/-- A column as a JSON value. -/
def Column.toJson (c : Column) : Json :=
  .ofMembers ((c.table.map fun t => ("table", Json.ofString t)).toList ++
    [("column", .ofString c.name)])

/-- A table as a JSON value. -/
def TableRef.toJson (t : TableRef) : Json :=
  .ofMembers (("name", .ofString t.name) ::
    (t.aliasName.map fun a => ("alias", Json.ofString a)).toList)

/-- The name of an aggregate function in the canonical form. -/
def AggregateFn.tag : AggregateFn → String
  | .avg => "Avg"
  | .sum => "Sum"
  | .count => "Count"

/-- The argument of an aggregate as a JSON value. -/
def AggregateArg.toJson : AggregateArg → Json
  | .wildcard => .ofMembers [("type", .ofString "Wildcard")]
  | .column c => .ofMembers [("type", .ofString "Column"), ("col", c.toJson)]

/-- An aggregate as a JSON value. -/
def Aggregate.toJson (a : Aggregate) : Json :=
  .ofMembers [("func", .ofString a.fn.tag), ("arg", a.arg.toJson), ("alias", .ofString a.aliasName)]

/-- A selected item as a JSON value.  The two kinds are told apart by their members. -/
def SelectItem.toJson : SelectItem → Json
  | .aggregate a => a.toJson
  | .column c => c.toJson

/-- A selection as a JSON value. -/
def Selection.toJson : Selection → Json
  | .wildcard => .ofMembers [("type", .ofString "Wildcard")]
  | .items list =>
    .ofMembers [("type", .ofString "Items"), ("items", .array (list.map SelectItem.toJson))]

/-- The name of a kind of join in the canonical form. -/
def JoinKind.tag : JoinKind → String
  | .left => "Left"
  | .inner => "Inner"

/-- A join as a JSON value. -/
def JoinClause.toJson (j : JoinClause) : Json :=
  .ofMembers [("kind", .ofString j.kind.tag), ("table", j.table.toJson), ("left", j.left.toJson),
    ("right", j.right.toJson)]

/-- The name of a comparison in the canonical form. -/
def CompareOp.tag : CompareOp → String
  | .eq => "Eq"
  | .gt => "Gt"
  | .lt => "Lt"
  | .like => "Like"

/-- A condition as a JSON value. -/
def Condition.toJson (c : Condition) : Json :=
  .ofMembers [("column", c.column.toJson), ("op", .ofString c.op.tag), ("value", .ofString c.value)]

/-- A sort key as a JSON value. -/
def SortKey.toJson (k : SortKey) : Json :=
  .ofMembers [("column", k.column.toJson), ("desc", .bool k.desc)]

/-- A clause as a JSON value: its kind and its body. -/
def Clause.toJson : Clause → Json
  | .join j => .ofMembers [("clause", .ofString "Join"), ("body", j.toJson)]
  | .filter c => .ofMembers [("clause", .ofString "Where"), ("body", c.toJson)]
  | .groupBy keys =>
    .ofMembers [("clause", .ofString "GroupBy"), ("body", .array (keys.map Column.toJson))]
  | .orderBy key => .ofMembers [("clause", .ofString "OrderBy"), ("body", key.toJson)]

namespace Statement

/-- A statement as a JSON value. -/
def toJson (s : Statement) : Json :=
  .ofMembers ([("select", s.select.toJson), ("table", s.table.toJson)] ++
    match s.clauses with
    | [] => []
    | cs => [("clauses", .array (cs.map Clause.toJson))])

/-- The canonical text of a statement. -/
def canonical (s : Statement) : String := s.toJson.render

/-- The digest of the canonical text. -/
def fingerprint (s : Statement) : String := Digest.sha256Hex s.canonical

end Statement

end AskTables
