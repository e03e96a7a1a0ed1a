import AskTables.Json.Reader
import AskTables.Json.Shape
import AskTables.Statement.Canonical

/-!
# Reading the canonical form

`Statement.ofJson?` reads a statement from a JSON value.  It takes the canonical form with its
members in any order, with further members, and with `null` for a missing name.  A selected item is
an aggregate if it reads as one, and else a column.

The kind of a selection or of an argument is a member `type`, so the value is held until that member
is known.  The kind of a clause is a member `clause`, and the body is held only if it comes first.
-/

namespace AskTables

open Json (record? choice? toText? toOptionalText? toBool? toList? canHold)

/-- A column. -/
def Column.ofJson? (j : Json) : Option Column := do
  let [table, name] ← record? ["table", "column"] j | none
  return ⟨← toOptionalText? table, ← toText? (← name)⟩

/-- A table. -/
def TableRef.ofJson? (j : Json) : Option TableRef := do
  let [name, aliasName] ← record? ["name", "alias"] j | none
  return ⟨← toText? (← name), ← toOptionalText? aliasName⟩

/-- An aggregate function. -/
def AggregateFn.ofJson? (j : Json) : Option AggregateFn := do
  match ← choice? j with
  | "Avg" => some .avg
  | "Sum" => some .sum
  | "Count" => some .count
  | _ => none

/-- The name of a kind, which may be given by its number in `numbered`. -/
def Json.kindName? (numbered : List String) : Json → Option String
  | .text name => name
  | .number digits => (numbered.zipIdx.find? fun n => toString n.2 = digits).map Prod.fst
  | _ => none

/-- The kind of a value and the members that belong to it: the member `type` of an object, or the
first item of an array.  A kind may be given by its number where `numbered` says so. -/
def Json.tagged? (numbered : List String) : Json → Option (String × Json)
  | .object members => do
    let some tag ← Json.member? "type" members | none
    let rest := members.filter fun m => m.1 != some "type"
    return (← tag.kindName? numbered, .object rest)
  | .array (tag :: rest) => do return (← tag.kindName? numbered, .array rest)
  | _ => none

/-- The argument of an aggregate. -/
def AggregateArg.ofJson? (j : Json) : Option AggregateArg := do
  match ← j.tagged? ["Wildcard", "Column"] with
  | ("Wildcard", _) => some .wildcard
  | ("Column", body) => do
    let [col] ← record? ["col"] body | none
    return .column (← Column.ofJson? (← col))
  | _ => none

/-- An aggregate. -/
def Aggregate.ofJson? (j : Json) : Option Aggregate := do
  let [fn, arg, aliasName] ← record? ["func", "arg", "alias"] j | none
  return ⟨← AggregateFn.ofJson? (← fn), ← AggregateArg.ofJson? (← arg), ← toText? (← aliasName)⟩

/-- A selected item: an aggregate if it reads as one, and else a column. -/
def SelectItem.ofJson? (j : Json) : Option SelectItem :=
  match Aggregate.ofJson? j with
  | some a => some (.aggregate a)
  | none => (Column.ofJson? j).map .column

/-- A selection inside `level` arrays and objects. -/
def Selection.ofJson? (level : Nat) (j : Json) : Option Selection :=
  if canHold level j then do
    match ← j.tagged? [] with
    | ("Wildcard", _) => some .wildcard
    | ("Items", body) => do
      let [list] ← record? ["items"] body | none
      return .items (← toList? SelectItem.ofJson? (← list))
    | _ => none
  else none

/-- A kind of join. -/
def JoinKind.ofJson? (j : Json) : Option JoinKind := do
  match ← choice? j with
  | "Left" => some .left
  | "Inner" => some .inner
  | _ => none

/-- A join. -/
def JoinClause.ofJson? (j : Json) : Option JoinClause := do
  let [kind, table, left, right] ← record? ["kind", "table", "left", "right"] j | none
  return ⟨← JoinKind.ofJson? (← kind), ← TableRef.ofJson? (← table), ← Column.ofJson? (← left),
    ← Column.ofJson? (← right)⟩

/-- A comparison. -/
def CompareOp.ofJson? (j : Json) : Option CompareOp := do
  match ← choice? j with
  | "Eq" => some .eq
  | "Gt" => some .gt
  | "Lt" => some .lt
  | "Like" => some .like
  | _ => none

/-- A condition. -/
def Condition.ofJson? (j : Json) : Option Condition := do
  let [column, op, value] ← record? ["column", "op", "value"] j | none
  return ⟨← Column.ofJson? (← column), ← CompareOp.ofJson? (← op), ← toText? (← value)⟩

/-- A sort key. -/
def SortKey.ofJson? (j : Json) : Option SortKey := do
  let [column, desc] ← record? ["column", "desc"] j | none
  return ⟨← Column.ofJson? (← column), ← toBool? (← desc)⟩

namespace Clause

/-- The arrays and objects around the body of a clause. -/
def bodyLevel : Nat := 3

/-- Whether the body of a clause stands before its kind. -/
def bodyComesFirst : Json → Bool
  | .object members =>
    (members.find? fun m => m.1 == some "clause" || m.1 == some "body").any
      fun m => m.1 == some "body"
  | _ => false

/-- A clause. -/
def ofJson? (j : Json) : Option Clause := do
  let [kind, body] ← record? ["clause", "body"] j | none
  let value ← body
  if bodyComesFirst j && !canHold bodyLevel value then none
  else
    match ← choice? (← kind) with
    | "Join" => (JoinClause.ofJson? value).map .join
    | "Where" => (Condition.ofJson? value).map .filter
    | "GroupBy" => (toList? Column.ofJson? value).map .groupBy
    | "OrderBy" => (SortKey.ofJson? value).map .orderBy
    | _ => none

end Clause

namespace Statement

/-- The arrays and objects around a selection. -/
def selectLevel : Nat := 1

/-- The clauses, none if they are missing. -/
def clausesOfJson? : Option Json → Option (List Clause)
  | none => some []
  | some j => toList? Clause.ofJson? j

/-- The members of a statement.  As an array it may leave out the clauses. -/
def recordOf? : Json → Option (List (Option Json))
  | .array [select, table] => some [some select, some table, none]
  | j => record? ["select", "table", "clauses"] j

/-- The statement of a JSON value. -/
def ofJson? (j : Json) : Option Statement := do
  let [select, table, clauses] ← recordOf? j | none
  return ⟨← Selection.ofJson? selectLevel (← select), ← TableRef.ofJson? (← table),
    ← clausesOfJson? clauses⟩

/-- The statement of a JSON text. -/
def ofJsonText? (s : String) : Option Statement := Json.parse? s >>= ofJson?

end Statement

end AskTables
