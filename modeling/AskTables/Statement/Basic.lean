/-!
# Statements

A *statement* is a `SELECT` over one table, optionally joined with a second one: the selection,
the base table and a list of clauses.  The reader of statement text produces at most one clause of
each kind, in the order join, where, group by, order by.  A statement that was built otherwise may
hold any list of clauses, and then the first clause of each kind counts.
-/

namespace AskTables

/-! ## Names of columns and tables -/

/-- A column of a table, optionally qualified by the name the table is bound to. -/
structure Column where
  /-- The qualifier. -/
  table : Option String
  /-- The bare name. -/
  name : String
deriving DecidableEq, Inhabited

/-- The column as it is written: `t.c`, or `c` without a qualifier. -/
def Column.text (c : Column) : String :=
  match c.table with
  | some t => t ++ "." ++ c.name
  | none => c.name

/-- A table, optionally renamed. -/
structure TableRef where
  /-- The name the table is stored under. -/
  name : String
  /-- The name the statement gives it. -/
  aliasName : Option String
deriving DecidableEq, Inhabited

/-- The name that qualifies the columns of this table. -/
def TableRef.binding (t : TableRef) : String := t.aliasName.getD t.name

/-! ## The selection -/

/-- The functions that collapse a list of rows into one cell. -/
inductive AggregateFn where
  | avg
  | sum
  | count
deriving DecidableEq, Inhabited

/-- What an aggregate reads off a row. -/
inductive AggregateArg where
  | wildcard
  | column (column : Column)
deriving DecidableEq, Inhabited

/-- An aggregate and the name of the column it makes. -/
structure Aggregate where
  /-- The function. -/
  fn : AggregateFn
  /-- What it reads. -/
  arg : AggregateArg
  /-- The name of the result. -/
  aliasName : String
deriving DecidableEq, Inhabited

/-- One entry of a selection. -/
inductive SelectItem where
  | aggregate (aggregate : Aggregate)
  | column (column : Column)
deriving DecidableEq, Inhabited

/-- What a statement selects: whole rows, or a list of items. -/
inductive Selection where
  | wildcard
  | items (items : List SelectItem)
deriving DecidableEq, Inhabited

/-- The items of a selection, none for whole rows. -/
def Selection.itemList : Selection → List SelectItem
  | .wildcard => []
  | .items list => list

/-- The aggregates of a selection, in order. -/
def Selection.aggregates (s : Selection) : List Aggregate :=
  s.itemList.filterMap fun
    | .aggregate a => some a
    | .column _ => none

/-- The columns of a selection, in order. -/
def Selection.columns (s : Selection) : List Column :=
  s.itemList.filterMap fun
    | .aggregate _ => none
    | .column c => some c

/-- The first aggregate of a given function. -/
def Selection.aggregateOf? (s : Selection) (fn : AggregateFn) : Option Aggregate :=
  s.aggregates.find? fun a => a.fn = fn

/-! ## Clauses -/

/-- Whether rows of the base table without a partner are kept. -/
inductive JoinKind where
  | left
  | inner
deriving DecidableEq, Inhabited

/-- A join with a second table on the equality of two columns. -/
structure JoinClause where
  /-- Whether unmatched rows are kept. -/
  kind : JoinKind
  /-- The joined table. -/
  table : TableRef
  /-- The column written left of the equality sign. -/
  left : Column
  /-- The column written right of it. -/
  right : Column
deriving DecidableEq, Inhabited

/-- The comparisons of a condition. -/
inductive CompareOp where
  | eq
  | gt
  | lt
  | like
deriving DecidableEq, Inhabited

/-- The comparison as it is written. -/
def CompareOp.text : CompareOp → String
  | .eq => "="
  | .gt => ">"
  | .lt => "<"
  | .like => "LIKE"

/-- A comparison of a column with a literal. -/
structure Condition where
  /-- The column. -/
  column : Column
  /-- The comparison. -/
  op : CompareOp
  /-- The text of the literal, without its quotes. -/
  value : String
deriving DecidableEq, Inhabited

/-- The column rows are sorted by, and the direction. -/
structure SortKey where
  /-- The column. -/
  column : Column
  /-- Whether the largest comes first. -/
  desc : Bool
deriving DecidableEq, Inhabited

/-- One clause after the base table. -/
inductive Clause where
  | join (join : JoinClause)
  | filter (condition : Condition)
  | groupBy (keys : List Column)
  | orderBy (key : SortKey)
deriving DecidableEq, Inhabited

/-- A `SELECT` statement. -/
structure Statement where
  /-- What is selected. -/
  select : Selection
  /-- The base table. -/
  table : TableRef
  /-- The clauses, in source order. -/
  clauses : List Clause
deriving DecidableEq, Inhabited

namespace Statement

/-- The first join. -/
def join? (s : Statement) : Option JoinClause :=
  s.clauses.findSome? fun
    | .join j => some j
    | _ => none

/-- The first condition. -/
def filter? (s : Statement) : Option Condition :=
  s.clauses.findSome? fun
    | .filter c => some c
    | _ => none

/-- The columns of the first grouping. -/
def groupBy? (s : Statement) : Option (List Column) :=
  s.clauses.findSome? fun
    | .groupBy keys => some keys
    | _ => none

/-- The first sort key. -/
def orderBy? (s : Statement) : Option SortKey :=
  s.clauses.findSome? fun
    | .orderBy key => some key
    | _ => none

end Statement

end AskTables
