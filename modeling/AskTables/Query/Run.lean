import AskTables.Dataset.Basic
import AskTables.Grammar.Parse
import AskTables.Guard
import AskTables.Query.Filter
import AskTables.Query.Group
import AskTables.Query.Join
import AskTables.Query.Project
import AskTables.Query.Sort

/-!
# Running statements

A statement is run in fixed stages, whatever the order of its clauses: join, filter, group, project,
sort.  `Statement.stages` keeps the rows after each stage, and `Statement.run` the rows at the end.

`Query.answer` takes text: the guard, the reader of statements and the stages, in this order.
-/

namespace AskTables

/-- The rows after each stage of a run.  A stage that the statement does not ask for leaves the rows
of the stage before. -/
structure Stages where
  /-- After the join. -/
  joined : List Row
  /-- After the filter. -/
  filtered : List Row
  /-- After the grouping. -/
  grouped : List Row
  /-- After the projection. -/
  projected : List Row
  /-- After the sort. -/
  sorted : List Row
deriving Inhabited

/-- A table that a statement names and the dataset does not have. -/
structure MissingTable where
  /-- The name. -/
  name : String
deriving DecidableEq, Inhabited

/-- The message for a missing table. -/
def MissingTable.message (e : MissingTable) : String := "Table '" ++ e.name ++ "' not found"

/-- The rows of a table of a dataset. -/
def Dataset.rowsOf (d : Dataset) (name : String) : Except MissingTable (List Row) :=
  match d.table? name with
  | some t => .ok t.rows
  | none => .error ⟨name⟩

namespace Statement

/-- The rows after the join. -/
def joinedRows (s : Statement) (d : Dataset) (base : List Row) : Except MissingTable (List Row) :=
  match s.join? with
  | some j => do return j.rows s.table.binding base (← d.rowsOf j.table.name)
  | none => .ok base

/-- The stages after the join. -/
def stagesAfter (s : Statement) (joined : List Row) : Stages :=
  let filtered := match s.filter? with
    | some c => c.rows joined
    | none => joined
  let grouped := match s.groupBy? with
    | some columns => Group.rows columns s.select filtered
    | none => filtered
  let projected := s.select.rows grouped
  let sorted := match s.orderBy? with
    | some k => k.rows projected
    | none => projected
  ⟨joined, filtered, grouped, projected, sorted⟩

/-- The rows after each stage. -/
def stages (s : Statement) (d : Dataset) : Except MissingTable Stages := do
  let base ← d.rowsOf s.table.name
  let joined ← s.joinedRows d base
  return s.stagesAfter joined

/-- The rows that a statement selects. -/
def run (s : Statement) (d : Dataset) : Except MissingTable (List Row) :=
  (s.stages d).map Stages.sorted

end Statement

/-! ## From text to rows -/

/-- Why text has no answer. -/
inductive QueryError where
  /-- The text mentions a command that changes data. -/
  | unsafeStatement (command : Guard.Command)
  /-- The text is no statement. -/
  | invalid (error : ParseError)
  /-- A table is missing. -/
  | missingTable (error : MissingTable)
deriving DecidableEq, Inhabited

/-- The message for text without an answer. -/
def QueryError.message : QueryError → String
  | .unsafeStatement command => Guard.message command
  | .invalid e => e.message
  | .missingTable e => e.message

/-- The rows that a text selects, with the text. -/
structure QueryResult where
  /-- The text, without its outer blanks. -/
  sql : String
  /-- The rows. -/
  rows : List Row
deriving DecidableEq, Inhabited

/-- The columns of the first row. -/
def QueryResult.columns (r : QueryResult) : List String :=
  match r.rows with
  | row :: _ => row.columns
  | [] => []

namespace Query

/-- The statement of a text that passes the guard, with the text it was read from. -/
def statement (sql : String) : Except QueryError (String × Statement) :=
  match Guard.check sql with
  | .error command => .error (.unsafeStatement command)
  | .ok text =>
    match Statement.parse text with
    | .error e => .error (.invalid e)
    | .ok s => .ok (text, s)

/-- The rows that a text selects from a dataset. -/
def answer (d : Dataset) (sql : String) : Except QueryError QueryResult :=
  match statement sql with
  | .error e => .error e
  | .ok (text, s) =>
    match s.run d with
    | .error e => .error (.missingTable e)
    | .ok rows => .ok ⟨text, rows⟩

end Query

end AskTables
