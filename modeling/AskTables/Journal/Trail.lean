import AskTables.Journal.Event
import AskTables.Service.Basic
import AskTables.Statement.Canonical
import AskTables.Statement.Outline

/-!
# What each step logs

The events of interpreting, guarding, reading and running, in the order in which they happen.  They
are read off the results of the steps, so they cannot disagree with them.
-/

namespace AskTables

/-! ## The events -/

namespace Event

/-- A rule recognised a question. -/
def matched (t : Interpretation) (question : String) : Event :=
  ⟨.debug, .library, some "matched pattern",
    [("rule", .quoted t.rule), ("input", .quoted question), ("sql", .shown t.sql)]⟩

/-- No rule recognised a question. -/
def unmatched (e : NoMatch) : Event :=
  ⟨.debug, .library, some "no pattern matched", [("input", .quoted e.text)]⟩

/-- The guard refused a text. -/
def rejected (command : Guard.Command) (sql : String) : Event :=
  ⟨.warn, .guard, some "rejected mutating statement",
    [("keyword", .quoted command.text), ("sql", .quoted sql)]⟩

/-- A statement was read. -/
def parsed (s : Statement) : Event :=
  ⟨.trace, .grammar, some "parsed statement", [("statement", .shown (Outline.statement s))]⟩

/-- Rows were joined. -/
def joined (j : JoinClause) (rows : List Row) : Event :=
  ⟨.debug, .query, some "joined",
    [("table", .shown j.table.name), ("rows", .count rows.length)]⟩

/-- Rows were filtered. -/
def filtered (c : Condition) (rows : List Row) : Event :=
  ⟨.debug, .query, some "filtered",
    [("condition", .shown c.op.text), ("rows", .count rows.length)]⟩

/-- Rows were grouped. -/
def grouped (rows : List Row) : Event :=
  ⟨.debug, .query, some "grouped", [("groups", .count rows.length)]⟩

/-- A question has an answer. -/
def converted (c : Conversion) (s : Statement) : Event :=
  ⟨.info, .conversion, some "converted question",
    [("rule", .shown c.rule), ("rows", .count c.result.rows.length),
      ("fingerprint", .shown s.fingerprint)]⟩

/-- The service answered a question. -/
def served (c : Conversion) : Event :=
  ⟨.info, .service, none,
    [("event", .quoted "conversion"), ("rule", .shown (Text.quote c.rule)),
      ("rows", .shown (toString c.result.rows.length))]⟩

/-- The service had no answer to a question. -/
def refused (e : ConvertError) : Event :=
  ⟨.warn, .service, none,
    [("event", .quoted "conversion_failed"), ("kind", .shown (Text.quote e.kind)),
      ("error", .shown (Text.quote e.message))]⟩

end Event

/-! ## The steps -/

/-- The events of interpreting a question. -/
def Library.trail (l : Library) (text : String) : List Event :=
  match l.interpret text with
  | .ok t => [.matched t (Text.trim text)]
  | .error e => [.unmatched e]

/-- The events of the stages of a run. -/
def Statement.stageTrail (s : Statement) (st : Stages) : List Event :=
  (s.join?.map fun j => Event.joined j st.joined).toList ++
    (s.filter?.map fun c => Event.filtered c st.filtered).toList ++
    (s.groupBy?.map fun _ => Event.grouped st.grouped).toList

/-- The events of running a statement. -/
def Statement.trail (s : Statement) (d : Dataset) : List Event :=
  match s.stages d with
  | .ok st => s.stageTrail st
  | .error _ => []

/-- The events of answering a text. -/
def Query.trail (d : Dataset) (sql : String) : List Event :=
  match Query.statement sql with
  | .error (.unsafeStatement command) => [.rejected command sql]
  | .error _ => []
  | .ok (_, s) => .parsed s :: s.trail d

/-- The events of answering the text that a question stands for. -/
def Converter.answerTrail (c : Converter) (t : Interpretation) : List Event :=
  Query.trail c.dataset t.sql ++
    match Query.statement t.sql, Query.answer c.dataset t.sql with
    | .ok (_, s), .ok result => [.converted ⟨t.rule, result⟩ s]
    | _, _ => []

/-- The events of answering a question. -/
def Converter.trail (c : Converter) (text : String) : List Event :=
  c.library.trail text ++
    match c.library.interpret text with
    | .ok t => c.answerTrail t
    | .error _ => []

/-- The events of a question to the service.  A blank question leaves none. -/
def Service.trail (s : Service) (text : String) : List Event :=
  let question := Text.trim text
  if question.isEmpty then []
  else
    s.converter.trail question ++
      (match s.converter.convert question with
        | .ok c => [.served c]
        | .error e => [.refused e])

end AskTables
