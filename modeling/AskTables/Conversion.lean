import AskTables.Phrase.Library
import AskTables.Query.Run

/-!
# From a question to rows

A `Converter` holds a library of rules and a dataset.  `Converter.convert` interprets a question,
and then guards, reads and runs the statement.  The first step that fails gives the error.
-/

namespace AskTables

/-- What answers questions. -/
structure Converter where
  /-- The rules. -/
  library : Library
  /-- The tables. -/
  dataset : Dataset
deriving Inhabited

/-- Why a question has no answer. -/
inductive ConvertError where
  /-- No rule recognises the question. -/
  | noMatch (error : NoMatch)
  /-- The statement has no answer. -/
  | query (error : QueryError)
deriving DecidableEq, Inhabited

namespace ConvertError

/-- The message for a question without an answer. -/
def message : ConvertError → String
  | .noMatch _ => NoMatch.message
  | .query e => e.message

/-- A short name for the kind of error. -/
def kind : ConvertError → String
  | .noMatch _ => "no_match"
  | .query (.unsafeStatement _) => "unsafe_statement"
  | .query (.invalid _) => "parse_error"
  | .query (.missingTable _) => "table_not_found"

end ConvertError

/-- The answer to a question. -/
structure Conversion where
  /-- The rule that recognised the question. -/
  rule : String
  /-- The statement and its rows. -/
  result : QueryResult
deriving DecidableEq, Inhabited

/-- The answer as a JSON value. -/
def Conversion.toJson (c : Conversion) : Json :=
  .ofMembers [("rule", .ofString c.rule), ("sql", .ofString c.result.sql),
    ("rows", .array (c.result.rows.map Row.toJson))]

namespace Converter

/-- The built-in rules over a dataset. -/
def ofDataset (d : Dataset) : Converter := ⟨.builtin, d⟩

/-- The answer to a question. -/
def convert (c : Converter) (text : String) : Except ConvertError Conversion :=
  match c.library.interpret text with
  | .error e => .error (.noMatch e)
  | .ok t =>
    match Query.answer c.dataset t.sql with
    | .error e => .error (.query e)
    | .ok result => .ok ⟨t.rule, result⟩

end Converter

end AskTables
