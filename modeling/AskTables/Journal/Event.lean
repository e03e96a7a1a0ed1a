import AskTables.Json.Basic
import AskTables.Settings.Basic
import AskTables.Text.Quoted

/-!
# Events

An *event* says what the program just did: how much it matters, where it happened, and named values.
The same event is written in three styles.  As JSON the values are the members of an object, in the
compact and the pretty style they follow the message in one line.
-/

namespace AskTables

/-- How much an event matters, the most first. -/
inductive Severity where
  | error
  | warn
  | info
  | debug
  | trace
deriving DecidableEq, Inhabited

namespace Severity

/-- The place in the order, from one for the most. -/
def rank : Severity → Nat
  | .error => 1
  | .warn => 2
  | .info => 3
  | .debug => 4
  | .trace => 5

/-- The name in log lines. -/
def text : Severity → String
  | .error => "ERROR"
  | .warn => "WARN"
  | .info => "INFO"
  | .debug => "DEBUG"
  | .trace => "TRACE"

end Severity

/-- The part of the program where an event happens. -/
inductive Component where
  | library
  | guard
  | grammar
  | query
  | conversion
  | service
  | journal
deriving DecidableEq, Inhabited

/-- The name in log lines and filters. -/
def Component.text : Component → String
  | .library => "nlsql_registry::translator"
  | .guard => "nlsql_exec::safety"
  | .grammar => "nlsql_ast::parser"
  | .query => "nlsql_exec"
  | .conversion => "nlsql_server::pipeline"
  | .service => "nlsql_server::http"
  | .journal => "nlsql_server::logging"

/-- A value of an event. -/
inductive EventValue where
  /-- A text that lines show as it is. -/
  | shown (text : String)
  /-- A text that lines show between quotes. -/
  | quoted (text : String)
  /-- A number. -/
  | count (n : Nat)
deriving DecidableEq, Inhabited

namespace EventValue

/-- The value in a line. -/
def line : EventValue → String
  | .shown s => s
  | .quoted s => Text.quote s
  | .count n => toString n

/-- The value as JSON. -/
def toJson : EventValue → Json
  | .shown s | .quoted s => .ofString s
  | .count n => .ofNat n

end EventValue

/-- An event. -/
structure Event where
  /-- How much it matters. -/
  severity : Severity
  /-- Where it happened. -/
  component : Component
  /-- What happened, if the values do not say it. -/
  message : Option String
  /-- The named values. -/
  fields : List (String × EventValue)
deriving DecidableEq, Inhabited

/-- How an event is written. -/
inductive LogEntry where
  /-- As a JSON object of its values, with the message among them. -/
  | record (severity : Severity) (component : Component) (fields : Json)
  /-- As a line. -/
  | line (text : String)
deriving Inhabited

namespace Event

/-- What stands at the start of a line. -/
def head (e : Event) : String := e.severity.text ++ " " ++ e.component.text ++ ": "

/-- The event as a line in the compact style. -/
def compact (e : Event) : String :=
  e.head ++ " ".intercalate
    (e.message.toList ++ e.fields.map fun f => f.1 ++ "=" ++ f.2.line)

/-- The event as a line in the pretty style. -/
def pretty (e : Event) : String :=
  e.head ++ ", ".intercalate
    (e.message.toList ++ e.fields.map fun f => f.1 ++ ": " ++ f.2.line)

/-- The message and the values as a JSON object. -/
def toJson (e : Event) : Json :=
  .ofMembers ((e.message.toList.map fun m => ("message", .ofString m)) ++
    e.fields.map fun f => (f.1, f.2.toJson))

/-- The event in a style. -/
def write (e : Event) : LogStyle → LogEntry
  | .json => .record e.severity e.component e.toJson
  | .compact => .line e.compact
  | .pretty => .line e.pretty

end Event

end AskTables
