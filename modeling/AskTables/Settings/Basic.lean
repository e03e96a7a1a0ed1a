/-!
# Settings

What can be set: the address of the service, the file with the tables, the capacity of the history,
and how events are logged.  Every setting has a default.

The style and the destination of the log are kept as they were written.  `LogStyle.ofName` and
`LogDestination.ofName` understand them: letter case does not matter, and an unknown name stands for
the default.
-/

namespace AskTables

/-- How log lines look. -/
inductive LogStyle where
  | pretty
  | json
  | compact
deriving DecidableEq, Inhabited

/-- The style of a name. -/
def LogStyle.ofName (name : String) : LogStyle :=
  match name.toLower with
  | "json" => .json
  | "compact" => .compact
  | _ => .pretty

/-- The name of a style. -/
def LogStyle.text : LogStyle → String
  | .pretty => "Pretty"
  | .json => "Json"
  | .compact => "Compact"

/-- Where log lines go. -/
inductive LogDestination where
  | stdout
  | file
  | both
deriving DecidableEq, Inhabited

namespace LogDestination

/-- The destination of a name. -/
def ofName (name : String) : LogDestination :=
  match name.toLower with
  | "file" => .file
  | "both" => .both
  | _ => .stdout

/-- The name of a destination. -/
def text : LogDestination → String
  | .stdout => "Stdout"
  | .file => "File"
  | .both => "Both"

/-- Whether lines go to the standard output. -/
def writesStdout : LogDestination → Bool
  | .stdout | .both => true
  | .file => false

/-- Whether lines go to a file. -/
def writesFile : LogDestination → Bool
  | .file | .both => true
  | .stdout => false

end LogDestination

/-- How events are logged. -/
structure LogSettings where
  /-- Which events are logged. -/
  level : String := "info"
  /-- The name of the style. -/
  format : String := "pretty"
  /-- The name of the destination. -/
  output : String := "stdout"
  /-- Where the file is. -/
  directory : String := "./logs"
deriving DecidableEq, Inhabited

/-- The style of the log lines. -/
def LogSettings.style (s : LogSettings) : LogStyle := .ofName s.format

/-- The destination of the log lines. -/
def LogSettings.destination (s : LogSettings) : LogDestination := .ofName s.output

/-- The address of the service. -/
structure ServerSettings where
  /-- The host. -/
  host : String := "127.0.0.1"
  /-- The port. -/
  port : UInt16 := 8080
deriving DecidableEq, Inhabited

/-- The address as one text. -/
def ServerSettings.address (s : ServerSettings) : String := s.host ++ ":" ++ toString s.port.toNat

/-- All settings. -/
structure Settings where
  /-- The address of the service. -/
  server : ServerSettings := {}
  /-- The file with the tables, or the sample. -/
  datasetPath : Option String := none
  /-- The capacity of the history. -/
  historyCapacity : UInt64 := 10
  /-- How events are logged. -/
  logging : LogSettings := {}
deriving DecidableEq, Inhabited

end AskTables
