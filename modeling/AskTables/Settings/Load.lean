import AskTables.Settings.File
import AskTables.Text.Blank

/-!
# Loading settings

Settings come from a file and then from environment variables, which win.  Without a file the
defaults hold, unless the file is required.  The file is read first, so a fault in it is reported
before a fault in a variable.
-/

namespace AskTables

/-- Why settings cannot be loaded. -/
inductive SettingsError where
  /-- There is no file. -/
  | missingFile
  /-- The file is no settings file. -/
  | invalidFile
  /-- The value of a variable is no number in range. -/
  | invalidVariable (name : String) (value : String)
deriving DecidableEq, Inhabited

/-- The message for a variable that has no number in range. -/
def SettingsError.variableMessage (name value : String) : String :=
  "Invalid value for " ++ name ++ ": " ++ value

namespace Settings

/-- The number that decimal digits write, after an optional plus sign. -/
def decimal? (s : List Char) : Option Nat :=
  let digits := match s with
    | '+' :: rest => rest
    | _ => s
  if digits.all Char.isDigit then Yaml.digitsToNat? 10 digits else none

/-- The number that a variable holds, if it is below a limit.  Outer blanks do not matter. -/
def variableBelow (limit : Nat) (name value : String) : Except SettingsError Nat :=
  match (decimal? (Text.trimChars value.toList)).filter fun n => n < limit with
  | some n => .ok n
  | none => .error (.invalidVariable name value)

/-- The settings with the values of the variables that are set. -/
def override (s : Settings) (lookup : String → Option String) :
    Except SettingsError Settings := do
  let port ← match lookup "NLSQL_SERVER_PORT" with
    | some v => UInt16.ofNat <$> variableBelow UInt16.size "NLSQL_SERVER_PORT" v
    | none => pure s.server.port
  let capacity ← match lookup "NLSQL_HISTORY_CAPACITY" with
    | some v => UInt64.ofNat <$> variableBelow UInt64.size "NLSQL_HISTORY_CAPACITY" v
    | none => pure s.historyCapacity
  return {
    server := ⟨(lookup "NLSQL_SERVER_HOST").getD s.server.host, port⟩
    datasetPath := lookup "NLSQL_DATASET_PATH" <|> s.datasetPath
    historyCapacity := capacity
    logging := ⟨(lookup "RUST_LOG").getD s.logging.level,
      (lookup "LOG_FORMAT").getD s.logging.format,
      (lookup "LOG_OUTPUT").getD s.logging.output,
      (lookup "LOG_DIR").getD s.logging.directory⟩ }

/-- The settings of a file, if there is one. -/
def ofFile (required : Bool) (file : Option String) : Except SettingsError Settings :=
  match file with
  | some text =>
    match parse? text with
    | some s => .ok s
    | none => .error .invalidFile
  | none => if required then .error .missingFile else .ok {}

/-- The settings of a file and of the variables. -/
def load (required : Bool) (file : Option String) (lookup : String → Option String) :
    Except SettingsError Settings := do
  (← ofFile required file).override lookup

end Settings

end AskTables
