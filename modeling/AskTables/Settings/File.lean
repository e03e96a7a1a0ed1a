import AskTables.Settings.Basic
import AskTables.Text.Hex
import AskTables.Yaml.Reader

/-!
# Settings files

A settings file is a mapping of sections, each of them a mapping.  Everything may be left out, and a
section without a value is an empty one.  Unknown keys are ignored, and known ones may not be
repeated.

A text setting takes any scalar as it is written, a number only a plain scalar: decimal digits
without a leading zero, or digits behind `0x`, `0o` or `0b`, each after an optional plus sign.
-/

namespace AskTables

namespace Yaml

/-- The text of a scalar. -/
def toText? : Yaml → Option String
  | .plain s | .quoted s => some s
  | _ => none

/-- The text of a scalar, where an empty or null one stands for no text. -/
def toOptionalText? : Yaml → Option (Option String)
  | .plain s => some (if ["", "~", "null", "Null", "NULL"].contains s then none else some s)
  | .quoted s => some (some s)
  | _ => none

/-- The number that digits below a base write. -/
def digitsToNat? (base : Nat) (digits : List Char) : Option Nat :=
  if digits.isEmpty then none
  else
    digits.foldlM
      (fun n c => (Text.hexDigit? c).bind fun d => if d < base then some (base * n + d) else none) 0

/-- The number of a plain scalar. -/
def natOfPlain? (s : List Char) : Option Nat :=
  let unsigned := match s with
    | '+' :: rest => rest
    | _ => s
  match unsigned with
  | '0' :: 'x' :: digits => digitsToNat? 16 digits
  | '0' :: 'o' :: digits => digitsToNat? 8 digits
  | '0' :: 'b' :: digits => digitsToNat? 2 digits
  | '0' :: _ :: _ => none
  | digits => digitsToNat? 10 digits

/-- The number of a plain scalar, if it is below a limit. -/
def toNatBelow? (limit : Nat) : Yaml → Option Nat
  | .plain s => (natOfPlain? s.toList).filter fun n => n < limit
  | _ => none

/-- The entries of a mapping, where an empty scalar has none. -/
def toEntries? : Yaml → Option (List (String × Yaml))
  | .mapping entries => some entries
  | .plain "" => some []
  | _ => none

/-- The value of a key, or a default if the key is missing.  A repeated key has no value. -/
def field? {α : Type} (entries : List (String × Yaml)) (key : String) (read : Yaml → Option α)
    (absent : α) : Option α :=
  match entries.filter fun e => e.1 = key with
  | [] => some absent
  | [e] => read e.2
  | _ => none

end Yaml

/-- The address in a section. -/
def ServerSettings.ofYaml? (y : Yaml) : Option ServerSettings := do
  let entries ← y.toEntries?
  let defaults : ServerSettings := {}
  let host ← Yaml.field? entries "host" Yaml.toText? defaults.host
  let port ← Yaml.field? entries "port"
    (fun v => (v.toNatBelow? UInt16.size).map UInt16.ofNat) defaults.port
  return ⟨host, port⟩

/-- The log settings in a section. -/
def LogSettings.ofYaml? (y : Yaml) : Option LogSettings := do
  let entries ← y.toEntries?
  let defaults : LogSettings := {}
  let level ← Yaml.field? entries "level" Yaml.toText? defaults.level
  let format ← Yaml.field? entries "format" Yaml.toText? defaults.format
  let output ← Yaml.field? entries "output" Yaml.toText? defaults.output
  let directory ← Yaml.field? entries "directory" Yaml.toText? defaults.directory
  return ⟨level, format, output, directory⟩

namespace Settings

/-- The file with the tables in a section. -/
def datasetPath? (y : Yaml) : Option (Option String) := do
  Yaml.field? (← y.toEntries?) "path" Yaml.toOptionalText? none

/-- The capacity of the history in a section. -/
def historyCapacity? (absent : UInt64) (y : Yaml) : Option UInt64 := do
  Yaml.field? (← y.toEntries?) "capacity"
    (fun v => (v.toNatBelow? UInt64.size).map UInt64.ofNat) absent

/-- The settings of a file. -/
def ofYaml? (y : Yaml) : Option Settings := do
  let sections ← y.toEntries?
  let defaults : Settings := {}
  let server ← Yaml.field? sections "server" ServerSettings.ofYaml? defaults.server
  let path ← Yaml.field? sections "dataset" datasetPath? defaults.datasetPath
  let capacity ← Yaml.field? sections "history" (historyCapacity? defaults.historyCapacity)
    defaults.historyCapacity
  let logging ← Yaml.field? sections "logging" LogSettings.ofYaml? defaults.logging
  return ⟨server, path, capacity, logging⟩

/-- The settings of the text of a file. -/
def parse? (s : String) : Option Settings := Yaml.parse? s >>= ofYaml?

end Settings

end AskTables
