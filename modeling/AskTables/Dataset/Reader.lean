import AskTables.Dataset.Basic
import AskTables.Json.Number
import AskTables.Json.Reader

/-!
# Reading rows and datasets

A row is a JSON object of cells, a table an array of rows, and a dataset an object of tables.  A
column that is repeated keeps its first place and takes its last cell.  Of two tables with one name
the last wins.
-/

namespace AskTables

/-- The fields of a row, from the members of an object. -/
def Fields.ofMembers? : List (Option String × Json) → Option Fields
  | [] => some []
  | (some name, value) :: rest => do
    let cell ← value.toCell?
    let fields ← Fields.ofMembers? rest
    return (name, cell) :: fields
  | (none, _) :: _ => none

/-- The row of a JSON value. -/
def Row.ofJson? : Json → Option Row
  | .object members => (Fields.ofMembers? members).map Row.ofList
  | _ => none

/-- The row of a JSON text. -/
def Row.parse? (s : String) : Option Row := Json.parse? s >>= Row.ofJson?

/-- The rows of a JSON value. -/
def Table.rowsOfJson? : Json → Option (List Row)
  | .array items => items.mapM Row.ofJson?
  | _ => none

namespace Dataset

/-- The tables of the members of an object. -/
def tablesOfMembers? : List (Option String × Json) → Option (List Table)
  | [] => some []
  | (some name, value) :: rest => do
    let rows ← Table.rowsOfJson? value
    let tables ← tablesOfMembers? rest
    return ⟨name, rows⟩ :: tables
  | (none, _) :: _ => none

/-- The dataset of a JSON value. -/
def ofJson? : Json → Option Dataset
  | .object members => (tablesOfMembers? members).map ofList
  | _ => none

/-- The dataset of a JSON text. -/
def parse? (s : String) : Option Dataset := Json.parse? s >>= ofJson?

end Dataset

end AskTables
