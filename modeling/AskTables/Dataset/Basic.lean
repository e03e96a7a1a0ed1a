import AskTables.Row

/-!
# Datasets

A *dataset* holds tables by name.  A table is a list of rows.  The tables stand in the order of
their names by code point, and a name stands once.  Look-up tells upper and lower case apart.
-/

namespace AskTables

/-- A table: its name and its rows. -/
structure Table where
  /-- The name. -/
  name : String
  /-- The rows, in order. -/
  rows : List Row
deriving DecidableEq, Inhabited

/-- Tables in the order of their names. -/
structure Dataset where
  /-- The tables. -/
  tables : List Table
deriving DecidableEq, Inhabited

namespace Dataset

/-- The dataset without tables. -/
def empty : Dataset := ⟨[]⟩

/-- Puts a table at its place, instead of the table of the same name if there is one. -/
def insertTable (t : Table) : List Table → List Table
  | [] => [t]
  | u :: rest =>
    match Ord.compare t.name u.name with
    | .lt => t :: u :: rest
    | .eq => t :: rest
    | .gt => u :: insertTable t rest

/-- Adds a table, or puts it in the place of the one with the same name. -/
def insert (d : Dataset) (name : String) (rows : List Row) : Dataset :=
  ⟨insertTable ⟨name, rows⟩ d.tables⟩

/-- The table of a name. -/
def table? (d : Dataset) (name : String) : Option Table := d.tables.find? fun t => t.name = name

/-- The names of the tables, in order. -/
def names (d : Dataset) : List String := d.tables.map Table.name

/-- The dataset that some tables make when they are inserted in order. -/
def ofList (tables : List Table) : Dataset := tables.foldl (fun d t => d.insert t.name t.rows) empty

end Dataset

end AskTables
