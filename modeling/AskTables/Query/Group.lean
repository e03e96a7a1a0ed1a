import AskTables.Row

/-!
# Grouping

Rows fall into one group when their keys are the same text: the displayed cells of the grouping
columns with a bar between them, where a missing column counts as empty.  The groups stand in the
order in which their keys first appear.  Each group is given by its first row, and the first `COUNT`
of the selection writes the size of the group into it.
-/

namespace AskTables

/-- Rows with the same key. -/
structure Group where
  /-- The key. -/
  key : String
  /-- The first row with that key. -/
  first : Row
  /-- The number of rows with that key. -/
  size : Nat
deriving DecidableEq, Inhabited

/-- The key of a row. -/
def Row.groupKey (row : Row) (columns : List Column) : String :=
  "|".intercalate (columns.map fun c => ((row.resolve? c).map Cell.display).getD "")

namespace Group

/-- Counts a row in the group of its key, or begins a new group at the end. -/
def add (key : String) (row : Row) : List Group → List Group
  | [] => [⟨key, row, 1⟩]
  | g :: rest => if g.key = key then ⟨g.key, g.first, g.size + 1⟩ :: rest else g :: add key row rest

/-- The groups of some rows. -/
def ofRows (columns : List Column) (rows : List Row) : List Group :=
  rows.foldl (fun groups row => add (row.groupKey columns) row groups) []

/-- The row that stands for a group. -/
def toRow (select : Selection) (g : Group) : Row :=
  match select.aggregateOf? .count with
  | some a => g.first.insert a.aliasName (.int (Int64.ofNat g.size))
  | none => g.first

/-- One row for each group of some rows. -/
def rows (columns : List Column) (select : Selection) (rows : List Row) : List Row :=
  (ofRows columns rows).map (toRow select)

end Group

end AskTables
