import AskTables.Row

/-!
# Sorting

Rows are sorted by one column with the order of cells, where a missing column counts as empty.
Descending order reverses the comparison and not the rows, so rows with equal keys keep their order
in both directions.

The sort takes the rows one after another and lets each pass the rows at the end that must come
after it.
-/

namespace AskTables.SortKey

/-- The cell a row is sorted by. -/
def cellOf (k : SortKey) (row : Row) : Cell := (row.resolve? k.column).getD .null

/-- The order of two rows by a key. -/
def compare (k : SortKey) (a b : Row) : Ordering :=
  let order := (k.cellOf a).compare (k.cellOf b)
  if k.desc then order.swap else order

/-- Puts a row into sorted rows that are held last first. -/
def place (k : SortKey) (row : Row) : List Row → List Row
  | [] => [row]
  | last :: rest =>
    if k.compare row last = .lt then last :: place k row rest else row :: last :: rest

/-- The rows sorted by a key. -/
def rows (k : SortKey) (rows : List Row) : List Row :=
  (rows.foldl (fun sorted row => k.place row sorted) []).reverse

end AskTables.SortKey
