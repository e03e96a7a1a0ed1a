import AskTables.Cell
import AskTables.Statement.Basic

/-!
# Rows

A *row* maps column names to cells and keeps the order in which its columns first came.  No name
occurs twice, and the type says so.

`Row.insert` overwrites a column in its place or adds it at the end, `Row.merge` inserts all columns
of another row, and `Row.get?` looks a column up.  `columns_insert` and `get?_insert` say what
insertion does to the order and to look-up.
-/

namespace AskTables

/-- Names with cells, in order. -/
abbrev Fields := List (String × Cell)

namespace Fields

/-- The names of some fields. -/
def names (fields : Fields) : List String := fields.map Prod.fst

/-- The cell of a name. -/
def find (name : String) : Fields → Option Cell
  | [] => none
  | (n, cell) :: rest => if n = name then some cell else find name rest

/-- Overwrites the cell of a name in its place, or adds the name at the end. -/
def put (name : String) (cell : Cell) : Fields → Fields
  | [] => [(name, cell)]
  | (n, c) :: rest => if n = name then (n, cell) :: rest else (n, c) :: put name cell rest

/-- A new name goes to the end, and a known one stays in its place. -/
theorem names_put (name : String) (cell : Cell) (fields : Fields) :
    names (put name cell fields)
      = if name ∈ names fields then names fields else names fields ++ [name] := by
  induction fields with
  | nil => simp [names, put]
  | cons field rest ih =>
    obtain ⟨n, c⟩ := field
    by_cases h : n = name
    · simp [names, put, h]
    · have h' : ¬ name = n := fun e => h e.symm
      simp only [names] at ih
      by_cases hm : name ∈ rest.map Prod.fst <;> simp [names, put, h, h', hm, ih]

theorem nodup_names_put {fields : Fields} (h : (names fields).Nodup) (name : String) (cell : Cell) :
    (names (put name cell fields)).Nodup := by
  rw [names_put]
  split
  · exact h
  · rename_i hm
    rw [List.nodup_append]
    refine ⟨h, by simp, ?_⟩
    intro a ha b hb
    rw [List.mem_singleton] at hb
    intro hab
    exact hm (hb ▸ hab ▸ ha)

/-- What was put last under a name is found there, and nothing else changes. -/
theorem find_put (name other : String) (cell : Cell) (fields : Fields) :
    find other (put name cell fields) = if name = other then some cell else find other fields := by
  induction fields with
  | nil => simp [put, find]
  | cons field rest ih =>
    obtain ⟨n, c⟩ := field
    by_cases h : n = name
    · subst h
      by_cases ho : n = other <;> simp [put, find, ho]
    · by_cases ho : n = other
      · subst ho
        have h' : ¬ name = n := fun e => h e.symm
        simp [put, find, h, h']
      · simp [put, find, h, ho, ih]

theorem find_isSome_iff (name : String) (fields : Fields) :
    (find name fields).isSome ↔ name ∈ names fields := by
  induction fields with
  | nil => simp [find, names]
  | cons field rest ih =>
    obtain ⟨n, c⟩ := field
    simp only [names] at ih
    by_cases h : n = name
    · simp [find, names, h]
    · have h' : ¬ name = n := fun e => h e.symm
      simp [find, names, h, h', ih]

end Fields

/-- A row of a table. -/
structure Row where
  /-- The columns with their cells, in order. -/
  fields : Fields
  /-- No column occurs twice. -/
  nodup : fields.names.Nodup
deriving DecidableEq

namespace Row

/-- The row without columns. -/
def empty : Row := ⟨[], List.nodup_nil⟩

instance : Inhabited Row := ⟨empty⟩

/-- The names of the columns, in order. -/
def columns (r : Row) : List String := r.fields.names

/-- The number of columns. -/
def size (r : Row) : Nat := r.fields.length

/-- Whether the row has no column. -/
def isEmpty (r : Row) : Bool := r.fields.isEmpty

/-- The cell of a column, by its bare name. -/
def get? (r : Row) (name : String) : Option Cell := r.fields.find name

/-- Overwrites a column in its place, or adds it at the end. -/
def insert (r : Row) (name : String) (cell : Cell) : Row :=
  ⟨r.fields.put name cell, Fields.nodup_names_put r.nodup name cell⟩

/-- The row that some pairs make when they are inserted in order. -/
def ofList (pairs : Fields) : Row := pairs.foldl (fun r p => r.insert p.1 p.2) empty

/-- Inserts all columns of another row, so that its cells win. -/
def merge (r other : Row) : Row := other.fields.foldl (fun r p => r.insert p.1 p.2) r

/-- The cell of a column of a statement.  The qualifier plays no part: after a join `c.id` and
`o.id` both mean the merged column `id`. -/
def resolve? (r : Row) (c : Column) : Option Cell := r.get? c.name

/-- The row as a JSON value. -/
def toJson (r : Row) : Json := .ofMembers (r.fields.map fun f => (f.1, f.2.toJson))

theorem columns_insert (r : Row) (name : String) (cell : Cell) :
    (r.insert name cell).columns
      = if name ∈ r.columns then r.columns else r.columns ++ [name] :=
  Fields.names_put name cell r.fields

/-- Inserting changes one cell. -/
theorem get?_insert (r : Row) (name other : String) (cell : Cell) :
    (r.insert name cell).get? other = if name = other then some cell else r.get? other :=
  Fields.find_put name other cell r.fields

theorem get?_isSome_iff (r : Row) (name : String) : (r.get? name).isSome ↔ name ∈ r.columns :=
  Fields.find_isSome_iff name r.fields

theorem get?_eq_none_iff (r : Row) (name : String) : r.get? name = none ↔ name ∉ r.columns := by
  rw [← Option.not_isSome_iff_eq_none, get?_isSome_iff]

end Row

end AskTables
