import AskTables.Proofs.Query.Shape

/-!
# Sorting what is selected

Rows are sorted after the projection, by what the projection has left of them.  The sort looks at
nothing but key cells, so it does the same to rows and to what is made of them, as long as the key
cells stay (`SortKey.rows_map`); this asks nothing of the order of cells.  A selection keeps the key
cell of every row if it selects the key's column, and otherwise takes it from every row.  Then all
rows look alike to the sort, and it leaves them as they are.
-/

namespace AskTables

/-! ## The sort -/

namespace SortKey

variable {k : SortKey}

theorem compare_of_cellOf {a b a' b' : Row} (ha : k.cellOf a' = k.cellOf a)
    (hb : k.cellOf b' = k.cellOf b) : k.compare a' b' = k.compare a b := by
  rw [compare, compare, ha, hb]

theorem place_map {f : Row → Row} (h : ∀ row, k.cellOf (f row) = k.cellOf row) (row : Row)
    (sorted : List Row) : k.place (f row) (sorted.map f) = (k.place row sorted).map f := by
  induction sorted with
  | nil => rfl
  | cons last rest ih =>
      rw [List.map_cons, place, place, compare_of_cellOf (h row) (h last), ih]
      split <;> rfl

theorem foldl_place_map {f : Row → Row} (h : ∀ row, k.cellOf (f row) = k.cellOf row)
    (rows sorted : List Row) :
    (rows.map f).foldl (fun sorted row => k.place row sorted) (sorted.map f) =
      (rows.foldl (fun sorted row => k.place row sorted) sorted).map f := by
  induction rows generalizing sorted with
  | nil => rfl
  | cons row rows ih => rw [List.map_cons, List.foldl_cons, List.foldl_cons, place_map h, ih]

/-- Rows and what is made of them are sorted alike, if the key cells stay. -/
theorem rows_map {f : Row → Row} (h : ∀ row, k.cellOf (f row) = k.cellOf row) (rows : List Row) :
    k.rows (rows.map f) = (k.rows rows).map f := by
  have hfold := foldl_place_map h rows []
  rw [List.map_nil] at hfold
  rw [SortKey.rows, hfold, ← List.map_reverse, SortKey.rows]

theorem foldl_place_of_not_lt {rows sorted : List Row}
    (h : ∀ a ∈ rows ++ sorted, ∀ b ∈ rows ++ sorted, k.compare a b ≠ .lt) :
    rows.foldl (fun sorted row => k.place row sorted) sorted = rows.reverse ++ sorted := by
  induction rows generalizing sorted with
  | nil => rfl
  | cons row rows ih =>
      have hplace : k.place row sorted = row :: sorted := by
        cases sorted with
        | nil => rfl
        | cons last rest => rw [place, if_neg (h row (by simp) last (by simp))]
      rw [List.foldl_cons, hplace, ih fun a ha b hb => h a (by grind) b (by grind)]
      simp

/-- Rows of which none comes before another stay as they are. -/
theorem rows_of_not_lt {rows : List Row} (h : ∀ a ∈ rows, ∀ b ∈ rows, k.compare a b ≠ .lt) :
    k.rows rows = rows := by
  rw [SortKey.rows, foldl_place_of_not_lt (by simpa using h), List.append_nil,
    List.reverse_reverse]

end SortKey

/-! ## The selection -/

namespace Selection

/-- The selection keeps a column, under whatever qualifier. -/
def Keeps (s : Selection) (name : String) : Prop :=
  s = .wildcard ∨ name ∈ s.columns.map Column.name

instance (s : Selection) (name : String) : Decidable (s.Keeps name) :=
  inferInstanceAs (Decidable (_ ∨ _))

/-- A projected row has the cells of the selected columns and no others. -/
theorem get?_pick (columns : List Column) (row : Row) (name : String) :
    (pick columns row).get? name =
      if name ∈ columns.map Column.name then row.get? name else none := by
  have hpicked := picked_pick columns row
  have hmem : name ∈ (pick columns row).columns ↔
      name ∈ columns.map Column.name ∧ name ∈ row.columns := by
    rw [hpicked.columns]
    simp
  by_cases hname : name ∈ (pick columns row).columns
  · rw [hpicked.cells name hname, if_pos (hmem.1 hname).1]
  · rw [(Row.get?_eq_none_iff _ _).2 hname]
    split
    · rename_i hselected
      exact ((Row.get?_eq_none_iff _ _).2 fun hrow => hname (hmem.2 ⟨hselected, hrow⟩)).symm
    · rfl

theorem cellOf_pick {columns : List Column} {k : SortKey}
    (h : k.column.name ∈ columns.map Column.name) (row : Row) :
    k.cellOf (pick columns row) = k.cellOf row := by
  rw [SortKey.cellOf, SortKey.cellOf, Row.resolve?, Row.resolve?, get?_pick, if_pos h]

theorem cellOf_pick_of_notMem {columns : List Column} {k : SortKey}
    (h : k.column.name ∉ columns.map Column.name) (row : Row) :
    k.cellOf (pick columns row) = .null := by
  rw [SortKey.cellOf, Row.resolve?, get?_pick, if_neg h]
  rfl

/-- If a selection without aggregates keeps the column of a sort key, it makes no difference whether
rows are sorted before the projection or after it.  If not, sorting the projected rows leaves them
in the order in which they are. -/
theorem sort_rows {s : Selection} (h : ∀ a, .aggregate a ∉ s.itemList) (k : SortKey)
    (rows : List Row) :
    (s.Keeps k.column.name → k.rows (s.rows rows) = s.rows (k.rows rows)) ∧
      (¬ s.Keeps k.column.name → k.rows (s.rows rows) = s.rows rows) := by
  have hno := (aggregate?_eq_none_iff s).2 h
  cases s with
  | wildcard => exact ⟨fun _ => rfl, fun hkeeps => absurd (.inl rfl) hkeeps⟩
  | items items =>
      simp only [Selection.rows, hno]
      constructor
      · rintro (hstar | hname)
        · cases hstar
        · exact SortKey.rows_map (cellOf_pick hname) rows
      · intro hkeeps
        have hnull := cellOf_pick_of_notMem fun hname => hkeeps (.inr hname)
        refine SortKey.rows_of_not_lt fun a ha b hb => ?_
        obtain ⟨a, -, rfl⟩ := List.mem_map.1 ha
        obtain ⟨b, -, rfl⟩ := List.mem_map.1 hb
        rw [SortKey.compare, hnull, hnull]
        cases k.desc <;> decide

/-- Three people, of whom one has no age. -/
def people : List Row :=
  [.ofList [("name", .text "Bo"), ("age", .int 30)], .ofList [("name", .text "Cy")],
    .ofList [("name", .text "Ann"), ("age", .int 20)]]

/-- Ages are sorted after the projection as before it, under any qualifier and if they are selected
twice.  By their ages names cannot be sorted any more. -/
theorem sort_rows_people :
    let ages : Selection := .items [.column ⟨some "p", "age"⟩, .column ⟨none, "age"⟩]
    let names : Selection := .items [.column ⟨none, "name"⟩]
    let k : SortKey := ⟨⟨some "q", "age"⟩, true⟩
    (∀ a, .aggregate a ∉ ages.itemList) ∧ ages.Keeps "age" ∧ ¬ names.Keeps "age" ∧
      k.rows (ages.rows people) = ages.rows (k.rows people) ∧
      k.rows (names.rows people) = names.rows people ∧
      names.rows (k.rows people) ≠ names.rows people := by
  intro ages names k
  have hages : ∀ a, .aggregate a ∉ ages.itemList := by simp [ages, itemList]
  have hnames : ∀ a, .aggregate a ∉ names.itemList := by simp [names, itemList]
  have hkept : ages.Keeps "age" := by decide
  have hdropped : ¬ names.Keeps "age" := by decide
  exact ⟨hages, hkept, hdropped, (sort_rows hages k people).1 hkept,
    (sort_rows hnames k people).2 hdropped, by decide +kernel⟩

end Selection

end AskTables
