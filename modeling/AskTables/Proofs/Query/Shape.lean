import AskTables.Proofs.Dataset.Row
import AskTables.Query.Run
import Mathlib.Data.List.Induction
import Mathlib.Data.List.Perm.Basic

/-!
# The shape of a result

How many rows a statement selects and which columns they have, whatever clauses it is put together
from.  A selection with an aggregate gives one row with one column.  Any other selection gives one
row for each row after the grouping: the row itself for a star, and otherwise the requested columns
that the row has.

The sort comes last and only reorders.  Grouping and projection both build a list in the order of
first mention, and what they do to it is one step of `List.eraseDups`.  `Statement.run_shape` puts
the stages together.
-/

namespace AskTables

/-! ## Sorting -/

namespace SortKey

theorem place_perm (k : SortKey) (row : Row) (sorted : List Row) :
    (k.place row sorted).Perm (row :: sorted) := by
  induction sorted with
  | nil => exact .refl _
  | cons last rest ih =>
      simp only [place]
      split
      · exact (ih.cons last).trans (.swap row last rest)
      · exact .refl _

theorem foldl_place_perm (k : SortKey) (rows sorted : List Row) :
    (rows.foldl (fun sorted row => k.place row sorted) sorted).Perm (rows ++ sorted) := by
  induction rows generalizing sorted with
  | nil => exact .refl _
  | cons row rows ih =>
      refine (ih (k.place row sorted)).trans ?_
      exact ((k.place_perm row sorted).append_left rows).trans List.perm_middle

/-- Sorting changes the order of rows only. -/
theorem rows_perm (k : SortKey) (rows : List Row) : (k.rows rows).Perm rows := by
  have h := k.foldl_place_perm rows []
  rw [List.append_nil] at h
  exact (List.reverse_perm _).trans h

end SortKey

/-! ## Grouping -/

namespace Group

theorem keys_add (key : String) (row : Row) (groups : List Group) :
    (add key row groups).map Group.key =
      if key ∈ groups.map Group.key then groups.map Group.key
      else groups.map Group.key ++ [key] := by
  induction groups with
  | nil => simp [add]
  | cons g rest ih =>
      by_cases h : g.key = key
      · simp [add, h]
      · have h' : ¬ key = g.key := fun e => h e.symm
        by_cases hm : key ∈ rest.map Group.key <;> simp_all [add]

theorem ofRows_concat (columns : List Column) (rows : List Row) (row : Row) :
    ofRows columns (rows ++ [row]) = add (row.groupKey columns) row (ofRows columns rows) := by
  rw [ofRows, List.foldl_append]
  rfl

/-- The keys of the groups are those of the rows, in the order in which they first appear. -/
theorem keys_ofRows (columns : List Column) (rows : List Row) :
    (ofRows columns rows).map Group.key = (rows.map (Row.groupKey · columns)).eraseDups := by
  induction rows using List.reverseRecOn with
  | nil => rfl
  | append_singleton rows row ih =>
      rw [ofRows_concat, keys_add, ih, List.map_append, List.map_singleton, eraseDups_concat]

/-- Grouping leaves one row for each key. -/
theorem length_rows (columns : List Column) (select : Selection) (rows : List Row) :
    (Group.rows columns select rows).length =
      (rows.map (Row.groupKey · columns)).eraseDups.length := by
  rw [Group.rows, List.length_map, ← keys_ofRows, List.length_map]

end Group

/-! ## Projecting -/

namespace Selection

/-- A row has the requested columns that another row has, with the cells of that row. -/
structure Picked (names : List String) (source row : Row) : Prop where
  columns : row.columns = (names.filter (· ∈ source.columns)).eraseDups
  cells : ∀ name ∈ row.columns, row.get? name = source.get? name

theorem picked_foldl (columns : List Column) {names : List String} {source out : Row}
    (h : Picked names source out) :
    Picked (names ++ columns.map Column.name) source (columns.foldl (fun out c =>
      match source.resolve? c with
      | some cell => out.insert c.name cell
      | none => out) out) := by
  induction columns generalizing names out with
  | nil => simpa using h
  | cons c columns ih =>
      have hstep : Picked (names ++ [c.name]) source (match source.resolve? c with
          | some cell => out.insert c.name cell
          | none => out) := by
        have hmem := source.get?_isSome_iff c.name
        cases hc : source.resolve? c with
        | none =>
            rw [Row.resolve?] at hc
            rw [hc] at hmem
            have hno : c.name ∉ source.columns := fun hin => by simp [hin] at hmem
            exact ⟨by rw [h.columns]; simp [hno], h.cells⟩
        | some cell =>
            rw [Row.resolve?] at hc
            rw [hc] at hmem
            have hin : c.name ∈ source.columns := by simpa using hmem
            constructor
            · have hone : [c.name].filter (· ∈ source.columns) = [c.name] := by simp [hin]
              rw [Row.columns_insert, h.columns, List.filter_append, hone, eraseDups_concat]
            · intro name hname
              rw [Row.get?_insert]
              by_cases he : c.name = name
              · rw [if_pos he, ← he, hc]
              · rw [if_neg he]
                refine h.cells name ?_
                rw [Row.columns_insert] at hname
                split at hname
                · exact hname
                · simpa [Ne.symm he] using hname
      have hrest := ih hstep
      rw [List.append_assoc, List.singleton_append] at hrest
      rw [List.map_cons, List.foldl_cons]
      exact hrest

/-- A projected row has the selected columns in the order in which they are first mentioned. -/
theorem picked_pick (columns : List Column) (row : Row) :
    Picked (columns.map Column.name) row (pick columns row) := by
  have hnone : Picked [] row .empty := ⟨rfl, fun _ h => by cases h⟩
  exact picked_foldl columns hnone

/-- The first aggregate of a function in a list of items. -/
def IsFirst (fn : AggregateFn) (items : List SelectItem) (a : Aggregate) : Prop :=
  ∃ before after, items = before ++ .aggregate a :: after ∧ a.fn = fn ∧
    ∀ b, .aggregate b ∈ before → b.fn ≠ fn

/-- No aggregate of a function is in a list of items. -/
def Lacks (fn : AggregateFn) (items : List SelectItem) : Prop :=
  ∀ b, .aggregate b ∈ items → b.fn ≠ fn

/-- The first average, or else the first sum, or else the first count. -/
def Decides (items : List SelectItem) (a : Aggregate) : Prop :=
  IsFirst .avg items a ∨ Lacks .avg items ∧ IsFirst .sum items a ∨
    Lacks .avg items ∧ Lacks .sum items ∧ IsFirst .count items a

theorem mem_aggregates {s : Selection} {a : Aggregate} :
    a ∈ s.aggregates ↔ .aggregate a ∈ s.itemList := by
  rw [aggregates, List.mem_filterMap]
  constructor
  · rintro ⟨item, hitem, h⟩
    cases item with
    | aggregate b => exact Option.some.inj h ▸ hitem
    | column c => cases h
  · intro h
    exact ⟨_, h, rfl⟩

theorem lacks_of_aggregateOf? {s : Selection} {fn : AggregateFn} (h : s.aggregateOf? fn = none) :
    Lacks fn s.itemList := by
  intro b hb
  rw [aggregateOf?, List.find?_eq_none] at h
  simpa using h b (mem_aggregates.2 hb)

theorem isFirst_of_aggregateOf? {s : Selection} {fn : AggregateFn} {a : Aggregate}
    (h : s.aggregateOf? fn = some a) : IsFirst fn s.itemList a := by
  obtain ⟨hfn, before, after, hsplit, hbefore⟩ := List.find?_eq_some_iff_append.1 h
  rw [aggregates, List.filterMap_eq_append_iff] at hsplit
  obtain ⟨front, back, hitems, hfront, hback⟩ := hsplit
  obtain ⟨skipped, item, rest, rfl, hskipped, hitem, -⟩ := List.filterMap_eq_cons_iff.1 hback
  cases item with
  | column c => cases hitem
  | aggregate b =>
      cases hitem
      refine ⟨front ++ skipped, rest, by rw [hitems, List.append_assoc], by simpa using hfn, ?_⟩
      intro b hb
      rcases List.mem_append.1 hb with hb | hb
      · have hmem : b ∈ before := hfront ▸ List.mem_filterMap.2 ⟨_, hb, rfl⟩
        simpa using hbefore b hmem
      · cases hskipped _ hb

/-- The aggregate of a selection is the one that decides. -/
theorem decides_of_aggregate? {s : Selection} {a : Aggregate} (h : s.aggregate? = some a) :
    Decides s.itemList a := by
  rw [aggregate?, List.findSome?_cons] at h
  cases havg : s.aggregateOf? .avg with
  | some b =>
      rw [havg] at h
      cases h
      exact .inl (isFirst_of_aggregateOf? havg)
  | none =>
      rw [havg] at h
      refine .inr ?_
      rw [List.findSome?_cons] at h
      cases hsum : s.aggregateOf? .sum with
      | some b =>
          rw [hsum] at h
          cases h
          exact .inl ⟨lacks_of_aggregateOf? havg, isFirst_of_aggregateOf? hsum⟩
      | none =>
          rw [hsum] at h
          have hcount : s.aggregateOf? .count = some a := by simpa using h
          exact .inr ⟨lacks_of_aggregateOf? havg, lacks_of_aggregateOf? hsum,
            isFirst_of_aggregateOf? hcount⟩

/-- Whichever functions there are, a selection with an aggregate has one that decides. -/
theorem aggregate?_eq_none_iff (s : Selection) :
    s.aggregate? = none ↔ ∀ b, .aggregate b ∉ s.itemList := by
  constructor
  · intro h b hb
    rw [aggregate?, List.findSome?_eq_none_iff] at h
    have hfn : b.fn ∈ [AggregateFn.avg, .sum, .count] := by cases b.fn <;> simp
    exact lacks_of_aggregateOf? (h b.fn hfn) b hb rfl
  · intro h
    have hnil : s.aggregates = [] := by
      rw [List.eq_nil_iff_forall_not_mem]
      intro b hb
      exact h b (mem_aggregates.1 hb)
    simp [aggregate?, aggregateOf?, hnil]

theorem rows_of_aggregate? {s : Selection} {a : Aggregate} (h : s.aggregate? = some a)
    (rows : List Row) : s.rows rows = [.ofList [(a.aliasName, a.value rows)]] := by
  cases s with
  | wildcard => cases h
  | items items => simp only [Selection.rows, h]

theorem length_rows {s : Selection} (h : s.aggregate? = none) (rows : List Row) :
    (s.rows rows).length = rows.length := by
  cases s with
  | wildcard => rfl
  | items items => simp only [Selection.rows, h, List.length_map]

theorem picked_rows {items : List SelectItem} (h : (Selection.items items).aggregate? = none)
    (rows : List Row) : List.Forall₂ (Picked ((Selection.items items).columns.map Column.name)) rows
      ((Selection.items items).rows rows) := by
  simp only [Selection.rows, h, List.forall₂_map_right_iff, List.forall₂_same]
  intro row _
  exact picked_pick _ row

end Selection

/-! ## The whole run -/

namespace Statement

theorem run_eq_ok {s : Statement} {d : Dataset} {rows : List Row} (h : s.run d = .ok rows) :
    ∃ st, s.stages d = .ok st ∧ st.sorted = rows := by
  rw [run] at h
  cases hst : s.stages d with
  | error e =>
      rw [hst] at h
      cases h
  | ok st =>
      rw [hst] at h
      cases h
      exact ⟨st, rfl, rfl⟩

/-- A run begins with the rows of the table and those that the join makes of them. -/
theorem stages_eq_ok {s : Statement} {d : Dataset} {st : Stages} (h : s.stages d = .ok st) :
    ∃ base joined, d.rowsOf s.table.name = .ok base ∧ s.joinedRows d base = .ok joined ∧
      st = s.stagesAfter joined := by
  rw [stages] at h
  cases hbase : d.rowsOf s.table.name with
  | error e =>
      rw [hbase] at h
      cases h
  | ok base =>
      cases hjoined : s.joinedRows d base with
      | error e =>
          rw [hbase] at h
          simp only [bind, Except.bind, hjoined] at h
          cases h
      | ok joined =>
          rw [hbase] at h
          simp only [bind, Except.bind, hjoined] at h
          cases h
          exact ⟨base, joined, rfl, hjoined, rfl⟩

/-- The filter leaves the joined rows that the condition admits. -/
theorem filtered_eq (s : Statement) (joined : List Row) : (s.stagesAfter joined).filtered =
    joined.filter fun row => s.filter?.all fun c => c.admits row := by
  simp only [stagesAfter]
  cases s.filter? with
  | none => simp
  | some c => rfl

/-- The last stage reorders the rows of the projection. -/
theorem sorted_perm (s : Statement) (joined : List Row) :
    (s.stagesAfter joined).sorted.Perm (s.select.rows (s.stagesAfter joined).grouped) := by
  simp only [stagesAfter]
  cases s.orderBy? with
  | none => exact .refl _
  | some k => exact k.rows_perm _

theorem grouped_eq_filtered {s : Statement} (h : s.groupBy? = none) (joined : List Row) :
    (s.stagesAfter joined).grouped = (s.stagesAfter joined).filtered := by
  simp only [stagesAfter, h]

theorem length_grouped {s : Statement} {columns : List Column} (h : s.groupBy? = some columns)
    (joined : List Row) : (s.stagesAfter joined).grouped.length =
      ((s.stagesAfter joined).filtered.map (Row.groupKey · columns)).eraseDups.length := by
  simp only [stagesAfter, h, Group.length_rows]

/-- The shape of a result.  The filter leaves the joined rows that the condition admits.  Between the
filter and the projection a grouping leaves one row for each key.  An aggregate then makes one row
with one column, a star keeps the rows, and a list of columns picks from each of them; the sort may
come between the rows of the last two in any order. -/
theorem run_shape {s : Statement} {d : Dataset} {rows : List Row} (h : s.run d = .ok rows) :
    ∃ st, s.stages d = .ok st ∧
      (∃ base, d.rowsOf s.table.name = .ok base ∧ s.joinedRows d base = .ok st.joined) ∧
      st.filtered = st.joined.filter (fun row => s.filter?.all fun c => c.admits row) ∧
      (s.groupBy? = none → st.grouped = st.filtered) ∧
      (∀ columns, s.groupBy? = some columns → st.grouped.length =
        (st.filtered.map (Row.groupKey · columns)).eraseDups.length) ∧
      ((∃ b, .aggregate b ∈ s.select.itemList) →
        ∃ a cell row, Selection.Decides s.select.itemList a ∧ rows = [row] ∧
          row.fields = [(a.aliasName, cell)] ∧
          (a.fn = .count → cell = .int (Int64.ofNat st.grouped.length))) ∧
      ((∀ b, .aggregate b ∉ s.select.itemList) →
        rows.length = st.grouped.length ∧
        (s.select = .wildcard → rows.Perm st.grouped) ∧
        (∀ items, s.select = .items items → ∃ sources, sources.Perm st.grouped ∧
          List.Forall₂ (Selection.Picked (s.select.columns.map Column.name)) sources rows)) ∧
      ∀ row ∈ rows, row.columns.Nodup := by
  obtain ⟨st, hst, rfl⟩ := run_eq_ok h
  obtain ⟨base, joined, hbase, hjoined, rfl⟩ := stages_eq_ok hst
  have hsorted := s.sorted_perm joined
  refine ⟨_, hst, ⟨base, hbase, hjoined⟩, s.filtered_eq joined, (grouped_eq_filtered · joined),
    fun _ hg => length_grouped hg joined, ?_, ?_, fun row _ => row.nodup⟩
  · rintro ⟨b, hb⟩
    cases ha : s.select.aggregate? with
    | none => exact absurd hb ((Selection.aggregate?_eq_none_iff _).1 ha b)
    | some a =>
        rw [Selection.rows_of_aggregate? ha, List.perm_singleton] at hsorted
        refine ⟨a, _, _, Selection.decides_of_aggregate? ha, hsorted, rfl, ?_⟩
        intro hcount
        simp only [Aggregate.value, hcount]
  · intro hno
    have ha := (Selection.aggregate?_eq_none_iff s.select).2 hno
    refine ⟨hsorted.length_eq.trans (Selection.length_rows ha _), ?_, ?_⟩
    · intro hw
      rw [hw] at hsorted
      exact hsorted
    · intro items hi
      have hpicked := Selection.picked_rows (hi ▸ ha) (s.stagesAfter joined).grouped
      rw [← hi] at hpicked
      obtain ⟨sources, hsources, hperm⟩ := List.perm_comp_forall₂ hsorted hpicked.flip
      exact ⟨sources, hperm, hsources.flip⟩

/-- Counting the towns of one land in which people live, over a join, a filter and a grouping. -/
theorem run_shape_towns :
    let people : Table := ⟨"people", [.ofList [("who", .text "Ada"), ("town", .text "Oslo")],
      .ofList [("who", .text "Bo"), ("town", .text "Rome")],
      .ofList [("who", .text "Cy"), ("town", .text "Bergen")],
      .ofList [("who", .text "Di"), ("town", .text "Oslo")]]⟩
    let towns : Table := ⟨"towns", [.ofList [("place", .text "Oslo"), ("land", .text "Norway")],
      .ofList [("place", .text "Rome"), ("land", .text "Italy")],
      .ofList [("place", .text "Bergen"), ("land", .text "Norway")]]⟩
    let inNorway : Condition := ⟨⟨none, "land"⟩, .eq, "Norway"⟩
    let s : Statement := ⟨.items [.column ⟨none, "town"⟩, .aggregate ⟨.count, .wildcard, "n"⟩],
      ⟨"people", some "p"⟩,
      [.join ⟨.inner, ⟨"towns", some "t"⟩, ⟨some "p", "town"⟩, ⟨some "t", "place"⟩⟩,
        .filter inNorway, .groupBy [⟨none, "town"⟩], .orderBy ⟨⟨none, "n"⟩, false⟩]⟩
    ∃ st row, s.stages (.ofList [people, towns]) = .ok st ∧
      s.run (.ofList [people, towns]) = .ok [row] ∧ st.joined.length = 4 ∧
      st.filtered = st.joined.filter inNorway.admits ∧ st.filtered.length = 3 ∧
      st.grouped.length = 2 ∧ row.fields = [("n", .int 2)] ∧ row.columns.Nodup := by
  intro people towns inNorway s
  have hrun : s.run (.ofList [people, towns]) = .ok [.ofList [("n", .int 2)]] := by decide +kernel
  have hlengths : (s.stages (.ofList [people, towns])).map
      (fun st => (st.joined.length, st.filtered.length, st.grouped.length)) = .ok (4, 3, 2) := by
    decide +kernel
  obtain ⟨st, hst, -, hfiltered, -, -, -, -, hnodup⟩ := run_shape hrun
  rw [hst] at hlengths
  simp only [Except.map, Except.ok.injEq, Prod.mk.injEq] at hlengths
  obtain ⟨hjoined, hlength, hgrouped⟩ := hlengths
  exact ⟨st, _, hst, hrun, hjoined, hfiltered, hlength, hgrouped, rfl,
    hnodup _ (List.mem_singleton.2 rfl)⟩

end Statement

end AskTables
