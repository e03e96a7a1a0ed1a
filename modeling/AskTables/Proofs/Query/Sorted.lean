import AskTables.Proofs.Query.Shape
import AskTables.Proofs.Query.Standing

/-!
# Sorted rows

Rows are sorted by where the cells of one column stand.  The sort takes the rows one after another,
and each passes those at the end that stand above it.  It never passes a row that stands where it
stands itself.  So the rows of one place keep their order, whatever the direction, and a list that
is in order and keeps these is the only one (`eq_of_filter_eq`).

The lemmas are about any *level* that the comparison of a key follows.  In ascending order that is
where a row stands, and in descending order the same upside down.
-/

namespace AskTables.SortKey

/-- Where a row stands. -/
def standing (k : SortKey) (row : Row) : Standing := (k.cellOf row).standing

variable {α : Type} [LinearOrder α] {k : SortKey} {level : Row → α}

/-- The comparison of a key is the order of levels, for rows with exact key cells. -/
def Follows (k : SortKey) (level : Row → α) : Prop :=
  ∀ {a b : Row}, (k.cellOf a).IsExact → (k.cellOf b).IsExact →
    (k.compare a b = .lt ↔ level a < level b)

theorem follows_asc (c : Column) : Follows ⟨c, false⟩ (standing ⟨c, false⟩) := by
  intro a b ha hb
  rw [compare, if_neg (by simp), Cell.compare_of_isExact ha hb, cmp_eq_lt_iff]
  rfl

theorem follows_desc (c : Column) :
    Follows ⟨c, true⟩ fun row => OrderDual.toDual (standing ⟨c, true⟩ row) := by
  intro a b ha hb
  rw [compare, if_pos rfl, Cell.compare_of_isExact ha hb, cmp_swap, cmp_eq_lt_iff]
  rfl

/-! ## One row -/

/-- The row comes between those below and those above it. -/
theorem pairwise_place (hk : Follows k level) {row : Row} {sorted : List Row}
    (hrow : (k.cellOf row).IsExact) (hsorted : ∀ r ∈ sorted, (k.cellOf r).IsExact)
    (h : sorted.Pairwise fun later earlier => level earlier ≤ level later) :
    (k.place row sorted).Pairwise fun later earlier => level earlier ≤ level later := by
  induction sorted with
  | nil => exact List.pairwise_singleton _ _
  | cons last rest ih =>
      obtain ⟨hlast, hrest⟩ := List.forall_mem_cons.1 hsorted
      obtain ⟨hbelow, hpairs⟩ := List.pairwise_cons.1 h
      simp only [SortKey.place]
      split
      · rename_i hlt
        refine List.pairwise_cons.2 ⟨?_, ih hrest hpairs⟩
        intro r hr
        rcases List.mem_cons.1 ((k.place_perm row rest).mem_iff.1 hr) with rfl | hr
        · exact ((hk hrow hlast).1 hlt).le
        · exact hbelow r hr
      · rename_i hge
        have hle : level last ≤ level row := not_lt.1 fun hlt => hge ((hk hrow hlast).2 hlt)
        refine List.pairwise_cons.2 ⟨?_, h⟩
        intro r hr
        rcases List.mem_cons.1 hr with rfl | hr
        · exact hle
        · exact (hbelow r hr).trans hle

/-- The row passes no row of its own level. -/
theorem filter_place (hk : Follows k level) {row : Row} {sorted : List Row}
    (hrow : (k.cellOf row).IsExact) (hsorted : ∀ r ∈ sorted, (k.cellOf r).IsExact) (v : α) :
    (k.place row sorted).filter (level · = v) = (row :: sorted).filter (level · = v) := by
  induction sorted with
  | nil => rfl
  | cons last rest ih =>
      obtain ⟨hlast, hrest⟩ := List.forall_mem_cons.1 hsorted
      simp only [SortKey.place]
      split
      · rename_i hlt
        have hne : level row ≠ level last := ((hk hrow hlast).1 hlt).ne
        rw [List.filter_cons, ih hrest, List.filter_cons, List.filter_cons, List.filter_cons]
        by_cases hv : level last = v
        · simp [hv, hv ▸ hne]
        · simp [hv]
      · rfl

/-! ## All rows -/

theorem isExact_place {row : Row} {sorted : List Row} (hrow : (k.cellOf row).IsExact)
    (hsorted : ∀ r ∈ sorted, (k.cellOf r).IsExact) :
    ∀ r ∈ k.place row sorted, (k.cellOf r).IsExact := by
  intro r hr
  rcases List.mem_cons.1 ((k.place_perm row sorted).mem_iff.1 hr) with rfl | hr
  · exact hrow
  · exact hsorted r hr

theorem foldl_place (hk : Follows k level) {rows sorted : List Row}
    (hrows : ∀ r ∈ rows, (k.cellOf r).IsExact) (hsorted : ∀ r ∈ sorted, (k.cellOf r).IsExact)
    (h : sorted.Pairwise fun later earlier => level earlier ≤ level later) :
    (rows.foldl (fun sorted row => k.place row sorted) sorted).Pairwise
        (fun later earlier => level earlier ≤ level later) ∧
      ∀ v, (rows.foldl (fun sorted row => k.place row sorted) sorted).filter (level · = v) =
        (rows.reverse ++ sorted).filter (level · = v) := by
  induction rows generalizing sorted with
  | nil => exact ⟨h, fun _ => rfl⟩
  | cons row rows ih =>
      obtain ⟨hrow, hrows⟩ := List.forall_mem_cons.1 hrows
      obtain ⟨hpairs, hfilter⟩ := ih hrows (isExact_place hrow hsorted)
        (pairwise_place hk hrow hsorted h)
      refine ⟨hpairs, fun v => ?_⟩
      rw [List.foldl_cons, hfilter, List.filter_append, filter_place hk hrow hsorted,
        ← List.filter_append, List.reverse_cons, List.append_assoc, List.singleton_append]

theorem pairwise_rows (hk : Follows k level) {rows : List Row}
    (h : ∀ r ∈ rows, (k.cellOf r).IsExact) :
    (k.rows rows).Pairwise fun a b => level a ≤ level b :=
  List.pairwise_reverse.2 (foldl_place hk h (by simp) .nil).1

theorem filter_rows (hk : Follows k level) {rows : List Row}
    (h : ∀ r ∈ rows, (k.cellOf r).IsExact) (v : α) :
    (k.rows rows).filter (level · = v) = rows.filter (level · = v) := by
  rw [SortKey.rows, List.filter_reverse, (foldl_place hk h (by simp) .nil).2, List.append_nil,
    List.filter_reverse, List.reverse_reverse]

theorem mem_of_filter_eq {l l' : List Row}
    (h : ∀ v, l.filter (level · = v) = l'.filter (level · = v)) {row : Row} (hrow : row ∈ l) :
    row ∈ l' := by
  have hmem : row ∈ l.filter (level · = level row) := by simp [hrow]
  rw [h] at hmem
  exact List.mem_of_mem_filter hmem

theorem level_head_le {row : Row} {rows : List Row}
    (h : (row :: rows).Pairwise fun a b => level a ≤ level b) {r : Row} (hr : r ∈ row :: rows) :
    level row ≤ level r := by
  rcases List.mem_cons.1 hr with rfl | hr
  · exact le_rfl
  · exact List.rel_of_pairwise_cons h hr

/-- Rows in order are determined by those of each level. -/
theorem eq_of_filter_eq {l l' : List Row} (hl : l.Pairwise fun a b => level a ≤ level b)
    (hl' : l'.Pairwise fun a b => level a ≤ level b)
    (h : ∀ v, l.filter (level · = v) = l'.filter (level · = v)) : l = l' := by
  induction l generalizing l' with
  | nil =>
      cases l' with
      | nil => rfl
      | cons b t' => cases mem_of_filter_eq (fun v => (h v).symm) List.mem_cons_self
  | cons a t ih =>
      cases l' with
      | nil => cases mem_of_filter_eq h List.mem_cons_self
      | cons b t' =>
          -- Each head is in the other list, so both stand lowest.
          have hab : level a ≤ level b :=
            level_head_le hl (mem_of_filter_eq (fun v => (h v).symm) List.mem_cons_self)
          have hba : level b ≤ level a :=
            level_head_le hl' (mem_of_filter_eq h List.mem_cons_self)
          have hsame : level b = level a := le_antisymm hba hab
          have hfirst := h (level a)
          rw [List.filter_cons_of_pos (by simp),
            List.filter_cons_of_pos (by simp [hsame])] at hfirst
          obtain ⟨rfl, hrest⟩ := List.cons.inj hfirst
          rw [ih hl.of_cons hl'.of_cons fun v => ?_]
          by_cases hv : level a = v
          · rw [← hv, hrest]
          · simpa [hv] using h v

/-- Rows that are in order stay as they are. -/
theorem rows_of_pairwise (hk : Follows k level) {rows : List Row}
    (h : ∀ r ∈ rows, (k.cellOf r).IsExact) (hsorted : rows.Pairwise fun a b => level a ≤ level b) :
    k.rows rows = rows :=
  eq_of_filter_eq (pairwise_rows hk h) hsorted (filter_rows hk h)

theorem rows_rows (hk : Follows k level) {rows : List Row} (h : ∀ r ∈ rows, (k.cellOf r).IsExact) :
    k.rows (k.rows rows) = k.rows rows :=
  rows_of_pairwise hk (fun r hr => h r ((k.rows_perm rows).mem_iff.1 hr)) (pairwise_rows hk h)

/-! ## Both directions -/

/-- Descending order is ascending order read from the end, if the rows are read from the end. -/
theorem rows_desc (c : Column) {rows : List Row} (h : ∀ r ∈ rows, (cellOf ⟨c, true⟩ r).IsExact) :
    SortKey.rows ⟨c, true⟩ rows = (SortKey.rows ⟨c, false⟩ rows.reverse).reverse := by
  have hreverse : ∀ r ∈ rows.reverse, (cellOf ⟨c, false⟩ r).IsExact :=
    fun r hr => h r (List.mem_reverse.1 hr)
  refine eq_of_filter_eq (pairwise_rows (follows_desc c) h) ?_ fun v => ?_
  · exact List.pairwise_reverse.2 (pairwise_rows (follows_asc c) hreverse)
  · have hasc := filter_rows (follows_asc c) hreverse (OrderDual.ofDual v)
    rw [filter_rows (follows_desc c) h, List.filter_reverse]
    rw [List.filter_reverse, ← List.reverse_eq_iff] at hasc
    exact hasc.symm

/-- The sort permutes the rows, puts them in order, and keeps those that stand at one place as they
were.  So descending order is ascending order from the other end, and a second sort changes
nothing. -/
theorem rows_sorted_stably (k : SortKey) (rows : List Row)
    (h : ∀ row ∈ rows, (k.cellOf row).IsExact) :
    (k.rows rows).Perm rows ∧
      (k.rows rows).Pairwise (fun a b =>
        if k.desc then k.standing b ≤ k.standing a else k.standing a ≤ k.standing b) ∧
      (∀ v, (k.rows rows).filter (k.standing · = v) = rows.filter (k.standing · = v)) ∧
      SortKey.rows ⟨k.column, true⟩ rows =
        (SortKey.rows ⟨k.column, false⟩ rows.reverse).reverse ∧
      k.rows (k.rows rows) = k.rows rows := by
  obtain ⟨c, desc⟩ := k
  refine ⟨rows_perm _ rows, ?_, ?_, rows_desc c h, ?_⟩
  · cases desc with
    | false => exact pairwise_rows (follows_asc c) h
    | true => exact pairwise_rows (follows_desc c) h
  · intro v
    cases desc with
    | false => exact filter_rows (follows_asc c) h v
    | true => exact filter_rows (follows_desc c) h (OrderDual.toDual v)
  · cases desc with
    | false => exact rows_rows (follows_asc c) h
    | true => exact rows_rows (follows_desc c) h

/-- Rows with nothing, two numbers of one value, a text, and no cell at all to sort by. -/
def mixedRows : List Row :=
  [.ofList [("k", .null), ("n", .text "a")], .ofList [("k", .int 2), ("n", .text "b")],
    .ofList [("n", .text "c")], .ofList [("k", .float 2), ("n", .text "d")],
    .ofList [("k", .text "x"), ("n", .text "e")]]

/-- The equal numbers keep their order from the top down, and so do the two rows without a value. -/
theorem rows_sorted_stably_mixed :
    (∀ row ∈ mixedRows, (cellOf ⟨⟨none, "k"⟩, true⟩ row).IsExact) ∧
      (SortKey.rows ⟨⟨none, "k"⟩, true⟩ mixedRows).map (·.get? "n") =
        [some (.text "e"), some (.text "b"), some (.text "d"), some (.text "a"), some (.text "c")] ∧
      (SortKey.rows ⟨⟨none, "k"⟩, true⟩ mixedRows).Pairwise (fun a b =>
        standing ⟨⟨none, "k"⟩, true⟩ b ≤ standing ⟨⟨none, "k"⟩, true⟩ a) := by
  have h : ∀ row ∈ mixedRows, (cellOf ⟨⟨none, "k"⟩, true⟩ row).IsExact := by decide +kernel
  obtain ⟨-, hpairs, -⟩ := rows_sorted_stably ⟨⟨none, "k"⟩, true⟩ mixedRows h
  exact ⟨h, by decide +kernel, hpairs⟩

end AskTables.SortKey
