import AskTables.Proofs.Query.Shape
import Mathlib.Algebra.GroupWithZero.Nat
import Mathlib.Data.List.Nodup

/-!
# Grouped rows

Grouping as a partition.  One more row changes one group: the one of its key, which it also begins
if there is none.  So each group holds the first row with its key and counts all of them
(`Gathers`), the groups stand in the order in which their keys first appear, and their sizes add up
to the number of rows (`rows_partition`).

The key is one text, the cells of the grouping columns with a bar between them, and bars inside the
cells are not marked.  Rows with the same cells are always counted in one group, but the converse
needs the bars to be at the same places.  Two rows that differ can have one key only if one column
has more bars in the first row and another column more in the second (`sameGroup_iff`).
-/

namespace AskTables

/-- The text of a row's cell in a grouping column, empty if there is none. -/
def Row.groupText (row : Row) (c : Column) : String :=
  ((row.resolve? c).map Cell.display).getD ""

/-- The key of a row is its texts joined by bars. -/
theorem Row.toList_groupKey (row : Row) (columns : List Column) :
    (row.groupKey columns).toList =
      ['|'].intercalate (columns.map fun c => (row.groupText c).toList) := by
  have hbar : "|".toList = ['|'] := rfl
  rw [Row.groupKey, String.toList_intercalate, List.map_map, hbar]
  rfl

namespace Group

/-! ## One more row -/

/-- Each key has one group. -/
theorem nodup_keys_ofRows (columns : List Column) (rows : List Row) :
    ((ofRows columns rows).map Group.key).Nodup := by
  induction rows using List.reverseRecOn with
  | nil => exact List.nodup_nil
  | append_singleton rows row ih =>
      rw [ofRows_concat, keys_add]
      split
      · exact ih
      · rename_i hnew
        rw [← List.concat_eq_append]
        exact ih.concat hnew

/-- What adding a row does to the groups: the others stay, and the one of the key counts the row or
begins with it. -/
theorem mem_add {key : String} {row : Row} {groups : List Group} (hkeys : (groups.map Group.key).Nodup)
    {g : Group} (hg : g ∈ add key row groups) :
    (g ∈ groups ∧ g.key ≠ key) ∨
      (∃ old ∈ groups, old.key = key ∧ g = ⟨old.key, old.first, old.size + 1⟩) ∨
      (key ∉ groups.map Group.key ∧ g = ⟨key, row, 1⟩) := by
  induction groups with
  | nil =>
      rw [add, List.mem_singleton] at hg
      exact .inr (.inr ⟨List.not_mem_nil, hg⟩)
  | cons old rest ih =>
      obtain ⟨hother, hrest⟩ := List.nodup_cons.1 hkeys
      rw [add] at hg
      split at hg
      · rename_i heq
        rcases List.mem_cons.1 hg with hg | hg
        · exact .inr (.inl ⟨old, List.mem_cons_self, heq, hg⟩)
        · refine .inl ⟨List.mem_cons_of_mem _ hg, fun he => hother ?_⟩
          rw [heq, ← he]
          exact List.mem_map_of_mem hg
      · rename_i hne
        rcases List.mem_cons.1 hg with rfl | hg
        · exact .inl ⟨List.mem_cons_self, hne⟩
        · rcases ih hrest hg with ⟨hmem, hk⟩ | ⟨o, ho, hk, he⟩ | ⟨hnew, he⟩
          · exact .inl ⟨List.mem_cons_of_mem _ hmem, hk⟩
          · exact .inr (.inl ⟨o, List.mem_cons_of_mem _ ho, hk, he⟩)
          · refine .inr (.inr ⟨?_, he⟩)
            rw [List.map_cons, List.mem_cons, not_or]
            exact ⟨fun h => hne h.symm, hnew⟩

/-! ## What a group holds -/

/-- The number of rows with a key. -/
def countOf (columns : List Column) (rows : List Row) (key : String) : Nat :=
  rows.countP fun row => row.groupKey columns = key

/-- The group has the first of the rows with its key, and their number. -/
structure Gathers (columns : List Column) (rows : List Row) (g : Group) : Prop where
  first : rows.find? (fun row => row.groupKey columns = g.key) = some g.first
  size : g.size = countOf columns rows g.key

/-- One row more counts for its own key. -/
theorem countOf_concat (columns : List Column) (rows : List Row) (row : Row) (key : String) :
    countOf columns (rows ++ [row]) key =
      countOf columns rows key + if row.groupKey columns = key then 1 else 0 := by
  rw [countOf, List.countP_append, List.countP_singleton]
  simp only [decide_eq_true_eq, countOf]

/-- A row with another key leaves the group. -/
theorem Gathers.concat {columns : List Column} {rows : List Row} {g : Group}
    (h : Gathers columns rows g) {row : Row} (hne : g.key ≠ row.groupKey columns) :
    Gathers columns (rows ++ [row]) g := by
  refine ⟨by rw [List.find?_append, h.first, Option.some_or], ?_⟩
  rw [countOf_concat, if_neg hne.symm, h.size, Nat.add_zero]

/-- A row with the key makes the group one larger. -/
theorem Gathers.concat_self {columns : List Column} {rows : List Row} {g : Group}
    (h : Gathers columns rows g) {row : Row} (heq : g.key = row.groupKey columns) :
    Gathers columns (rows ++ [row]) ⟨g.key, g.first, g.size + 1⟩ := by
  refine ⟨by rw [List.find?_append, h.first, Option.some_or], ?_⟩
  rw [countOf_concat, if_pos heq.symm, h.size]

/-- A row with a new key makes a group of its own. -/
theorem gathers_new {columns : List Column} {rows : List Row} {row : Row}
    (hnew : row.groupKey columns ∉ rows.map (Row.groupKey · columns)) :
    Gathers columns (rows ++ [row]) ⟨row.groupKey columns, row, 1⟩ := by
  have hnone : ∀ r ∈ rows, r.groupKey columns ≠ row.groupKey columns := fun r hr he =>
    hnew (he ▸ List.mem_map_of_mem hr)
  refine ⟨?_, ?_⟩
  · rw [List.find?_append, List.find?_eq_none.2 (by simpa using hnone)]
    simp
  · rw [countOf_concat, if_pos rfl, countOf, List.countP_eq_zero.2 (by simpa using hnone)]

/-- Every group gathers the rows with its key, by induction on the last row. -/
theorem gathers_ofRows (columns : List Column) (rows : List Row) :
    ∀ g ∈ ofRows columns rows, Gathers columns rows g := by
  induction rows using List.reverseRecOn with
  | nil =>
      intro g hg
      cases hg
  | append_singleton rows row ih =>
      intro g hg
      rw [ofRows_concat] at hg
      rcases mem_add (nodup_keys_ofRows columns rows) hg with
        ⟨hold, hne⟩ | ⟨old, hold, heq, rfl⟩ | ⟨hnew, rfl⟩
      · exact (ih g hold).concat hne
      · exact (ih old hold).concat_self heq
      · rw [keys_ofRows, List.mem_eraseDups] at hnew
        exact gathers_new hnew

/-- Each row is counted in one group. -/
theorem sum_sizes_add (key : String) (row : Row) (groups : List Group) :
    ((add key row groups).map Group.size).sum = (groups.map Group.size).sum + 1 := by
  induction groups with
  | nil => rfl
  | cons g rest ih =>
      rw [add]
      split
      · simp only [List.map_cons, List.sum_cons]
        omega
      · simp only [List.map_cons, List.sum_cons, ih]
        omega

/-- Each row is counted once. -/
theorem sum_sizes_ofRows (columns : List Column) (rows : List Row) :
    ((ofRows columns rows).map Group.size).sum = rows.length := by
  induction rows using List.reverseRecOn with
  | nil => rfl
  | append_singleton rows row ih =>
      rw [ofRows_concat, sum_sizes_add, ih, List.length_append, List.length_singleton]

/-! ## The rows of the groups -/

/-- What becomes of the first row of a group.  Without a count in the selection it stays, and the
first count writes the size of the group into its column, in its place or at the end. -/
inductive Marked (select : Selection) (size : Nat) (first : Row) : Row → Prop
  | same (h : Selection.Lacks .count select.itemList) : Marked select size first first
  | counted {a : Aggregate} {row : Row} (h : Selection.IsFirst .count select.itemList a)
      (columns : row.columns = if a.aliasName ∈ first.columns then first.columns
        else first.columns ++ [a.aliasName])
      (count : row.get? a.aliasName = some (.int (Int64.ofNat size)))
      (others : ∀ name ≠ a.aliasName, row.get? name = first.get? name) :
      Marked select size first row

/-- The row of a group is its first row with the count marked. -/
theorem marked_toRow (select : Selection) (g : Group) :
    Marked select g.size g.first (g.toRow select) := by
  rw [toRow]
  cases h : select.aggregateOf? .count with
  | none => exact .same (Selection.lacks_of_aggregateOf? h)
  | some a =>
      refine .counted (Selection.isFirst_of_aggregateOf? h) (Row.columns_insert _ _ _) ?_ ?_
      · rw [Row.get?_insert, if_pos rfl]
      · intro name hne
        rw [Row.get?_insert, if_neg hne.symm]

/-- Grouping leaves one row for each key, in the order in which the keys first appear.  It is the
first row with the key, marked with the number of these rows, and the numbers add up to that of all
rows.  A number is written in full as long as it fits. -/
theorem rows_partition (columns : List Column) (select : Selection) (rows : List Row) :
    List.Forall₂ (fun key row =>
        ∃ first, rows.find? (fun r => r.groupKey columns = key) = some first ∧
          Marked select (countOf columns rows key) first row)
      (rows.map (Row.groupKey · columns)).eraseDups (Group.rows columns select rows) ∧
    ((rows.map (Row.groupKey · columns)).eraseDups.map (countOf columns rows)).sum = rows.length ∧
    ∀ key, rows.length < 2 ^ 63 →
      (Int64.ofNat (countOf columns rows key)).toInt = countOf columns rows key := by
  have hgathers := gathers_ofRows columns rows
  rw [← keys_ofRows, Group.rows]
  refine ⟨?_, ?_, ?_⟩
  · rw [List.forall₂_map_left_iff, List.forall₂_map_right_iff, List.forall₂_same]
    intro g hg
    have hmarked := marked_toRow select g
    rw [(hgathers g hg).size] at hmarked
    exact ⟨g.first, (hgathers g hg).first, hmarked⟩
  · have hsizes : ((ofRows columns rows).map Group.key).map (countOf columns rows) =
        (ofRows columns rows).map Group.size := by
      rw [List.map_map]
      exact List.map_congr_left fun g hg => (hgathers g hg).size.symm
    rw [hsizes, sum_sizes_ofRows]
  · intro key hlength
    have hle : countOf columns rows key ≤ rows.length := List.countP_le_length
    exact Int64.toInt_ofNat_of_lt (Nat.lt_of_le_of_lt hle hlength)

/-- People and their cities, some with a column that a count may overwrite. -/
def people : List Row :=
  [.ofList [("n", .text "Ann"), ("city", .text "Oslo")], .ofList [("city", .text "Rome")],
    .ofList [("n", .text "Cy"), ("city", .text "Oslo")]]

/-- The count takes the place of a column of its name, and else comes last. -/
theorem rows_partition_people :
    people.length < 2 ^ 63 ∧
      (Int64.ofNat (countOf [⟨none, "city"⟩] people "Oslo")).toInt =
        countOf [⟨none, "city"⟩] people "Oslo" ∧
      (Group.rows [⟨none, "city"⟩] (.items [.aggregate ⟨.count, .wildcard, "n"⟩]) people).map
          Row.fields =
        [[("n", .int 2), ("city", .text "Oslo")], [("city", .text "Rome"), ("n", .int 1)]] := by
  have hlength : people.length < 2 ^ 63 := by decide
  obtain ⟨-, -, hsize⟩ :=
    rows_partition [⟨none, "city"⟩] (.items [.aggregate ⟨.count, .wildcard, "n"⟩]) people
  exact ⟨hlength, hsize "Oslo" hlength, rfl⟩

/-! ## Which rows share a group -/

/-- The place of the group of a key, which is the end if there is none. -/
def slot (key : String) (groups : List Group) : Nat := (groups.map Group.key).idxOf key

/-- The size of the group at a place, zero where there is none. -/
def sizeAt (groups : List Group) (i : Nat) : Nat := (groups[i]?.map Group.size).getD 0

/-- The `n`-th row is counted in the group at a place: with it the group has one row more. -/
def CountedAt (columns : List Column) (rows : List Row) (n i : Nat) : Prop :=
  sizeAt (ofRows columns (rows.take (n + 1))) i = sizeAt (ofRows columns (rows.take n)) i + 1

instance (columns : List Column) (rows : List Row) (n i : Nat) :
    Decidable (CountedAt columns rows n i) :=
  inferInstanceAs (Decidable (sizeAt _ i = sizeAt _ i + 1))

/-- Two rows are counted in one group. -/
def SameGroup (columns : List Column) (rows : List Row) (m n : Nat) : Prop :=
  ∃ i, CountedAt columns rows m i ∧ CountedAt columns rows n i

/-- A key is looked for behind the groups of other keys. -/
theorem slot_cons_of_ne {key : String} {g : Group} (h : g.key ≠ key) (rest : List Group) :
    slot key (g :: rest) = slot key rest + 1 := by
  rw [slot, List.map_cons, List.idxOf_cons, beq_false_of_ne h]
  rfl

theorem sizeAt_cons_succ (g : Group) (groups : List Group) (i : Nat) :
    sizeAt (g :: groups) (i + 1) = sizeAt groups i := rfl

/-- A row is counted at the place of its key. -/
theorem sizeAt_add (key : String) (row : Row) (groups : List Group) (i : Nat) :
    sizeAt (add key row groups) i = sizeAt groups i + if i = slot key groups then 1 else 0 := by
  induction groups generalizing i with
  | nil => cases i <;> simp [sizeAt, slot, add]
  | cons g rest ih =>
      rw [add]
      split
      · rename_i heq
        cases i <;> simp [sizeAt, slot, heq]
      · rename_i hne
        rw [slot_cons_of_ne hne]
        cases i with
        | zero => simp [sizeAt]
        | succ i =>
            rw [sizeAt_cons_succ, sizeAt_cons_succ, ih]
            simp only [Nat.add_right_cancel_iff]

/-- A key has the place in which it appears first. -/
theorem slot_ofRows (key : String) (columns : List Column) (rows : List Row) :
    slot key (ofRows columns rows) = (rows.map (Row.groupKey · columns)).eraseDups.idxOf key := by
  rw [slot, keys_ofRows]

/-- Rows that come later do not move the place where a row is counted. -/
theorem slot_append (columns : List Column) (front back : List Row) (row : Row) :
    slot (row.groupKey columns) (ofRows columns (front ++ row :: back)) =
      slot (row.groupKey columns) (ofRows columns front) := by
  rw [slot_ofRows, slot_ofRows, List.map_append, List.map_cons, List.eraseDups_append,
    List.idxOf_append]
  split
  · rfl
  · rename_i hnew
    rw [List.idxOf_eq_length hnew]
    rw [List.mem_eraseDups] at hnew
    rw [List.cons_removeAll, if_pos (by simpa using hnew), List.eraseDups_cons,
      List.idxOf_cons_self, Nat.zero_add]

/-- A row is counted in the group of its key and in no other. -/
theorem countedAt_iff {columns : List Column} {rows : List Row} {n : Nat} {row : Row}
    (h : rows[n]? = some row) (i : Nat) :
    CountedAt columns rows n i ↔ i = slot (row.groupKey columns) (ofRows columns rows) := by
  have hsplit : rows = rows.take n ++ row :: rows.drop (n + 1) := by
    obtain ⟨hn, rfl⟩ := List.getElem?_eq_some_iff.1 h
    rw [← List.drop_eq_getElem_cons, List.take_append_drop]
  have hslot := slot_append columns (rows.take n) (rows.drop (n + 1)) row
  rw [← hsplit] at hslot
  rw [CountedAt, List.take_add_one, h, Option.toList_some, ofRows_concat, sizeAt_add, hslot]
  simp

/-- Two rows are counted in one group exactly if they have the same key. -/
theorem sameGroup_iff_groupKey (columns : List Column) {rows : List Row} {m n : Nat} {a b : Row}
    (ha : rows[m]? = some a) (hb : rows[n]? = some b) :
    SameGroup columns rows m n ↔ a.groupKey columns = b.groupKey columns := by
  have hmem : a.groupKey columns ∈ (rows.map (Row.groupKey · columns)).eraseDups :=
    List.mem_eraseDups.2 (List.mem_map_of_mem (List.mem_of_getElem? ha))
  simp only [SameGroup, countedAt_iff ha, countedAt_iff hb, exists_eq_left]
  rw [slot_ofRows, slot_ofRows, List.idxOf_inj hmem]

/-! ## Bars -/

/-- The number of bars in a text. -/
def bars (s : String) : Nat := s.toList.count '|'

section Joined

variable {α : Type} {f g : α → List Char} {l : List α}

/-- Joined texts have no more bars than the texts that replace them. -/
theorem count_joined_le (h : ∀ c ∈ l, (f c).count '|' ≤ (g c).count '|') :
    (['|'].intercalate (l.map f)).count '|' ≤ (['|'].intercalate (l.map g)).count '|' := by
  induction l with
  | nil => exact Nat.le_refl _
  | cons c rest ih =>
      obtain ⟨hc, hrest⟩ := List.forall_mem_cons.1 h
      cases rest with
      | nil => simpa using hc
      | cons d rest =>
          have hle := ih hrest
          simp only [List.map_cons, List.intercalate_cons_cons, List.count_append] at hle ⊢
          omega

/-- Texts with equally many bars before the same bar are the same. -/
theorem eq_of_append_bar {a b x y : List Char} (hcount : a.count '|' = b.count '|')
    (h : a ++ ['|'] ++ x = b ++ ['|'] ++ y) : a = b ∧ x = y := by
  rw [List.append_assoc, List.append_assoc] at h
  -- What one text has more than the other would begin with a bar.
  rcases List.append_eq_append_iff.1 h with ⟨c, rfl, hc⟩ | ⟨c, rfl, hc⟩
  · cases c with
    | nil => exact ⟨(List.append_nil a).symm, (List.cons.inj hc).2⟩
    | cons d c =>
        obtain ⟨rfl, -⟩ := List.cons.inj hc
        simp at hcount
  · cases c with
    | nil => exact ⟨List.append_nil b, (List.cons.inj hc).2.symm⟩
    | cons d c =>
        obtain ⟨rfl, -⟩ := List.cons.inj hc
        simp at hcount

/-- If no text has more bars on the left than on the right, the joined texts show all texts. -/
theorem eq_of_joined_eq (hle : ∀ c ∈ l, (f c).count '|' ≤ (g c).count '|')
    (h : ['|'].intercalate (l.map f) = ['|'].intercalate (l.map g)) : ∀ c ∈ l, f c = g c := by
  induction l with
  | nil =>
      intro c hc
      cases hc
  | cons c rest ih =>
      obtain ⟨hc, hrest⟩ := List.forall_mem_cons.1 hle
      cases rest with
      | nil => simpa using h
      | cons d rest =>
          have hbars := count_joined_le hrest
          simp only [List.map_cons, List.intercalate_cons_cons] at h hbars ih
          -- Neither the first text nor the rest has more bars, and together they have as many.
          have hcount := congrArg (List.count '|') h
          simp only [List.count_append] at hcount
          obtain ⟨hfirst, hothers⟩ := eq_of_append_bar (by omega) h
          exact List.forall_mem_cons.2 ⟨hfirst, ih hrest hothers⟩

end Joined

/-- Two rows are counted in one group if and only if the texts of their cells, with bars between
them, are one text.  That is so if the texts are the same column by column.  Otherwise one column
has fewer bars in the first row, and another column has more. -/
theorem sameGroup_iff (columns : List Column) {rows : List Row} {m n : Nat} {a b : Row}
    (ha : rows[m]? = some a) (hb : rows[n]? = some b) :
    (SameGroup columns rows m n ↔ "|".intercalate (columns.map a.groupText) =
        "|".intercalate (columns.map b.groupText)) ∧
      ((∀ c ∈ columns, a.groupText c = b.groupText c) → SameGroup columns rows m n) ∧
      (SameGroup columns rows m n → (∀ c ∈ columns, a.groupText c = b.groupText c) ∨
        (∃ c ∈ columns, bars (a.groupText c) < bars (b.groupText c)) ∧
          ∃ c ∈ columns, bars (b.groupText c) < bars (a.groupText c)) := by
  have hkey := sameGroup_iff_groupKey columns ha hb
  refine ⟨hkey, fun h => ?_, fun hsame => ?_⟩
  · have htexts : columns.map a.groupText = columns.map b.groupText := List.map_inj_left.2 h
    rw [hkey]
    exact congrArg _ htexts
  · have hjoined := congrArg String.toList (hkey.1 hsame)
    rw [Row.toList_groupKey, Row.toList_groupKey] at hjoined
    by_cases hless : ∃ c ∈ columns, bars (a.groupText c) < bars (b.groupText c)
    · by_cases hmore : ∃ c ∈ columns, bars (b.groupText c) < bars (a.groupText c)
      · exact .inr ⟨hless, hmore⟩
      · have hle : ∀ c ∈ columns, bars (a.groupText c) ≤ bars (b.groupText c) := by
          simpa using hmore
        exact .inl fun c hc => String.toList_inj.1 (eq_of_joined_eq hle hjoined c hc)
    · have hle : ∀ c ∈ columns, bars (b.groupText c) ≤ bars (a.groupText c) := by
        simpa using hless
      exact .inl fun c hc => (String.toList_inj.1 (eq_of_joined_eq hle hjoined.symm c hc)).symm

/-- A row with a bar in its first cell. -/
def barInFirst : Row := .ofList [("a", .text "x|y"), ("b", .text "z")]

/-- The same texts with the bar in the second cell. -/
def barInSecond : Row := .ofList [("a", .text "x"), ("b", .text "y|z")]

/-- A bar at the same place in two rows does no harm. -/
theorem sameGroup_iff_same_bar :
    [barInFirst, barInSecond, barInFirst][0]? = some barInFirst ∧
      [barInFirst, barInSecond, barInFirst][2]? = some barInFirst ∧
      SameGroup [⟨none, "a"⟩, ⟨none, "b"⟩] [barInFirst, barInSecond, barInFirst] 0 2 := by
  have hfirst : [barInFirst, barInSecond, barInFirst][0]? = some barInFirst := rfl
  have hlast : [barInFirst, barInSecond, barInFirst][2]? = some barInFirst := rfl
  obtain ⟨-, hsame, -⟩ := sameGroup_iff [⟨none, "a"⟩, ⟨none, "b"⟩] hfirst hlast
  exact ⟨hfirst, hlast, hsame fun _ _ => rfl⟩

/-- A bar that moves from one column to the next leaves the key as it is. -/
theorem sameGroup_of_moved_bar :
    SameGroup [⟨none, "a"⟩, ⟨none, "b"⟩] [barInFirst, barInSecond] 0 1 ∧
      barInFirst.groupText ⟨none, "a"⟩ ≠ barInSecond.groupText ⟨none, "a"⟩ := by
  have hfirst : CountedAt [⟨none, "a"⟩, ⟨none, "b"⟩] [barInFirst, barInSecond] 0 0 := by decide
  have hsecond : CountedAt [⟨none, "a"⟩, ⟨none, "b"⟩] [barInFirst, barInSecond] 1 0 := by decide
  exact ⟨⟨0, hfirst, hsecond⟩, by decide⟩

end Group

end AskTables
