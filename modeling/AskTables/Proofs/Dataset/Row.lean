import AskTables.Dataset.Reader
import Mathlib.Data.List.Induction
import Mathlib.Data.List.Nodup

/-!
# Rows as ordered maps

A row keeps what was written to it: its columns stand in the order in which their names were first
written, and each holds the cell that was written to it last.  `Row.Built log r` says that the row
`r` can be made by the operations on rows, and that `log` lists the cells they wrote.

Whatever the operations were, inserting the cells of the log one after the other gives the same row
(`Row.Built.eq_ofList`), so everything about built rows is said once, of `Row.ofList`.  Two rows with
the same columns and the same look-up are equal (`Row.eq_of_get?`), and the laws of merging follow
from what a merge does to these two.
-/

namespace AskTables

/-! ## First mentions -/

/-- One more entry counts if it has not been mentioned before. -/
theorem eraseDups_concat {α : Type} [DecidableEq α] (l : List α) (a : α) :
    (l ++ [a]).eraseDups = if a ∈ l.eraseDups then l.eraseDups else l.eraseDups ++ [a] := by
  rw [List.eraseDups_append]
  by_cases h : a ∈ l
  · simp [List.removeAll, h]
  · simp [List.removeAll, h, List.eraseDups_cons]

theorem eraseDups_of_nodup {α : Type} [DecidableEq α] {l : List α} (h : l.Nodup) :
    l.eraseDups = l := by
  induction l with
  | nil => rfl
  | cons a l ih =>
      obtain ⟨ha, hl⟩ := List.nodup_cons.1 h
      have hkeep : l.filter (fun b => !b == a) = l := by
        refine List.filter_eq_self.2 fun b hb => ?_
        have hne : b ≠ a := fun he => ha (he ▸ hb)
        simpa using hne
      rw [List.eraseDups_cons, hkeep, ih hl]

/-! ## Writes in a row -/

namespace Fields

variable {fields : Fields}

theorem names_append (first second : Fields) :
    names (first ++ second) = names first ++ names second := List.map_append

theorem find_append (name : String) (first second : Fields) :
    find name (first ++ second) = (find name first).or (find name second) := by
  induction first with
  | nil => rfl
  | cons field rest ih =>
      rw [List.cons_append, find, find, ih]
      split <;> rfl

theorem find_eq_none_iff {name : String} : find name fields = none ↔ name ∉ fields.names := by
  rw [← Option.not_isSome_iff_eq_none, find_isSome_iff]

/-- The cell that was written to a name last. -/
def last (name : String) (log : Fields) : Option Cell := find name log.reverse

theorem last_cons (name : String) (p : String × Cell) (log : Fields) :
    last name (p :: log) = (last name log).or (if p.1 = name then some p.2 else none) := by
  rw [last, List.reverse_cons, find_append]
  rfl

/-- A name that is written once has the cell it was written with. -/
theorem last_of_nodup (h : fields.names.Nodup) (name : String) :
    last name fields = find name fields := by
  induction fields with
  | nil => rfl
  | cons p rest ih =>
      obtain ⟨hp, hrest⟩ := List.nodup_cons.1 h
      rw [last_cons, ih hrest, find]
      split
      · rename_i he
        rw [find_eq_none_iff.2 (he ▸ hp), Option.none_or]
      · exact Option.or_none

/-- A cell under a new name goes to the end. -/
theorem put_of_not_mem {name : String} {cell : Cell} (h : name ∉ fields.names) :
    fields.put name cell = fields ++ [(name, cell)] := by
  induction fields with
  | nil => rfl
  | cons field rest ih =>
      obtain ⟨n, c⟩ := field
      rw [names, List.map_cons, List.mem_cons, not_or] at h
      rw [put, if_neg (Ne.symm h.1), ih h.2, List.cons_append]

/-- The order of the names and the look-up determine fields. -/
theorem eq_of_find {other : Fields} (h : fields.names.Nodup)
    (hnames : fields.names = other.names) (hfind : ∀ name, find name fields = find name other) :
    fields = other := by
  induction fields generalizing other with
  | nil => exact (List.map_eq_nil_iff.1 hnames.symm).symm
  | cons p rest ih =>
      cases other with
      | nil => cases hnames
      | cons q others =>
          obtain ⟨hp, hrest⟩ := List.nodup_cons.1 h
          obtain ⟨hname, htail⟩ : p.1 = q.1 ∧ names rest = names others := List.cons.inj hnames
          have hcell : p.2 = q.2 := by
            have hfirst := hfind p.1
            rw [find, find, if_pos rfl, if_pos hname.symm] at hfirst
            exact Option.some.inj hfirst
          have hothers : ∀ name, find name rest = find name others := by
            intro name
            by_cases he : p.1 = name
            · subst he
              rw [find_eq_none_iff.2 hp, find_eq_none_iff.2 (htail ▸ hp)]
            · have hlater := hfind name
              rwa [find, find, if_neg he, if_neg (hname ▸ he)] at hlater
          rw [Prod.ext hname hcell, ih hrest htail hothers]

end Fields

namespace Row

theorem eq_of_fields {r s : Row} (h : r.fields = s.fields) : r = s := by
  obtain ⟨fields, hnodup⟩ := r
  cases h
  rfl

/-- The order of the columns and the look-up determine a row. -/
theorem eq_of_get? {r s : Row} (hcolumns : r.columns = s.columns)
    (hget : ∀ name, r.get? name = s.get? name) : r = s :=
  eq_of_fields (Fields.eq_of_find r.nodup hcolumns hget)

/-- A row is built from a list field by field. -/
theorem ofList_concat (log : Fields) (p : String × Cell) :
    ofList (log ++ [p]) = (ofList log).insert p.1 p.2 := by
  rw [ofList, List.foldl_append]
  rfl

/-- Columns stand in the order in which they were first written. -/
theorem columns_ofList (log : Fields) : (ofList log).columns = log.names.eraseDups := by
  induction log using List.reverseRecOn with
  | nil => rfl
  | append_singleton log p ih =>
      rw [ofList_concat, columns_insert, ih, Fields.names_append]
      exact (eraseDups_concat (Fields.names log) p.1).symm

/-- What is written last stays. -/
theorem get?_foldl_insert (log : Fields) (r : Row) (name : String) :
    (log.foldl (fun r p => r.insert p.1 p.2) r).get? name = (log.last name).or (r.get? name) := by
  induction log generalizing r with
  | nil => rfl
  | cons p log ih =>
      rw [List.foldl_cons, ih, get?_insert, Fields.last_cons, Option.or_assoc]
      split <;> rfl

/-- The cell of a column is the last one that was put there. -/
theorem get?_ofList (log : Fields) (name : String) : (ofList log).get? name = log.last name := by
  rw [ofList, get?_foldl_insert]
  exact Option.or_none

/-- Inserting new columns one by one appends them. -/
theorem fields_foldl_insert {r : Row} {pairs : Fields} (h : (r.fields ++ pairs).names.Nodup) :
    (pairs.foldl (fun r p => r.insert p.1 p.2) r).fields = r.fields ++ pairs := by
  induction pairs generalizing r with
  | nil => rw [List.foldl_nil, List.append_nil]
  | cons p pairs ih =>
      have hfresh : p.1 ∉ r.fields.names := by
        rw [Fields.names_append, List.nodup_append] at h
        intro hmem
        exact h.2.2 _ hmem _ (by simp [Fields.names]) rfl
      have hfields : (r.insert p.1 p.2).fields = r.fields ++ [p] := Fields.put_of_not_mem hfresh
      have hnodup : ((r.insert p.1 p.2).fields ++ pairs).names.Nodup := by
        rw [hfields, List.append_assoc, List.singleton_append]
        exact h
      rw [List.foldl_cons, ih hnodup, hfields, List.append_assoc, List.singleton_append]

/-- Fields with different names make a row as they are. -/
theorem fields_ofList {pairs : Fields} (h : pairs.names.Nodup) : (ofList pairs).fields = pairs :=
  fields_foldl_insert h

theorem ofList_fields (r : Row) : ofList r.fields = r := eq_of_fields (fields_ofList r.nodup)

/-! ## Merging -/

/-- A merge is one list of writes, those of both rows. -/
theorem merge_eq_ofList (a b : Row) : a.merge b = ofList (a.fields ++ b.fields) := by
  rw [ofList, List.foldl_append, ← ofList, ofList_fields, merge]

/-- The cells of the other row win. -/
theorem get?_merge (r other : Row) (name : String) :
    (r.merge other).get? name = (other.get? name).or (r.get? name) := by
  rw [merge, get?_foldl_insert, Fields.last_of_nodup other.nodup]
  rfl

theorem get?_merge_of_notMem {other : Row} {name : String} (h : name ∉ other.columns) (r : Row) :
    (r.merge other).get? name = r.get? name := by
  rw [get?_merge, (get?_eq_none_iff _ _).2 h, Option.none_or]

/-- The columns of the other row come last, except for those that are there already. -/
theorem columns_merge (a b : Row) :
    (a.merge b).columns = a.columns ++ b.columns.filter (· ∉ a.columns) := by
  have hnew : b.columns.removeAll a.columns = b.columns.filter (· ∉ a.columns) := by
    simp [List.removeAll]
  have hnodup : (b.columns.filter (· ∉ a.columns)).Nodup := List.Nodup.filter _ b.nodup
  rw [merge_eq_ofList, columns_ofList, Fields.names_append, List.eraseDups_append,
    eraseDups_of_nodup a.nodup, ← columns, ← columns, hnew, eraseDups_of_nodup hnodup]

/-- Merging is associative, since later cells count and new columns go to the end on both sides. -/
theorem merge_assoc (a b c : Row) : (a.merge b).merge c = a.merge (b.merge c) := by
  refine eq_of_get? ?_ fun name => ?_
  · simp only [columns_merge, List.filter_append, List.filter_filter, List.append_assoc,
      List.mem_append, List.mem_filter, decide_eq_true_eq]
    congr 2
    refine List.filter_congr fun name _ => ?_
    by_cases ha : name ∈ a.columns <;> simp [ha]
  · rw [get?_merge, get?_merge, get?_merge, get?_merge, Option.or_assoc]

theorem merge_empty (r : Row) : r.merge empty = r := rfl

theorem empty_merge (r : Row) : empty.merge r = r := ofList_fields r

theorem merge_self (r : Row) : r.merge r = r := by
  refine eq_of_get? ?_ fun name => ?_
  · have hnone : r.columns.filter (· ∉ r.columns) = [] := by simp
    rw [columns_merge, hnone, List.append_nil]
  · rw [get?_merge, Option.or_self]

/-! ## Rows that are built -/

/-- The cells that a JSON text writes for a row, with every repetition. -/
def cellsOf (text : String) : Fields :=
  match Json.parse? text with
  | some (.object members) => (Fields.ofMembers? members).getD []
  | _ => []

theorem eq_ofList_cellsOf {text : String} {r : Row} (h : parse? text = some r) :
    r = ofList (cellsOf text) := by
  obtain ⟨j, hj, hr⟩ := Option.bind_eq_some_iff.1 h
  cases j with
  | object members =>
      obtain ⟨cells, hcells, rfl⟩ := Option.map_eq_some_iff.1 hr
      simp only [cellsOf, hj, hcells, Option.getD_some]
  | _ => cases hr

/-- A row can be made by inserting pairs, by reading a JSON text, and from such rows by inserting a
cell and by merging.  The log has the cells that were written to the row, in order, and a merge
writes the cells of the other row. -/
inductive Built : Fields → Row → Prop where
  | pairs (log : Fields) : Built log (ofList log)
  | json {text : String} {r : Row} (h : parse? text = some r) : Built (cellsOf text) r
  | insert {log : Fields} {r : Row} (h : Built log r) (name : String) (cell : Cell) :
      Built (log ++ [(name, cell)]) (r.insert name cell)
  | merge {log log' : Fields} {r other : Row} (h : Built log r) (h' : Built log' other) :
      Built (log ++ other.fields) (r.merge other)

/-- A row is made by its log, whatever the operations were. -/
theorem Built.eq_ofList {log : Fields} {r : Row} (h : Built log r) : r = ofList log := by
  induction h with
  | pairs log => rfl
  | json h => exact eq_ofList_cellsOf h
  | insert _ name cell ih => rw [ofList_concat, ← ih]
  | @merge log _ r other _ _ ih _ => rw [ofList, List.foldl_append, ← ofList, ← ih, Row.merge]

/-- A row is a faithful ordered map.  Its columns are different, they stand in the order in which
they were first written, and each has the cell that was written last.  A merge puts the new columns
of the other row behind the old ones and takes all its cells.  Merging is associative, rows without
columns change nothing on either side, and nor does merging a row with itself. -/
theorem ordered_map_laws {log : Fields} {a : Row} (h : Built log a) (b c : Row) :
    a.columns.Nodup ∧ a.columns = (Fields.names log).eraseDups ∧
      (∀ name, a.get? name = log.last name) ∧
      (a.merge b).columns = a.columns ++ b.columns.filter (· ∉ a.columns) ∧
      (∀ name, (a.merge b).get? name = if name ∈ b.columns then b.get? name else a.get? name) ∧
      (a.merge b).merge c = a.merge (b.merge c) ∧
      empty.merge a = a ∧ a.merge empty = a ∧ a.merge a = a := by
  have hget : ∀ name,
      (a.merge b).get? name = if name ∈ b.columns then b.get? name else a.get? name := by
    intro name
    rw [get?_merge]
    split
    · rename_i hname
      obtain ⟨cell, hcell⟩ := Option.isSome_iff_exists.1 ((get?_isSome_iff b name).2 hname)
      rw [hcell, Option.some_or]
    · rename_i hname
      rw [(get?_eq_none_iff b name).2 hname, Option.none_or]
  have hlog := h.eq_ofList
  refine ⟨a.nodup, ?_, ?_, columns_merge a b, hget, merge_assoc a b c, empty_merge a,
    merge_empty a, merge_self a⟩
  · rw [hlog, columns_ofList]
  · intro name
    rw [hlog, get?_ofList]

/-- A guest, whose number is written twice. -/
def guestText : String := "\x7b\"id\":1,\"name\":\"Ann\",\"id\":7\x7d"

/-- The guest as it is read, with a city written to it. -/
def guest : Row := (ofList [("id", .int 7), ("name", .text "Ann")]).insert "city" (.text "Rome")

/-- A booking, with a number of its own. -/
def booking : Row := .ofList [("id", .int 3), ("room", .int 12)]

/-- The number keeps its first place, has the second cell, and gives way to that of the booking. -/
theorem ordered_map_laws_guest :
    Built (cellsOf guestText ++ [("city", .text "Rome")]) guest ∧
      guest.columns = ["id", "name", "city"] ∧ guest.get? "id" = some (.int 7) ∧
      (guest.merge booking).columns = ["id", "name", "city", "room"] ∧
      (guest.merge booking).get? "id" = some (.int 3) := by
  have hread : parse? guestText = some (ofList [("id", .int 7), ("name", .text "Ann")]) := by
    decide +kernel
  have hbuilt : Built (cellsOf guestText ++ [("city", .text "Rome")]) guest :=
    .insert (.json hread) "city" (.text "Rome")
  obtain ⟨-, hcolumns, hget, hmerged, hwins, -⟩ := ordered_map_laws hbuilt booking empty
  refine ⟨hbuilt, ?_, ?_, ?_, ?_⟩
  · rw [hcolumns]
    decide +kernel
  · rw [hget]
    decide +kernel
  · rw [hmerged]
    decide +kernel
  · rw [hwins]
    decide +kernel

end Row

end AskTables
