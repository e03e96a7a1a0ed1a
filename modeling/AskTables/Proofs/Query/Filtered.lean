import AskTables.Proofs.Dataset.Row
import AskTables.Proofs.Query.Joined
import Mathlib.Data.List.Basic

/-!
# Conditions on one side of a join

A merged row has the cells of the joined row, and those of the base row in all other columns
(`Row.get?_merge`).  So a condition on a column that no joined row has gives one verdict on a base
row and on all rows it makes, and it may as well be put before the join.  A condition on a column
that no base row has refuses every base row by itself, so it takes from a left join what an inner
join does not make.
-/

namespace AskTables

/-! ## Verdicts -/

namespace Condition

variable {c : Condition} {row : Row}

/-- A missing cell meets no condition. -/
theorem admits_of_notMem (h : c.column.name ∉ row.columns) : c.admits row = false := by
  rw [admits, Row.resolve?, (Row.get?_eq_none_iff _ _).2 h]

/-- Merging in a row without the column leaves the verdict. -/
theorem admits_merge {other : Row} (h : c.column.name ∉ other.columns) (row : Row) :
    c.admits (row.merge other) = c.admits row := by
  rw [admits, admits, Row.resolve?, Row.resolve?, Row.get?_merge_of_notMem h]

end Condition

/-! ## Joins -/

namespace JoinClause

variable {c : Condition} {left right : List Row}

/-- The condition accepts a base row and the rows it makes, or refuses all of them. -/
theorem admits_of_mem_expand (h : ∀ other ∈ right, c.column.name ∉ other.columns) {kind : JoinKind}
    {keys : Column × Column} {row r : Row} (hr : r ∈ expand kind keys right row) :
    c.admits r = c.admits row := by
  rw [expand, partners_eq_filter] at hr
  split at hr
  · split at hr
    · rw [List.mem_singleton.1 hr]
    · cases hr
  · obtain ⟨other, hother, rfl⟩ := List.mem_map.1 hr
    exact Condition.admits_merge (h other (List.mem_of_mem_filter hother)) row

/-- Of the rows that one base row makes, the condition leaves all or none. -/
theorem filter_expand (h : ∀ other ∈ right, c.column.name ∉ other.columns) (kind : JoinKind)
    (keys : Column × Column) (row : Row) : (expand kind keys right row).filter c.admits =
      if c.admits row then expand kind keys right row else [] := by
  split
  · rename_i hrow
    exact List.filter_eq_self.2 fun r hr => (admits_of_mem_expand h hr).trans hrow
  · rename_i hrow
    refine List.filter_eq_nil_iff.2 fun r hr => ?_
    rwa [admits_of_mem_expand h hr]

/-- A condition on a column of the base table may be put before the join. -/
theorem filter_rows (j : JoinClause) (base : String)
    (h : ∀ other ∈ right, c.column.name ∉ other.columns) (left : List Row) :
    c.rows (j.rows base left right) = j.rows base (c.rows left) right := by
  rw [Condition.rows, Condition.rows, JoinClause.rows, JoinClause.rows, List.filter_flatMap]
  induction left with
  | nil => rfl
  | cons row rest ih =>
      rw [List.flatMap_cons, ih, filter_expand h, List.filter_cons]
      split
      · rw [List.flatMap_cons]
      · rfl

/-- What only a left join makes of a row is the row itself, and that is refused. -/
theorem filter_expand_left (h : c.column.name ∉ row.columns) (keys : Column × Column)
    (right : List Row) : (expand .left keys right row).filter c.admits =
      (expand .inner keys right row).filter c.admits := by
  rw [expand, expand]
  cases partners keys row right with
  | nil => simp [Condition.admits_of_notMem h]
  | cons other rest => rfl

/-- Under a condition on a column of the joined table the kind of the join plays no part. -/
theorem filter_rows_left (table : TableRef) (a b : Column) (base : String)
    (h : ∀ row ∈ left, c.column.name ∉ row.columns) (right : List Row) :
    c.rows (rows ⟨.left, table, a, b⟩ base left right) =
      c.rows (rows ⟨.inner, table, a, b⟩ base left right) := by
  rw [Condition.rows, Condition.rows, JoinClause.rows, JoinClause.rows, List.filter_flatMap,
    List.filter_flatMap]
  exact List.flatMap_congr fun row hrow => filter_expand_left (h row hrow) _ right

/-- A join and a condition.  If no joined row has the column, the condition may be put before the
join, of either kind.  If no base row has it, a left join is no more than an inner one. -/
theorem filter_join (j : JoinClause) (base : String) (c : Condition) (left right : List Row) :
    ((∀ other ∈ right, c.column.name ∉ other.columns) →
      c.rows (j.rows base left right) = j.rows base (c.rows left) right) ∧
    ((∀ row ∈ left, c.column.name ∉ row.columns) →
      c.rows (rows ⟨.left, j.table, j.left, j.right⟩ base left right) =
        c.rows (rows ⟨.inner, j.table, j.left, j.right⟩ base left right)) :=
  ⟨fun h => filter_rows j base h left, fun h => filter_rows_left j.table j.left j.right base h right⟩

/-- Only buyers have a name, and only purchases have the number of a buyer.  An empty literal or a
`LIKE` that looks for nothing finds no row without the column either. -/
theorem filter_join_buyers :
    let join (kind : JoinKind) : JoinClause :=
      ⟨kind, ⟨"purchases", some "p"⟩, ⟨some "b", "id"⟩, ⟨some "p", "buyer_id"⟩⟩
    let named : Condition := ⟨⟨some "b", "name"⟩, .like, "%%"⟩
    let numbered : Condition := ⟨⟨some "p", "buyer_id"⟩, .eq, "1"⟩
    (∀ other ∈ purchases, "name" ∉ other.columns) ∧ (∀ row ∈ buyers, "buyer_id" ∉ row.columns) ∧
      named.rows ((join .left).rows "b" buyers purchases) =
        (join .left).rows "b" (named.rows buyers) purchases ∧
      (named.rows ((join .left).rows "b" buyers purchases)).length = 4 ∧
      numbered.rows ((join .left).rows "b" buyers purchases) =
        numbered.rows ((join .inner).rows "b" buyers purchases) ∧
      (numbered.rows ((join .inner).rows "b" buyers purchases)).length = 2 := by
  intro join named numbered
  have hnamed : ∀ other ∈ purchases, "name" ∉ other.columns := by decide
  have hnumbered : ∀ row ∈ buyers, "buyer_id" ∉ row.columns := by decide
  obtain ⟨hbase, -⟩ := filter_join (join .left) "b" named buyers purchases
  obtain ⟨-, hjoined⟩ := filter_join (join .left) "b" numbered buyers purchases
  exact ⟨hnamed, hnumbered, hbase hnamed, by decide +kernel, hjoined hnumbered, by decide +kernel⟩

end JoinClause

end AskTables
