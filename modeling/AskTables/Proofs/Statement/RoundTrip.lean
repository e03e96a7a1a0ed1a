import AskTables.Proofs.Json.RoundTrip
import AskTables.Statement.Reader

/-!
# The canonical form loses nothing

Reading the canonical text of a statement gives the statement back, so two statements never share
their canonical text.  Every part is read back from its JSON value.  A selected column is never
taken for an aggregate, since it has none of the members of one.

Each part is plain as well, and its depth is bounded.  So the text of a statement is read back as
its JSON value, and a selection can be held before its kind is known.
-/

namespace AskTables

open Json (Plain)

/-! ## Columns and tables -/

theorem Column.ofJson?_toJson (c : Column) : Column.ofJson? c.toJson = some c := by
  obtain ⟨table, name⟩ := c
  cases table <;> rfl

theorem Column.plain_toJson (c : Column) : Plain 1 c.toJson := by
  obtain ⟨table, name⟩ := c
  cases table with
  | none => exact .object (by simp [Plain.text])
  | some t => exact .object (by simp [Plain.text])

theorem TableRef.ofJson?_toJson (t : TableRef) : TableRef.ofJson? t.toJson = some t := by
  obtain ⟨name, aliasName⟩ := t
  cases aliasName <;> rfl

theorem TableRef.plain_toJson (t : TableRef) : Plain 1 t.toJson := by
  obtain ⟨name, aliasName⟩ := t
  cases aliasName with
  | none => exact .object (by simp [Plain.text])
  | some a => exact .object (by simp [Plain.text])

/-! ## Lists -/

section
variable {α : Type} {toJson : α → Json}

theorem Json.toList?_map {ofJson? : Json → Option α} (h : ∀ x, ofJson? (toJson x) = some x)
    (xs : List α) : Json.toList? ofJson? (.array (xs.map toJson)) = some xs := by
  simp only [Json.toList?]
  induction xs with
  | nil => rfl
  | cons x xs ih =>
      rw [List.map_cons, List.mapM_cons, h, ih]
      rfl

theorem Json.plain_map {n : Nat} (h : ∀ x, Plain n (toJson x)) (xs : List α) :
    Plain (n + 1) (.array (xs.map toJson)) := by
  refine .array fun v hv => ?_
  obtain ⟨x, -, rfl⟩ := List.mem_map.1 hv
  exact h x

end

/-! ## Selections -/

theorem AggregateFn.ofJson?_tag (f : AggregateFn) :
    AggregateFn.ofJson? (.ofString f.tag) = some f := by
  cases f <;> rfl

theorem AggregateArg.ofJson?_toJson (a : AggregateArg) :
    AggregateArg.ofJson? a.toJson = some a := by
  cases a with
  | wildcard => rfl
  | column c =>
      have hcol : AggregateArg.ofJson? (AggregateArg.column c).toJson =
          (Column.ofJson? c.toJson).bind fun x => some (.column x) := rfl
      rw [hcol, c.ofJson?_toJson]
      rfl

theorem AggregateArg.plain_toJson (a : AggregateArg) : Plain 2 a.toJson := by
  cases a with
  | wildcard => exact .object (by simp [Plain.text])
  | column c => exact .object (by simp [Plain.text, c.plain_toJson])

theorem Aggregate.ofJson?_toJson (a : Aggregate) : Aggregate.ofJson? a.toJson = some a := by
  obtain ⟨fn, arg, aliasName⟩ := a
  have hfields : Aggregate.ofJson? (Aggregate.toJson ⟨fn, arg, aliasName⟩) =
      (AggregateFn.ofJson? (.ofString fn.tag)).bind fun f =>
        (AggregateArg.ofJson? arg.toJson).bind fun x => some ⟨f, x, aliasName⟩ := rfl
  rw [hfields, fn.ofJson?_tag, arg.ofJson?_toJson]
  rfl

theorem Aggregate.plain_toJson (a : Aggregate) : Plain 3 a.toJson :=
  .object (by simp [Plain.text, a.arg.plain_toJson])

/-- A column has neither a function nor an argument nor an alias. -/
theorem Aggregate.ofJson?_column (c : Column) : Aggregate.ofJson? c.toJson = none := by
  obtain ⟨table, name⟩ := c
  cases table <;> rfl

theorem SelectItem.ofJson?_toJson (i : SelectItem) : SelectItem.ofJson? i.toJson = some i := by
  cases i with
  | aggregate a => rw [SelectItem.ofJson?, SelectItem.toJson, a.ofJson?_toJson]
  | column c =>
      rw [SelectItem.ofJson?, SelectItem.toJson, Aggregate.ofJson?_column, c.ofJson?_toJson]
      rfl

theorem SelectItem.plain_toJson (i : SelectItem) : Plain 3 i.toJson := by
  cases i with
  | aggregate a => exact a.plain_toJson
  | column c => exact c.plain_toJson.mono (by omega)

theorem Selection.plain_toJson (s : Selection) : Plain 5 s.toJson := by
  cases s with
  | wildcard => exact .object (by simp [Plain.text])
  | items list => exact .object (by simp [Plain.text, Json.plain_map SelectItem.plain_toJson])

theorem Selection.ofJson?_toJson (s : Selection) {level : Nat} (h : level + 5 ≤ Json.maxDepth) :
    Selection.ofJson? level s.toJson = some s := by
  have hhold := s.plain_toJson.canHold h
  cases s with
  | wildcard => exact if_pos hhold
  | items list =>
      have hitems : Selection.ofJson? level (Selection.items list).toJson =
          if Json.canHold level (Selection.items list).toJson = true then
            (Json.toList? SelectItem.ofJson? (.array (list.map SelectItem.toJson))).bind
              fun xs => some (.items xs)
          else none := rfl
      rw [hitems, if_pos hhold, Json.toList?_map SelectItem.ofJson?_toJson]
      rfl

/-! ## Clauses -/

theorem JoinKind.ofJson?_tag (k : JoinKind) : JoinKind.ofJson? (.ofString k.tag) = some k := by
  cases k <;> rfl

theorem JoinClause.ofJson?_toJson (j : JoinClause) : JoinClause.ofJson? j.toJson = some j := by
  obtain ⟨kind, table, left, right⟩ := j
  have hfields : JoinClause.ofJson? (JoinClause.toJson ⟨kind, table, left, right⟩) =
      (JoinKind.ofJson? (.ofString kind.tag)).bind fun k =>
        (TableRef.ofJson? table.toJson).bind fun t =>
          (Column.ofJson? left.toJson).bind fun l =>
            (Column.ofJson? right.toJson).bind fun r => some ⟨k, t, l, r⟩ := rfl
  rw [hfields, kind.ofJson?_tag, table.ofJson?_toJson, left.ofJson?_toJson, right.ofJson?_toJson]
  rfl

theorem JoinClause.plain_toJson (j : JoinClause) : Plain 2 j.toJson :=
  .object (by simp [Plain.text, j.table.plain_toJson, j.left.plain_toJson, j.right.plain_toJson])

theorem CompareOp.ofJson?_tag (o : CompareOp) : CompareOp.ofJson? (.ofString o.tag) = some o := by
  cases o <;> rfl

theorem Condition.ofJson?_toJson (c : Condition) : Condition.ofJson? c.toJson = some c := by
  obtain ⟨column, op, value⟩ := c
  have hfields : Condition.ofJson? (Condition.toJson ⟨column, op, value⟩) =
      (Column.ofJson? column.toJson).bind fun c =>
        (CompareOp.ofJson? (.ofString op.tag)).bind fun o => some ⟨c, o, value⟩ := rfl
  rw [hfields, column.ofJson?_toJson, op.ofJson?_tag]
  rfl

theorem Condition.plain_toJson (c : Condition) : Plain 2 c.toJson :=
  .object (by simp [Plain.text, c.column.plain_toJson])

theorem SortKey.ofJson?_toJson (k : SortKey) : SortKey.ofJson? k.toJson = some k := by
  obtain ⟨column, desc⟩ := k
  have hfields : SortKey.ofJson? (SortKey.toJson ⟨column, desc⟩) =
      (Column.ofJson? column.toJson).bind fun c => some ⟨c, desc⟩ := rfl
  rw [hfields, column.ofJson?_toJson]
  rfl

theorem SortKey.plain_toJson (k : SortKey) : Plain 2 k.toJson :=
  .object (by simp [Plain.bool, k.column.plain_toJson])

theorem Clause.ofJson?_toJson (c : Clause) : Clause.ofJson? c.toJson = some c := by
  cases c with
  | join j =>
      have hbody : Clause.ofJson? (Clause.join j).toJson = (JoinClause.ofJson? j.toJson).map .join :=
        rfl
      rw [hbody, j.ofJson?_toJson]
      rfl
  | filter c =>
      have hbody : Clause.ofJson? (Clause.filter c).toJson =
          (Condition.ofJson? c.toJson).map .filter := rfl
      rw [hbody, c.ofJson?_toJson]
      rfl
  | groupBy keys =>
      have hbody : Clause.ofJson? (Clause.groupBy keys).toJson =
          (Json.toList? Column.ofJson? (.array (keys.map Column.toJson))).map .groupBy := rfl
      rw [hbody, Json.toList?_map Column.ofJson?_toJson]
      rfl
  | orderBy k =>
      have hbody : Clause.ofJson? (Clause.orderBy k).toJson =
          (SortKey.ofJson? k.toJson).map .orderBy := rfl
      rw [hbody, k.ofJson?_toJson]
      rfl

theorem Clause.plain_toJson (c : Clause) : Plain 3 c.toJson := by
  cases c with
  | join j => exact .object (by simp [Plain.text, j.plain_toJson])
  | filter c => exact .object (by simp [Plain.text, c.plain_toJson])
  | groupBy keys => exact .object (by simp [Plain.text, Json.plain_map Column.plain_toJson])
  | orderBy k => exact .object (by simp [Plain.text, k.plain_toJson])

/-! ## Statements -/

namespace Statement

theorem plain_toJson (s : Statement) : Plain 6 s.toJson := by
  obtain ⟨select, table, clauses⟩ := s
  have hselect := select.plain_toJson
  have htable : Plain 5 table.toJson := table.plain_toJson.mono (by omega)
  cases clauses with
  | nil => exact .object (by simp [hselect, htable])
  | cons c cs =>
      have hclauses : Plain 5 (.array ((c :: cs).map Clause.toJson)) :=
        (Json.plain_map Clause.plain_toJson (c :: cs)).mono (by omega)
      exact .object (by simp_all)

theorem ofJson?_toJson (s : Statement) : ofJson? s.toJson = some s := by
  obtain ⟨select, table, clauses⟩ := s
  have hselect : Selection.ofJson? selectLevel select.toJson = some select :=
    select.ofJson?_toJson (by decide)
  cases clauses with
  | nil =>
      have hfields : ofJson? (toJson ⟨select, table, []⟩) =
          (Selection.ofJson? selectLevel select.toJson).bind fun x =>
            (TableRef.ofJson? table.toJson).bind fun t => some ⟨x, t, []⟩ := rfl
      rw [hfields, hselect, table.ofJson?_toJson]
      rfl
  | cons c cs =>
      have hfields : ofJson? (toJson ⟨select, table, c :: cs⟩) =
          (Selection.ofJson? selectLevel select.toJson).bind fun x =>
            (TableRef.ofJson? table.toJson).bind fun t =>
              (Json.toList? Clause.ofJson? (.array ((c :: cs).map Clause.toJson))).bind fun l =>
                some ⟨x, t, l⟩ := rfl
      rw [hfields, hselect, table.ofJson?_toJson, Json.toList?_map Clause.ofJson?_toJson]
      rfl

/-- The text that a fingerprint is the digest of is read back as the statement.  So two statements
differ in their canonical texts. -/
theorem canonical_lossless :
    (∀ s : Statement, s.fingerprint = Digest.sha256Hex s.canonical ∧
      ofJsonText? s.canonical = some s) ∧ Function.Injective canonical := by
  have hread (s : Statement) : ofJsonText? s.canonical = some s := by
    rw [ofJsonText?, canonical, s.plain_toJson.parse?_render]
    exact s.ofJson?_toJson
  refine ⟨fun s => ⟨rfl, hread s⟩, ?_⟩
  intro s t hst
  have hs := hread s
  rw [hst, hread t] at hs
  exact (Option.some.inj hs).symm

end Statement

end AskTables
