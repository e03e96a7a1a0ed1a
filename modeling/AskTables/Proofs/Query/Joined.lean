import AskTables.Dataset.Sample
import AskTables.Query.Run
import Mathlib.Data.List.ProdSigma

/-!
# Joined rows

A join as a relation of rows.  A base row and a row of the joined table are *partners* if both have
their key and the keys are equal.  `relational` puts each base row together with its partners, and
`pairings` keeps the two rows apart, so that a base row without a partner can be told from a merged
row.  A join is `relational` on the two columns that `ON` assigns to the tables
(`rows_eq_relational`).

Which column is whose is decided by the qualifiers of both sides.  If the two tables have different
names and each side is qualified by one of them, the order of the sides plays no part
(`rows_of_aliases`).  If only one side is qualified by the joined table, it does
(`joinedRows_of_alias`): a joined column on the left is taken for a base column, unless the other
side is qualified by the base table.
-/

namespace AskTables

namespace JoinClause

/-! ## Partners -/

/-- Both rows have their key, and the keys are equal. -/
def ArePartners (a b : String) (row other : Row) : Prop :=
  ∃ key ∈ row.get? a, ∃ found ∈ other.get? b, key.equalsKey found

instance (a b : String) (row other : Row) : Decidable (ArePartners a b row other) :=
  inferInstanceAs (Decidable (∃ key ∈ row.get? a, ∃ found ∈ other.get? b, key.equalsKey found))

/-- Each base row with each of its partners, or by itself if it has none. -/
def pairings (a b : String) (left right : List Row) : List (Row × Option Row) :=
  left.flatMap fun row =>
    if ∃ other ∈ right, ArePartners a b row other then
      (right.filter (ArePartners a b row)).map fun other => (row, some other)
    else [(row, none)]

/-- The row that a pairing makes. -/
def merged : Row × Option Row → Row
  | (row, some other) => row.merge other
  | (row, none) => row

/-- The join on a column of each table: for each base row one row for each partner, and for a row
without a partner what the kind of join asks for. -/
def relational (kind : JoinKind) (a b : String) (left right : List Row) : List Row :=
  left.flatMap fun row =>
    if ∃ other ∈ right, ArePartners a b row other then
      (right.filter (ArePartners a b row)).map row.merge
    else
      match kind with
      | .left => [row]
      | .inner => []

theorem partners_eq_filter (keys : Column × Column) (row : Row) (right : List Row) :
    partners keys row right = right.filter (ArePartners keys.1.name keys.2.name row) := by
  rw [partners, Row.resolve?]
  cases hkey : row.get? keys.1.name with
  | none =>
      refine (List.filter_eq_nil_iff.2 fun other _ => ?_).symm
      simp [ArePartners, hkey]
  | some key =>
      refine List.filter_congr fun other _ => ?_
      rw [isPartner, Row.resolve?]
      cases hfound : other.get? keys.2.name <;> simp [ArePartners, hkey, hfound]

theorem exists_partner_iff (a b : String) (row : Row) (right : List Row) :
    (∃ other ∈ right, ArePartners a b row other) ↔ right.filter (ArePartners a b row) ≠ [] := by
  simp [List.filter_eq_nil_iff]

/-- A join is the relation on the columns that its keys name. -/
theorem rows_eq_relational (j : JoinClause) (base : String) (left right : List Row) :
    j.rows base left right =
      relational j.kind (j.keys base).1.name (j.keys base).2.name left right := by
  rw [JoinClause.rows, relational]
  congr 1
  funext row
  simp only [expand, partners_eq_filter, exists_partner_iff]
  cases hpartners : right.filter (ArePartners (j.keys base).1.name (j.keys base).2.name row) with
  | nil => cases j.kind <;> rfl
  | cons other rest => rfl

/-! ## Matched and unmatched rows -/

section Pairings

variable (a b : String) (left right : List Row)

/-- A left join makes a row of each pairing. -/
theorem relational_left :
    relational .left a b left right = (pairings a b left right).map merged := by
  rw [relational, pairings, List.map_flatMap]
  congr 1
  funext row
  split
  · rw [List.map_map]
    rfl
  · rfl

/-- An inner join makes a row of each pairing of two rows. -/
theorem relational_inner : relational .inner a b left right =
    ((pairings a b left right).filter (·.2.isSome)).map merged := by
  rw [relational, pairings, List.filter_flatMap, List.map_flatMap]
  congr 1
  funext row
  split
  · rw [List.filter_map, List.map_map]
    simp [Function.comp_def, merged]
  · rfl

/-- A pairing of one row is a base row without a partner. -/
theorem unmatched_pairings : ((pairings a b left right).filter (·.2.isNone)).map Prod.fst =
    left.filter fun row => ∀ other ∈ right, ¬ ArePartners a b row other := by
  induction left with
  | nil => rfl
  | cons row rest ih =>
      rw [pairings] at ih
      rw [pairings, List.flatMap_cons, List.filter_append, List.map_append, ih, List.filter_cons]
      by_cases h : ∃ other ∈ right, ArePartners a b row other
      · rw [if_pos h, if_neg (by simpa using h)]
        simp [List.filter_map, Function.comp_def]
      · rw [if_neg h, if_pos (by simpa using h)]
        rfl

/-- An inner join selects the partners from all pairs of rows. -/
theorem relational_inner_product : relational .inner a b left right =
    ((left ×ˢ right).filter fun p => ArePartners a b p.1 p.2).map fun p => p.1.merge p.2 := by
  induction left with
  | nil => rfl
  | cons row rest ih =>
      rw [relational] at ih
      rw [relational, List.flatMap_cons, ih, List.product_cons, List.filter_append, List.map_append,
        List.filter_map, List.map_map]
      congr 1
      split
      · rfl
      · rename_i h
        rw [exists_partner_iff, not_not] at h
        simp [Function.comp_def, h]

end Pairings

/-! ## Which column is whose -/

theorem keys_of_aliases (kind : JoinKind) {table : TableRef} {base : String}
    (hne : table.binding ≠ base) (a b : String) :
    keys ⟨kind, table, ⟨some base, a⟩, ⟨some table.binding, b⟩⟩ base =
      (⟨some base, a⟩, ⟨some table.binding, b⟩) :=
  if_neg fun h => hne (Option.some.inj h.1).symm

theorem keys_of_aliases_swapped (kind : JoinKind) (table : TableRef) (base a b : String) :
    keys ⟨kind, table, ⟨some table.binding, b⟩, ⟨some base, a⟩⟩ base =
      (⟨some base, a⟩, ⟨some table.binding, b⟩) :=
  if_pos ⟨rfl, rfl⟩

/-- With each side of `ON` qualified by its table, a join is the relation on the two columns, in
whichever order the sides are written.  A left join makes a row of each pairing, and an inner join
leaves out the pairings of one row, which are the base rows without a partner. -/
theorem rows_of_aliases (kind : JoinKind) {table : TableRef} {base : String}
    (hne : table.binding ≠ base) (a b : String) (left right : List Row) :
    rows ⟨kind, table, ⟨some base, a⟩, ⟨some table.binding, b⟩⟩ base left right =
        relational kind a b left right ∧
      rows ⟨kind, table, ⟨some table.binding, b⟩, ⟨some base, a⟩⟩ base left right =
        rows ⟨kind, table, ⟨some base, a⟩, ⟨some table.binding, b⟩⟩ base left right ∧
      rows ⟨.left, table, ⟨some base, a⟩, ⟨some table.binding, b⟩⟩ base left right =
        (pairings a b left right).map merged ∧
      rows ⟨.inner, table, ⟨some base, a⟩, ⟨some table.binding, b⟩⟩ base left right =
        ((pairings a b left right).filter (·.2.isSome)).map merged ∧
      ((pairings a b left right).filter (·.2.isNone)).map Prod.fst =
        left.filter (fun row => ∀ other ∈ right, ¬ ArePartners a b row other) ∧
      rows ⟨.inner, table, ⟨some base, a⟩, ⟨some table.binding, b⟩⟩ base left right =
        ((left ×ˢ right).filter fun p => ArePartners a b p.1 p.2).map fun p => p.1.merge p.2 := by
  have hrows : ∀ kind, rows ⟨kind, table, ⟨some base, a⟩, ⟨some table.binding, b⟩⟩ base left right =
      relational kind a b left right := fun kind => by
    rw [rows_eq_relational, keys_of_aliases kind hne]
  refine ⟨hrows kind, ?_, ?_, ?_, unmatched_pairings a b left right, ?_⟩
  · rw [hrows, rows_eq_relational, keys_of_aliases_swapped]
  · rw [hrows, relational_left]
  · rw [hrows, relational_inner]
  · rw [hrows, relational_inner_product]

/-- Buyers, of whom the first has two purchases, the second none and the third no number. -/
def buyers : List Row :=
  [.ofList [("id", .int 1), ("name", .text "Ann")], .ofList [("id", .int 2), ("name", .text "Bo")],
    .ofList [("id", .null), ("name", .text "Cy")]]

/-- Purchases with the number of a buyer, the first written as a text, and two without. -/
def purchases : List Row :=
  [.ofList [("id", .int 7), ("buyer_id", .text "1")],
    .ofList [("id", .int 8), ("buyer_id", .null)],
    .ofList [("id", .int 9), ("buyer_id", .int 1)], .ofList [("id", .int 2)]]

/-- The purchase's `id` wins, and the left join keeps the buyers without a purchase. -/
theorem rows_of_aliases_buyers :
    TableRef.binding ⟨"purchases", some "p"⟩ ≠ "b" ∧
      (rows ⟨.left, ⟨"purchases", some "p"⟩, ⟨some "p", "buyer_id"⟩, ⟨some "b", "id"⟩⟩ "b"
        buyers purchases).map (fun row => (row.get? "id", row.get? "name")) =
        [(some (.int 7), some (.text "Ann")), (some (.int 9), some (.text "Ann")),
          (some (.int 2), some (.text "Bo")), (some .null, some (.text "Cy"))] ∧
      rows ⟨.left, ⟨"purchases", some "p"⟩, ⟨some "p", "buyer_id"⟩, ⟨some "b", "id"⟩⟩ "b"
          buyers purchases =
        rows ⟨.left, ⟨"purchases", some "p"⟩, ⟨some "b", "id"⟩, ⟨some "p", "buyer_id"⟩⟩ "b"
          buyers purchases := by
  have hne : TableRef.binding ⟨"purchases", some "p"⟩ ≠ "b" := by decide
  obtain ⟨-, hswap, -⟩ := rows_of_aliases .left hne "id" "buyer_id" buyers purchases
  exact ⟨hne, by decide +kernel, hswap⟩

theorem keys_of_alias {j : JoinClause} {side other : Column} (base : String)
    (hside : side.table = some j.table.binding) (hother : other.table ≠ some j.table.binding)
    (hon : j.left = other ∧ j.right = side ∨ j.left = side ∧ j.right = other) :
    j.keys base =
      if j.right = side ∨ other.table = some base then (other, side) else (side, other) := by
  rcases hon with ⟨hleft, hright⟩ | ⟨hleft, hright⟩
  · rw [keys, hleft, hright, if_neg (fun h => hother h.1), if_pos (Or.inl rfl)]
  · have hne : other ≠ side := fun h => hother (h ▸ hside)
    rw [keys, hleft, hright]
    simp only [hside, hne, true_and, false_or]

end JoinClause

namespace Statement

open JoinClause

/-- With one side of `ON` qualified by the joined table, its column is the key of the joined rows if
it is written on the right, or if the other side is qualified by the base table.  Else the columns
change places. -/
theorem joinedRows_of_alias {s : Statement} {j : JoinClause} {d : Dataset} {right : List Row}
    {side other : Column} (hjoin : s.join? = some j) (hright : d.rowsOf j.table.name = .ok right)
    (hside : side.table = some j.table.binding) (hother : other.table ≠ some j.table.binding)
    (hon : j.left = other ∧ j.right = side ∨ j.left = side ∧ j.right = other) (left : List Row) :
    s.joinedRows d left = .ok (
      if j.right = side ∨ other.table = some s.table.binding then
        relational j.kind other.name side.name left right
      else relational j.kind side.name other.name left right) := by
  have hrows : s.joinedRows d left = .ok (j.rows s.table.binding left right) := by
    rw [joinedRows, hjoin]
    simp only [hright]
    rfl
  rw [hrows, rows_eq_relational, keys_of_alias s.table.binding hside hother hon]
  split <;> rfl

/-- Customers with their orders, where only the column of the orders is qualified. -/
def ordersOn (left right : Column) : Statement :=
  ⟨.wildcard, ⟨"customers", some "c"⟩, [.join ⟨.inner, ⟨"orders", some "o"⟩, left, right⟩]⟩

/-- Written on the right, the qualified column is read from the orders. -/
theorem joinedRows_of_alias_right :
    (ordersOn ⟨none, "id"⟩ ⟨some "o", "customer_id"⟩).joinedRows .sample Dataset.customers =
      .ok (relational .inner "id" "customer_id" Dataset.customers Dataset.orders) := by
  have hjoin : (ordersOn ⟨none, "id"⟩ ⟨some "o", "customer_id"⟩).join? =
      some ⟨.inner, ⟨"orders", some "o"⟩, ⟨none, "id"⟩, ⟨some "o", "customer_id"⟩⟩ := rfl
  have hright : Dataset.sample.rowsOf "orders" = .ok Dataset.orders := by decide +kernel
  have hside : Column.table ⟨some "o", "customer_id"⟩ = some "o" := rfl
  have hother : Column.table ⟨none, "id"⟩ ≠ some "o" := by decide
  exact joinedRows_of_alias hjoin hright hside hother (Or.inl ⟨rfl, rfl⟩) Dataset.customers

/-- Written on the left, it is looked for in the customers, and no row is found. -/
theorem joinedRows_alias_left :
    (ordersOn ⟨some "o", "customer_id"⟩ ⟨none, "id"⟩).joinedRows .sample Dataset.customers =
        .ok [] ∧
      (relational .inner "id" "customer_id" Dataset.customers Dataset.orders).length = 7 := by
  constructor <;> decide +kernel

end Statement

end AskTables
