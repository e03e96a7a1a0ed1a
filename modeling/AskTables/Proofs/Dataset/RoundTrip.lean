import AskTables.Proofs.Dataset.Row
import AskTables.Proofs.Json.Float

/-!
# Rows written and read again

Rows that are written as JSON and loaded again keep their columns in order, and every empty cell,
integer and text.  A float stays a float, but it is the one that the reader makes of its digits.  So
the same rows come back exactly if every float in them does.
-/

namespace AskTables

open Json (NumberParts ReadsBack)

/-! ## Cells -/

namespace Cell

/-- The float of a cell that holds one. -/
def float? : Cell → Option Float
  | .float x => some x
  | _ => none

/-- The second cell is read where the first was written. -/
inductive RereadAs : Cell → Cell → Prop where
  | null : RereadAs .null .null
  | int (i : Int64) : RereadAs (.int i) (.int i)
  | text (s : String) : RereadAs (.text s) (.text s)
  | float {x y : Float} : Json.reread? x = some y → RereadAs (.float x) (.float y)

theorem readsBack_toJson (c : Cell) : ReadsBack c.toJson := by
  cases c with
  | null => exact Json.readsBack_null
  | int i => exact (NumberParts.numberCell?_toString i).2
  | text s => exact Json.readsBack_text s
  | float x =>
      rw [toJson]
      split
      · rename_i hx
        obtain ⟨p, hchars, hp, -⟩ := NumberParts.exists_parts hx
        rw [hchars]
        exact hp.readsBack
      · exact Json.readsBack_null

/-- A finite float is written as a number and read as whatever the reader makes of its digits. -/
theorem toCell?_float {x : Float} (hx : x.isFinite) :
    (toJson (.float x)).toCell? = (Json.reread? x).map .float := by
  obtain ⟨p, hchars, hp, hfloat, -⟩ := NumberParts.exists_parts hx
  rw [toJson, if_pos hx, Json.toCell?, Json.reread?, hchars, NumberParts.scan?_chars hp,
    NumberParts.numberCell?_of_isSome hp hfloat]
  rfl

/-- A cell comes back as a cell of its kind, and only a float may be another one. -/
theorem toCell?_toJson_iff {c d : Cell} (hc : ∀ x ∈ c.float?, x.isFinite) :
    c.toJson.toCell? = some d ↔ RereadAs c d := by
  cases c with
  | null =>
      constructor
      · rintro ⟨⟩
        exact .null
      · rintro ⟨⟩
        rfl
  | int i =>
      rw [toJson, Json.toCell?, (NumberParts.numberCell?_toString i).1]
      constructor
      · rintro ⟨⟩
        exact .int i
      · rintro ⟨⟩
        rfl
  | text s =>
      constructor
      · rintro ⟨⟩
        exact .text s
      · rintro ⟨⟩
        rfl
  | float x =>
      rw [toCell?_float (hc x rfl), Option.map_eq_some_iff]
      constructor
      · rintro ⟨y, hy, rfl⟩
        exact .float hy
      · intro h
        cases h with
        | float hy => exact ⟨_, hy, rfl⟩

/-- A cell comes back as itself unless it is a float that does not. -/
theorem rereadAs_self_iff {c : Cell} :
    RereadAs c c ↔ ∀ x ∈ c.float?, Json.reread? x = some x := by
  cases c with
  | null => exact iff_of_true .null nofun
  | int i => exact iff_of_true (.int i) nofun
  | text s => exact iff_of_true (.text s) nofun
  | float x =>
      constructor
      · intro h y hy
        cases hy
        cases h with
        | float hx => exact hx
      · exact fun h => .float (h x rfl)

end Cell

/-! ## Rows -/

namespace Row

/-- The floats of a row. -/
def floats (r : Row) : List Float := r.fields.filterMap fun f => f.2.float?

theorem mem_floats {r : Row} {x : Float} : x ∈ r.floats ↔ ∃ f ∈ r.fields, x ∈ f.2.float? :=
  List.mem_filterMap

/-- The second row is read where the first was written.  It has the same columns in the same
order. -/
def RereadAs (r s : Row) : Prop :=
  List.Forall₂ (fun f g => f.1 = g.1 ∧ Cell.RereadAs f.2 g.2) r.fields s.fields

/-- Fields come back under their names and in their order. -/
theorem ofMembers?_eq_some_iff {fields pairs : Fields}
    (h : ∀ f ∈ fields, ∀ x ∈ f.2.float?, x.isFinite) :
    Fields.ofMembers? (Json.named (fields.map fun f => (f.1, f.2.toJson))) = some pairs ↔
      List.Forall₂ (fun f g => f.1 = g.1 ∧ Cell.RereadAs f.2 g.2) fields pairs := by
  induction fields generalizing pairs with
  | nil =>
      rw [List.forall₂_nil_left_iff]
      constructor
      · rintro ⟨⟩
        rfl
      · rintro rfl
        rfl
  | cons f fields ih =>
      have hcell {d} := Cell.toCell?_toJson_iff (d := d) (h f (by simp))
      have hrest {pairs} := @ih pairs fun g hg => h g (by simp [hg])
      simp only [List.map_cons, Json.named_cons, Fields.ofMembers?, Option.bind_eq_bind,
        Option.bind_eq_some_iff, hcell, hrest, Option.pure_def, Option.some.injEq,
        List.forall₂_cons_left_iff]
      constructor
      · rintro ⟨d, hd, gs, hgs, rfl⟩
        exact ⟨(f.1, d), gs, ⟨rfl, hd⟩, hgs, rfl⟩
      · rintro ⟨⟨_, d⟩, gs, ⟨rfl, hd⟩, hgs, rfl⟩
        exact ⟨d, hd, gs, hgs, rfl⟩

/-- A row comes back cell by cell. -/
theorem ofJson?_toJson_iff {r s : Row} (h : ∀ x ∈ r.floats, x.isFinite) :
    ofJson? r.toJson = some s ↔ RereadAs r s := by
  change (Fields.ofMembers? (Json.named (r.fields.map fun f => (f.1, f.2.toJson)))).map ofList =
    some s ↔ _
  have hfields : ∀ f ∈ r.fields, ∀ x ∈ f.2.float?, x.isFinite :=
    fun f hf x hx => h x (mem_floats.2 ⟨f, hf, hx⟩)
  rw [Option.map_eq_some_iff]
  constructor
  · rintro ⟨pairs, hpairs, rfl⟩
    rw [ofMembers?_eq_some_iff hfields] at hpairs
    have hnames : pairs.names = r.fields.names := by
      rw [Fields.names, Fields.names, eq_comm]
      exact List.forall₂_eq_eq_eq ▸ List.forall₂_map_left_iff.2 (List.forall₂_map_right_iff.2
        (hpairs.imp fun _ _ hfg => hfg.1))
    rw [RereadAs, fields_ofList (hnames ▸ r.nodup)]
    exact hpairs
  · intro hs
    exact ⟨s.fields, (ofMembers?_eq_some_iff hfields).2 hs, eq_of_fields (fields_ofList s.nodup)⟩

/-- A row comes back as it is exactly if its floats do. -/
theorem rereadAs_self_iff {r : Row} :
    RereadAs r r ↔ ∀ x ∈ r.floats, Json.reread? x = some x := by
  rw [RereadAs, List.forall₂_same]
  simp only [true_and, Cell.rereadAs_self_iff, mem_floats]
  constructor
  · rintro h x ⟨f, hf, hx⟩
    exact h f hf x hx
  · intro h f hf x hx
    exact h x ⟨f, hf, hx⟩

theorem readsBack_toJson (r : Row) : ReadsBack r.toJson := by
  refine Json.readsBack_object fun m hm => ?_
  obtain ⟨f, -, rfl⟩ := List.mem_map.1 hm
  exact f.2.readsBack_toJson

end Row

/-! ## Tables -/

theorem Table.rowsOfJson?_eq_some_iff {rows rows' : List Row}
    (h : ∀ r ∈ rows, ∀ x ∈ r.floats, x.isFinite) :
    Table.rowsOfJson? (.array (rows.map Row.toJson)) = some rows' ↔
      List.Forall₂ Row.RereadAs rows rows' := by
  rw [Table.rowsOfJson?]
  induction rows generalizing rows' with
  | nil =>
      rw [List.forall₂_nil_left_iff]
      constructor
      · rintro ⟨⟩
        rfl
      · rintro rfl
        rfl
  | cons r rows ih =>
      have hrow {s} := Row.ofJson?_toJson_iff (s := s) (h r (by simp))
      have hrest {rows'} := @ih rows' fun g hg => h g (by simp [hg])
      simp only [List.map_cons, List.mapM_cons, Option.bind_eq_bind, Option.bind_eq_some_iff, hrow,
        hrest, Option.pure_def, Option.some.injEq, List.forall₂_cons_left_iff]
      constructor
      · rintro ⟨s, hs, rows', hrows', rfl⟩
        exact ⟨s, rows', hs, hrows', rfl⟩
      · rintro ⟨s, rows', hs, hrows', rfl⟩
        exact ⟨s, hs, rows', hrows', rfl⟩

namespace Dataset

/-- The text of an object whose only member is the table `t`, with white space before its rows. -/
def tableText (gap : String) (rows : List Row) : String :=
  "\x7b\"t\":" ++ gap ++ (Json.array (rows.map Row.toJson)).render ++ "\x7d"

/-- The text of a table is read as an object with the one member that holds the rows. -/
theorem parse?_tableText {gap : String} (hgap : ∀ c ∈ gap.toList, Json.isSpace c)
    (rows : List Row) :
    Json.parse? (tableText gap rows) =
      some (.object [(some "t", .array (rows.map Row.toJson))]) := by
  have hrows : ReadsBack (.array (rows.map Row.toJson)) := by
    refine Json.readsBack_array fun j hj => ?_
    obtain ⟨r, -, rfl⟩ := List.mem_map.1 hj
    exact r.readsBack_toJson
  refine Json.parse?_member hrows "t" hgap ?_
  rw [tableText, Json.render, show Json.renderString (some "t") = ['"', 't', '"'] by decide]
  simp only [String.toList_append, String.toList_ofList, List.append_assoc, List.cons_append,
    List.nil_append]
  rfl

/-- What is loaded is one table of the rows that come back. -/
theorem parse?_eq_some_iff {rows : List Row} (h : ∀ r ∈ rows, ∀ x ∈ r.floats, x.isFinite)
    {gap : String} (hgap : ∀ c ∈ gap.toList, Json.isSpace c) {d : Dataset} :
    parse? (tableText gap rows) = some d ↔
      ∃ rows', d = ⟨[⟨"t", rows'⟩]⟩ ∧ List.Forall₂ Row.RereadAs rows rows' := by
  have hload : parse? (tableText gap rows) =
      (Table.rowsOfJson? (.array (rows.map Row.toJson))).map fun rows' => ⟨[⟨"t", rows'⟩]⟩ := by
    rw [parse?, parse?_tableText hgap]
    change ((Table.rowsOfJson? (.array (rows.map Row.toJson))).bind fun rows' =>
      some [⟨"t", rows'⟩]).map ofList = _
    cases Table.rowsOfJson? (.array (rows.map Row.toJson)) <;> rfl
  rw [hload, Option.map_eq_some_iff]
  constructor
  · rintro ⟨rows', hrows', rfl⟩
    exact ⟨rows', rfl, (Table.rowsOfJson?_eq_some_iff h).1 hrows'⟩
  · rintro ⟨rows', rfl, hrows'⟩
    exact ⟨rows', (Table.rowsOfJson?_eq_some_iff h).2 hrows', rfl⟩

/-- The rows that come back from a JSON text are the rows that were written, with the same columns
and cells in order, but each float is the one that the reader makes of its digits.  So they are the
same rows exactly if every float comes back.  The digits are right, and a float that is written as a
short numeral comes back.  The whole numbers below a tenth of `2 ^ 53` with either sign, and so the
negative zero, are written as short numerals. -/
theorem parse?_table {rows : List Row} (hfinite : ∀ r ∈ rows, ∀ x ∈ r.floats, x.isFinite)
    {gap : String} (hgap : ∀ c ∈ gap.toList, Json.isSpace c) :
    (∀ d, parse? (tableText gap rows) = some d ↔
        ∃ rows', d = ⟨[⟨"t", rows'⟩]⟩ ∧ List.Forall₂ Row.RereadAs rows rows') ∧
      (parse? (tableText gap rows) = some ⟨[⟨"t", rows⟩]⟩ ↔
        ∀ r ∈ rows, ∀ x ∈ r.floats, Json.reread? x = some x) ∧
      ((∀ r ∈ rows, ∀ x ∈ r.floats, Json.WritesShort x) →
        parse? (tableText gap rows) = some ⟨[⟨"t", rows⟩]⟩) ∧
      (∀ x : Float, x.isFinite → Decimal.readFloat? (Decimal.compact.render x) = some x) ∧
      ∀ n : Nat, 10 * n < 2 ^ 53 →
        Json.WritesShort (UInt64.ofNat n).toFloat ∧
          Json.WritesShort (-(UInt64.ofNat n).toFloat) := by
  have hsame : parse? (tableText gap rows) = some ⟨[⟨"t", rows⟩]⟩ ↔
      ∀ r ∈ rows, ∀ x ∈ r.floats, Json.reread? x = some x := by
    rw [parse?_eq_some_iff hfinite hgap]
    constructor
    · rintro ⟨rows', ⟨⟩, hrows⟩ r hr
      exact Row.rereadAs_self_iff.1 (List.forall₂_same.1 hrows r hr)
    · intro h
      exact ⟨rows, rfl, List.forall₂_same.2 fun r hr => Row.rereadAs_self_iff.2 (h r hr)⟩
  refine ⟨fun d => parse?_eq_some_iff hfinite hgap, hsame, fun hshort => hsame.2 ?_,
    fun x => Json.readFloat?_render, fun n => Json.writesShort_toFloat⟩
  intro r hr x hx
  exact Json.reread?_of_writesShort (hfinite r hr x hx) (hshort r hr x hx)

/-- Rows with cells of all kinds: the least and the greatest integer, a text with a quote and a line
break, and floats that look like integers or have an exponent. -/
def variety : List Row :=
  [.ofList [("id", .int Int64.minValue), ("note", .text "a \"b\"\n"), ("score", .float (-0.0))],
    .ofList [("score", .float 1200.5), ("id", .int Int64.maxValue), ("a \"b\"", .null)],
    .ofList [("id", .int 3), ("score", .float 3.0), ("tiny", .float 1e-7)]]

theorem parse?_table_variety :
    (∀ r ∈ variety, ∀ x ∈ r.floats, x.isFinite) ∧ (∀ c ∈ " ".toList, Json.isSpace c) ∧
      parse? (tableText " " variety) = some ⟨[⟨"t", variety⟩]⟩ := by
  have hfinite : ∀ r ∈ variety, ∀ x ∈ r.floats, x.isFinite := by decide +kernel
  have hgap : ∀ c ∈ " ".toList, Json.isSpace c := by simp [Json.isSpace]
  exact ⟨hfinite, hgap, (parse?_table hfinite hgap).2.2.1 (by decide +kernel)⟩

/-- A float of sixteen digits comes back as its neighbour.  Its digits are right, but the reader
divides them by a power of ten when they are rounded already. -/
theorem parse?_table_neighbour :
    (∀ x ∈ (Row.ofList [("a", .float 9.020000000000001)]).floats,
        x.isFinite ∧ '.' ∈ Decimal.compact.render x ∧
          Decimal.readFloat? (Decimal.compact.render x) = some x) ∧
      parse? (tableText " " [.ofList [("a", .float 9.020000000000001)]]) =
        some ⟨[⟨"t", [.ofList [("a", .float 9.02)]]⟩]⟩ ∧
      parse? (tableText " " [.ofList [("a", .float 9.020000000000001)]]) ≠
        some ⟨[⟨"t", [.ofList [("a", .float 9.020000000000001)]]⟩]⟩ := by
  have hfloats : (Row.ofList [("a", .float 9.020000000000001)]).floats = [9.020000000000001] := rfl
  have hfinite : (9.020000000000001 : Float).isFinite := by decide +kernel
  have hread : Json.reread? 9.020000000000001 = some 9.02 := by decide +kernel
  have hneighbour : parse? (tableText " " [.ofList [("a", .float 9.020000000000001)]]) =
      some ⟨[⟨"t", [.ofList [("a", .float 9.02)]]⟩]⟩ := by
    refine (parse?_eq_some_iff ?_ (by simp [Json.isSpace])).2 ⟨_, rfl, .cons ?_ .nil⟩
    · simpa [hfloats] using hfinite
    · exact .cons ⟨rfl, .float hread⟩ .nil
  refine ⟨?_, hneighbour, ?_⟩
  · rw [hfloats]
    simp only [List.mem_singleton, forall_eq]
    exact ⟨hfinite, by decide +kernel, Json.readFloat?_render hfinite⟩
  · rw [hneighbour]
    decide +kernel

end Dataset

end AskTables
