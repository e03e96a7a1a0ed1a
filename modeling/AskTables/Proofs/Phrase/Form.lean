import AskTables.Phrase.Library
import AskTables.Proofs.Grammar.Print
import AskTables.Proofs.Pattern.Capture

/-!
# What the built-in rules ask for

Each built-in rule has a *form*: the statement it stands for, with a slot for the captures.  Most
forms have no slot, or one slot for the literal of a condition.  One form sorts a table by a column.

`Form.Gives f ws st` says that `ws` are captures as they fit the form and that `st` is its statement
for them.  `formOf?` lists the forms of the built-in rules by name.

A form also fixes the template of its rule and what the groups of the pattern look like.  Both are
checked once for all built-in rules (`fits_of_mem`), and from then on nothing needs to look at
a single rule.
-/

namespace AskTables

open Grammar

/-! ## Captured texts -/

/-- Letters, digits and underscores, at least one. -/
def IsWord (w : List Char) : Prop := w ≠ [] ∧ ∀ c ∈ w, isWordChar c

/-- Whether a word asks for the largest first. -/
def isDescending (word : String) : Bool := word.toLower = "desc" ∨ word.toLower = "descending"

/-! ## Forms -/

/-- A place for a captured text in a literal. -/
inductive Slot where
  /-- A quoted word. -/
  | word
  /-- A quoted word between percent signs. -/
  | part
  /-- A number. -/
  | number
deriving DecidableEq

namespace Slot

/-- The captured texts that fit. -/
def Fits : Slot → List Char → Prop
  | .word, w | .part, w => IsWord w
  | .number, w => IsDigits w

/-- The literal for a captured text. -/
def value : Slot → String → String
  | .word, w | .number, w => w
  | .part, w => "%" ++ w ++ "%"

/-- What stands before the captured text. -/
def before : Slot → String
  | .word => "'"
  | .part => "'%"
  | .number => ""

/-- What stands after the captured text. -/
def after : Slot → String
  | .word => "'"
  | .part => "%'"
  | .number => ""

/-- The token of the literal. -/
def token (s : Slot) (w : String) : Token :=
  match s with
  | .word | .part => .quoted (s.value w)
  | .number => .number w

/-- The set of the characters that fit. -/
def set : Slot → CharSet
  | .word | .part => .word
  | .number => .digit

end Slot

/-- What a rule asks for. -/
inductive Form where
  /-- Always the same statement. -/
  | fixed (st : Statement)
  /-- A statement with one more condition, whose literal is captured. -/
  | condition (st : Statement) (column : Column) (op : CompareOp) (slot : Slot)
  /-- All rows of a captured table, sorted by a captured column. -/
  | sorted
deriving DecidableEq

/-- All rows of a table. -/
def rowsOf (table : String) : Statement := ⟨.wildcard, ⟨table, none⟩, []⟩

/-- All rows of a table, sorted by a column. -/
def sortedRows (table column : String) (desc : Bool) : Statement :=
  (rowsOf table).add (.orderBy ⟨⟨none, column⟩, desc⟩)

/-- Some captures fit a form, and the form gives a statement for them. -/
def Form.Gives : Form → List String → Statement → Prop
  | .fixed st, ws, st' => ws = [] ∧ st' = st
  | .condition st column op slot, ws, st' =>
    ∃ w, ws = [w] ∧ slot.Fits w.toList ∧ st' = st.add (.filter ⟨column, op, slot.value w⟩)
  | .sorted, ws, st' =>
    ∃ table column direction, ws = [table, column, direction] ∧
      table.toLower ∈ ["customers", "orders"] ∧ IsName column.toList ∧
      direction.toLower ∈ ["", "ascending", "asc", "descending", "desc"] ∧
      st' = sortedRows table.toLower column.toLower (isDescending direction)

/-! ## The forms of the built-in rules -/

/-- The customers or orders that a condition holds of. -/
def Form.on (table column : String) (op : CompareOp) (slot : Slot) : Form :=
  .condition (rowsOf table) ⟨none, column⟩ op slot

/-- An aggregate over a table. -/
def Form.aggregate (fn : AggregateFn) (arg : AggregateArg) (aliasName table : String) : Form :=
  .fixed ⟨.items [.aggregate ⟨fn, arg, aliasName⟩], ⟨table, none⟩, []⟩

/-- Some items of the customers with their orders. -/
def withOrders (kind : JoinKind) (items : List SelectItem) (clauses : List Clause) : Statement :=
  ⟨.items items, ⟨"customers", some "c"⟩,
    .join ⟨kind, ⟨"orders", some "o"⟩, ⟨some "c", "id"⟩, ⟨some "o", "customer_id"⟩⟩ :: clauses⟩

/-- The form of a built-in rule. -/
def formOf? : String → Option Form
  | "customers_by_city_verb" | "customers_by_city" => some (.on "customers" "city" .eq .word)
  | "customers_older_verb" | "customers_older" => some (.on "customers" "age" .gt .number)
  | "customers_younger_verb" | "customers_younger" => some (.on "customers" "age" .lt .number)
  | "orders_above_verb" | "orders_above" => some (.on "orders" "amount" .gt .number)
  | "orders_below_verb" | "orders_below" => some (.on "orders" "amount" .lt .number)
  | "average_order_amount" =>
    some (.aggregate .avg (.column ⟨none, "amount"⟩) "average_order_amount" "orders")
  | "total_order_amount" =>
    some (.aggregate .sum (.column ⟨none, "amount"⟩) "total_order_amount" "orders")
  | "count_orders" => some (.aggregate .count .wildcard "total_orders" "orders")
  | "count_customers" => some (.aggregate .count .wildcard "total_customers" "customers")
  | "orders_per_customer" =>
    some (.fixed (withOrders .left
      [.column ⟨some "c", "name"⟩, .aggregate ⟨.count, .column ⟨some "o", "id"⟩, "total_orders"⟩]
      [.groupBy [⟨some "c", "id"⟩, ⟨some "c", "name"⟩]]))
  | "customers_with_orders" =>
    some (.fixed (withOrders .left
      [.column ⟨some "c", "name"⟩, .column ⟨some "c", "city"⟩, .column ⟨some "o", "product"⟩,
        .column ⟨some "o", "amount"⟩, .column ⟨some "o", "date"⟩] []))
  | "sorted_listing" => some .sorted
  | "orders_for_product" => some (.on "orders" "product" .like .part)
  | "customers_who_bought" =>
    some (.condition (withOrders .inner
      [.column ⟨some "c", "name"⟩, .column ⟨some "o", "product"⟩, .column ⟨some "o", "amount"⟩] [])
        ⟨some "o", "product"⟩ .like .part)
  | "all_customers" | "list_customers" => some (.fixed (rowsOf "customers"))
  | "all_orders" | "list_orders" => some (.fixed (rowsOf "orders"))
  | _ => none

/-! ## The rule of a form -/

namespace Form

/-- The text of a statement up to the literal of its last condition. -/
def front (st : Statement) (column : Column) (op : CompareOp) : List Char :=
  print (st.tokensBefore [.keyword .whereWord, .column column, op.token])

/-- The pattern has the groups 1 to `groups`, and a match passes the first `required` of them. -/
def HasGroups (r : Recognizer) (groups required : Nat) : Prop :=
  r.groups = groups ∧ r.pattern.groups = (List.range groups).map (· + 1) ∧
    ∀ i < required, r.pattern.requires (i + 1)

/-- The set of the first characters of names, as patterns write it. -/
def nameStart : CharSet := .ranges [('a', 'z'), ('_', '_')]

/-- The set of the other characters of names, as patterns write it. -/
def nameRest : CharSet := .ranges [('a', 'z'), ('0', '9'), ('_', '_')]

/-- A rule captures what fits a form, and its template writes the statement of the form. -/
def Suits : Form → Rule → Prop
  | .fixed st, r => HasGroups r.recognizer 0 0 ∧
      (Statement.parse (r.template.fill [])).toOption = some st ∧
      Text.trim (r.template.fill []) = r.template.fill []
  | .condition st column op slot, r => HasGroups r.recognizer 1 1 ∧
      r.recognizer.pattern.bodies 1 = [.plus (.char slot.set)] ∧
      r.template = Library.around (String.ofList (front st column op) ++ " " ++ slot.before)
        (slot.after ++ ";") ∧
      (st.add (.filter ⟨column, op, ""⟩)).WellFormed
  | .sorted, r => HasGroups r.recognizer 3 2 ∧
      (r.recognizer.pattern.bodies 1).map Pattern.words? =
        [some (["customers", "orders"].map String.toList)] ∧
      r.recognizer.pattern.bodies 2 = [.seq (.char nameStart) (.star (.char nameRest))] ∧
      (r.recognizer.pattern.bodies 3).map Pattern.words? =
        [some (["ascending", "asc", "descending", "desc"].map String.toList)] ∧
      r.template = .parts [.text "SELECT * FROM ", .lowered 0, .text " ORDER BY ", .lowered 1,
        .direction 2, .text ";"]

instance (r : Recognizer) (groups required : Nat) : Decidable (HasGroups r groups required) :=
  inferInstanceAs (Decidable (_ ∧ _ ∧ _))

instance : (f : Form) → (r : Rule) → Decidable (f.Suits r)
  | .fixed _, _ => inferInstanceAs (Decidable (_ ∧ _ ∧ _))
  | .condition .., _ => inferInstanceAs (Decidable (_ ∧ _ ∧ _ ∧ _))
  | .sorted, _ => inferInstanceAs (Decidable (_ ∧ _ ∧ _ ∧ _ ∧ _))

end Form

/-- A built-in rule has the name and the template of its entry. -/
theorem Library.exists_entry {r : Rule} (hr : r ∈ Library.builtin.rules) :
    ∃ source, (r.name, source, r.template) ∈ Library.builtinEntries := by
  obtain ⟨⟨name, source, template⟩, he, hparse⟩ := List.mem_filterMap.1 hr
  obtain ⟨rec, _, rfl⟩ := Option.map_eq_some_iff.1 hparse
  exact ⟨source, he⟩

/-- Every built-in rule suits its form. -/
theorem suits_of_mem {r : Rule} (hr : r ∈ Library.builtin.rules) :
    ∃ f, formOf? r.name = some f ∧ f.Suits r := by
  have h : ∀ r ∈ Library.builtin.rules, ∃ f ∈ formOf? r.name, f.Suits r := by
    decide +kernel
  exact h r hr

/-! ## What is captured fits -/

theorem isWord_of_word {w : List Char} (hne : w ≠ []) (h : ∀ c ∈ w, CharSet.word.accepts c) :
    IsWord w :=
  ⟨hne, fun c hc => CharSet.isWordChar_of_word (h c hc)⟩

theorem Slot.fits_of_spells {slot : Slot} {w : List Char}
    (h : (Pattern.plus (.char slot.set)).Spells w) : slot.Fits w := by
  obtain ⟨hne, hall⟩ := h.of_plus_char
  cases slot with
  | word => exact isWord_of_word hne hall
  | part => exact isWord_of_word hne hall
  | number => exact ⟨hne, fun c hc => CharSet.isDigit_of_digit (hall c hc)⟩

namespace Form

open Text

theorem isAlpha_of_nameStart {c : Char} (h : nameStart.accepts c) : c.isAlpha ∨ c = '_' := by
  have hcode := CharSet.code_of_accepts h
  simp only [List.mem_cons, List.not_mem_nil, or_false, exists_eq_or_imp, exists_eq_left,
    Char.reduceToNat] at hcode
  simp only [isAlpha_iff, eq_iff_toNat c '_', Char.reduceToNat]
  omega

theorem isAlphanum_of_nameRest {c : Char} (h : nameRest.accepts c) : c.isAlphanum ∨ c = '_' := by
  have hcode := CharSet.code_of_accepts h
  simp only [List.mem_cons, List.not_mem_nil, or_false, exists_eq_or_imp, exists_eq_left,
    Char.reduceToNat] at hcode
  simp only [Char.isAlphanum, Bool.or_eq_true, isAlpha_iff, isDigit_iff, eq_iff_toNat c '_',
    Char.reduceToNat]
  omega

/-- What is captured as a column is a name. -/
theorem isName_of_spells {w : List Char}
    (h : (Pattern.seq (.char nameStart) (.star (.char nameRest))).Spells w) : IsName w := by
  cases h with
  | seq hfirst hrest =>
      cases hfirst with
      | char hc =>
          exact ⟨_, _, rfl, isAlpha_of_nameStart hc, fun d hd =>
            isAlphanum_of_nameRest (hrest.of_star_char d hd)⟩

variable {r : Recognizer} {groups required : Nat} {s : List Char} {m : Marks}

theorem HasGroups.nodup (h : HasGroups r groups required) : r.pattern.groups.Nodup := by
  rw [h.2.1]
  exact List.Pairwise.map _ (fun i j hne hij => hne (Nat.succ.inj hij)) List.nodup_range

/-- A group that every match passes captures a text of its body. -/
theorem HasGroups.spells (h : HasGroups r groups required) (hm : r.pattern.search? s = some m)
    {i : Nat} (hi : i < required) :
    ∃ b ∈ r.pattern.bodies (i + 1), b.Spells (m.textOf s (i + 1)).toList := by
  rcases Pattern.textOf_of_search? hm h.nodup (i + 1) with ⟨hr, _⟩ | hb
  · rw [h.2.2 i hi] at hr
    cases hr
  · exact hb

/-- A text of a pattern with finitely many words is one of them in lower case. -/
theorem toLower_mem_of_spells {bs : List Pattern} {words : List String}
    (hbs : bs.map Pattern.words? = [some (words.map String.toList)]) {w : String}
    (h : ∃ b ∈ bs, b.Spells w.toList) : w.toLower ∈ words := by
  obtain ⟨b, hb, hw⟩ := h
  have hwords : b.words? = some (words.map String.toList) := by
    have hmem : b.words? ∈ bs.map Pattern.words? := List.mem_map_of_mem hb
    rw [hbs] at hmem
    exact List.mem_singleton.1 hmem
  obtain ⟨v, hv, he⟩ := List.mem_map.1 (hw.mem_words hwords)
  have hlower : w.toLower = v := by
    rw [← String.toList_inj, toList_toLower, he]
  rwa [hlower]

/-- What a rule captures fits its form. -/
theorem gives_of_recognize? {f : Form} {r : Rule} (hf : f.Suits r) {text : String}
    {ws : List String} (h : r.recognizer.recognize? text = some ws) : ∃ st, f.Gives ws st := by
  obtain ⟨m, hm, rfl⟩ := Option.map_eq_some_iff.1 h
  cases f with
  | fixed st =>
      obtain ⟨hg, _⟩ := hf
      exact ⟨st, by rw [hg.1]; rfl, rfl⟩
  | condition st column op slot =>
      obtain ⟨hg, hbody, _⟩ := hf
      obtain ⟨b, hb, hw⟩ := hg.spells hm (i := 0) (by decide)
      rw [hbody, List.mem_singleton] at hb
      subst hb
      exact ⟨_, _, by rw [hg.1]; rfl, Slot.fits_of_spells hw, rfl⟩
  | sorted =>
      obtain ⟨hg, htable, hcolumn, hdir, _⟩ := hf
      have h1 := toLower_mem_of_spells htable (hg.spells hm (i := 0) (by decide))
      obtain ⟨b, hb, h2⟩ := hg.spells hm (i := 1) (by decide)
      rw [hcolumn, List.mem_singleton] at hb
      subst hb
      refine ⟨_, _, _, _, by rw [hg.1]; rfl, h1, isName_of_spells h2, ?_, rfl⟩
      rcases Pattern.textOf_of_search? hm hg.nodup 3 with ⟨_, hempty⟩ | hb
      · have hlower : "".toLower = "" := by
          rw [← String.toList_inj, toList_toLower]
          rfl
        simp [hempty, hlower]
      · exact List.mem_cons_of_mem _ (toLower_mem_of_spells hdir hb)

end Form

end AskTables
