import AskTables.Proofs.Grammar.Reject
import AskTables.Proofs.Phrase.Form

/-!
# Captures stay in their slot

The text that a built-in rule makes is read as the statement of its form: whatever was captured
stands in the one literal or in the names it is meant for, and everything else is as the form says.

A captured word has no quote that could end its literal, and a captured number nothing but digits.
A captured column may be a reserved keyword, and then the text is no statement at all.

`Library.Wins` says which rule makes the text: one that recognises the question, while none before
it does.
-/

namespace AskTables

open Grammar

/-! ## Literals -/

theorem not_quote_of_isWordChar {w : List Char} (h : ∀ c ∈ w, isWordChar c) : '\'' ∉ w :=
  fun hq => absurd (h '\'' hq) (by decide)

namespace Slot

variable {slot : Slot} {w : String}

/-- No captured text ends its literal. -/
theorem Fits.not_quote (h : slot.Fits w.toList) : '\'' ∉ (slot.value w).toList := by
  cases slot with
  | word => exact not_quote_of_isWordChar h.2
  | part =>
      have hw := not_quote_of_isWordChar h.2
      simpa [value] using hw
  | number => exact fun hq => absurd (h.2 '\'' hq) (by decide)

/-- A word that fits a slot is a literal there, quoted or a number. -/
theorem Fits.isLiteral (h : slot.Fits w.toList) : IsLiteral (slot.value w) (slot.token w) := by
  cases slot with
  | word => exact .inl rfl
  | part => exact .inl rfl
  | number => exact .inr ⟨rfl, [], w.toList, [], by simp [value], .inl rfl, h, .inl rfl⟩

end Slot

namespace Form

/-- The literal of the last condition may be any other one. -/
theorem wellFormed_add_filter {st : Statement} {column : Column} {op : CompareOp} {v v' : String}
    (h : (st.add (.filter ⟨column, op, v⟩)).WellFormed) (hv : '\'' ∉ v'.toList) :
    (st.add (.filter ⟨column, op, v'⟩)).WellFormed := by
  refine ⟨h.select, h.table, ?_, ?_⟩
  · intro c hc
    rcases List.mem_append.1 hc with hc | hc
    · exact h.clauses c (List.mem_append_left _ hc)
    · cases List.mem_singleton.1 hc
      have hlast := h.clauses (.filter ⟨column, op, v⟩) (by simp [Statement.add])
      exact ⟨hlast.1, hv⟩
  · obtain ⟨hst, _, hlast⟩ := List.pairwise_append.1 h.order
    refine List.pairwise_append.2 ⟨hst, List.pairwise_singleton _ _, ?_⟩
    intro c hc d hd
    cases List.mem_singleton.1 hd
    exact hlast c hc (.filter ⟨column, op, v⟩) (by simp)

/-- A condition is printed with its literal where the word of the slot stands. -/
theorem print_condition (st : Statement) (column : Column) (op : CompareOp) (slot : Slot)
    (w : String) :
    print (st.tokensBefore [.keyword .whereWord, .column column, op.token, slot.token w] ++
        [.sign .semicolon]) =
      front st column op ++
        ' ' :: (slot.before.toList ++ (w.toList ++ (slot.after.toList ++ [';']))) := by
  have htokens : st.tokensBefore [.keyword .whereWord, .column column, op.token, slot.token w] ++
      [.sign .semicolon] = st.tokensBefore [.keyword .whereWord, .column column] ++ [op.token] ++
        [slot.token w, .sign .semicolon] := by
    simp [← Statement.tokensBefore_append]
  have hfront : front st column op =
      print (st.tokensBefore [.keyword .whereWord, .column column] ++ [op.token]) := by
    rw [front, ← Statement.tokensBefore_append]
    rfl
  rw [htokens, print_concat_append, ← hfront]
  cases slot <;> cases op <;>
    simp [printAfter, gapBetween, Slot.token, Token.hugs, Token.text, CompareOp.token, Slot.value,
      Slot.before, Slot.after, Sign.char]

/-- What a template with one slot makes of a captured text. -/
theorem fill_condition {st : Statement} {column : Column} {op : CompareOp} {slot : Slot} {r : Rule}
    (hf : (condition st column op slot).Suits r) (w : String) :
    r.template.fill [w] = String.ofList (front st column op ++
      ' ' :: (slot.before.toList ++ (w.toList ++ (slot.after.toList ++ [';'])))) := by
  obtain ⟨_, _, htemplate, _⟩ := hf
  rw [htemplate]
  simp [← String.toList_inj, Library.around, Template.fill, Part.fill, captureAt]

/-- A captured text is read as the literal of its condition. -/
theorem parse_condition {st : Statement} {column : Column} {op : CompareOp} {slot : Slot} {r : Rule}
    (hf : (condition st column op slot).Suits r) {w : String} (hw : slot.Fits w.toList) :
    Statement.parse (r.template.fill [w]) =
      .ok (st.add (.filter ⟨column, op, slot.value w⟩)) := by
  have hwf := wellFormed_add_filter hf.2.2.2 hw.not_quote
  have htokens : (Clause.filter ⟨column, op, slot.value w⟩).HasTokens
      [.keyword .whereWord, .column column, op.token, slot.token w] := ⟨_, hw.isLiteral, rfl⟩
  have hprint := Statement.parse_print hwf (st.hasTokens_add htokens)
  rwa [print_condition, ← fill_condition hf] at hprint

/-! ## Sorted tables -/

/-- The tokens of a sorted table. -/
def sortedTokens (table column : String) (desc full : Bool) : List Token :=
  (rowsOf table).tokensBefore
      (.keyword .order :: .keyword .byWord :: .column ⟨none, column⟩ :: directionTokens desc full) ++
    [.sign .semicolon]

/-- The text of a sorted table. -/
def sortedText (table column direction : List Char) : List Char :=
  "SELECT * FROM ".toList ++ (table ++ (" ORDER BY ".toList ++ (column ++ (direction ++ [';']))))

/-- The template of a sorted listing puts the table and the column in lower case. -/
theorem fill_sorted {r : Rule} (hf : sorted.Suits r) (table column direction : String) :
    r.template.fill [table, column, direction] = String.ofList (sortedText table.toLower.toList
      column.toLower.toList (directionText direction).toList) := by
  obtain ⟨_, _, _, _, htemplate⟩ := hf
  rw [htemplate]
  unfold sortedText
  simp [← String.toList_inj, Template.fill, Part.fill, captureAt]

/-- A sorted listing is printed in the text that the template makes. -/
theorem print_sortedTokens (table column : String) (desc full : Bool) :
    print (sortedTokens table column desc full) = sortedText table.toList column.toList
      (if desc then " DESC" else if full then " ASC" else "").toList := by
  unfold sortedTokens sortedText
  cases desc <;> cases full <;>
    simp [rowsOf, Statement.tokensBefore, print, printAfter, gapBetween,
      Token.hugs, Token.text, Keyword.text, Sign.char, directionTokens, Column.text,
      Selection.tokens, TableRef.tokens]

/-- A direction is written by its keyword, or by nothing. -/
theorem directionText_eq {direction : String}
    (h : direction.toLower ∈ ["", "ascending", "asc", "descending", "desc"]) :
    ∃ full : Bool, directionText direction =
      if isDescending direction then " DESC" else if full then " ASC" else "" := by
  simp only [List.mem_cons, List.not_mem_nil, or_false] at h
  rcases h with h | h | h | h | h
  · exact ⟨false, by simp [directionText, isDescending, h]⟩
  · exact ⟨true, by simp [directionText, isDescending, h]⟩
  · exact ⟨true, by simp [directionText, isDescending, h]⟩
  · exact ⟨false, by simp [directionText, isDescending, h]⟩
  · exact ⟨false, by simp [directionText, isDescending, h]⟩

theorem isIdentifier_of_mem {table : String} (h : table ∈ ["customers", "orders"]) :
    IsIdentifier table.toList := by
  rw [← isIdentifier_iff]
  revert table
  decide

theorem wellFormed_rowsOf {table : String} (h : table ∈ ["customers", "orders"]) :
    (rowsOf table).table.WellFormed :=
  ⟨isIdentifier_of_mem h, by simp [rowsOf]⟩

/-- A table is read as sorted by a column, if the column can be named. -/
theorem parse_sortedText {table column direction : String}
    (htable : table ∈ ["customers", "orders"]) (hcolumn : IsIdentifier column.toList)
    (hdir : direction.toLower ∈ ["", "ascending", "asc", "descending", "desc"]) :
    Statement.parse (String.ofList (sortedText table.toList column.toList
        (directionText direction).toList)) =
      .ok (sortedRows table column (isDescending direction)) := by
  obtain ⟨full, hfull⟩ := directionText_eq hdir
  have hwf : (sortedRows table column (isDescending direction)).WellFormed := by
    refine ⟨trivial, wellFormed_rowsOf htable, ?_, List.pairwise_singleton _ _⟩
    intro c hc
    cases List.mem_singleton.1 hc
    exact ⟨by simp, hcolumn⟩
  have htokens : (Clause.orderBy ⟨⟨none, column⟩, isDescending direction⟩).HasTokens
      (.keyword .order :: .keyword .byWord :: .column ⟨none, column⟩ ::
        directionTokens (isDescending direction) full) := ⟨full, rfl⟩
  have hprint := Statement.parse_print hwf ((rowsOf table).hasTokens_add htokens)
  rw [hfull, ← print_sortedTokens]
  exact hprint

/-- What stands behind the column goes on with no word. -/
theorem not_startsWord_of_directionText {direction : String}
    (h : direction.toLower ∈ ["", "ascending", "asc", "descending", "desc"]) :
    ¬ StartsWord ((directionText direction).toList ++ [';']) := by
  obtain ⟨full, hfull⟩ := directionText_eq h
  rintro ⟨c, rest, he, hc⟩
  rw [hfull] at he
  cases hd : isDescending direction <;> cases full <;> simp [hd] at he <;>
    exact absurd (he.1 ▸ hc) (by decide)

/-- A table is not read as sorted by a reserved keyword. -/
theorem parse_sortedText_of_isReserved {table column direction : String}
    (htable : table ∈ ["customers", "orders"]) (hname : IsName column.toList)
    (hcolumn : isReserved column.toList = true)
    (hdir : direction.toLower ∈ ["", "ascending", "asc", "descending", "desc"]) :
    ∃ e, Statement.parse (String.ofList (sortedText table.toList column.toList
      (directionText direction).toList)) = .error e := by
  have hblank : ∀ s, ¬ StartsWord (' ' :: s) := by
    rintro s ⟨c, rest, he, hc⟩
    cases he
    exact absurd hc (by decide)
  have hgap : IsGap [' '] := isGap_gapBetween (.sign .star) (.sign .star)
  -- The text in three parts: up to the table, the words `ORDER BY`, and the rest.
  let rest := (directionText direction).toList ++ [';']
  have htext : sortedText table.toList column.toList (directionText direction).toList =
      print (.keyword .select :: (Selection.wildcard.tokens ++ .keyword .fromWord ::
          (rowsOf table).table.tokens)) ++
        ([' '] ++ (print [.keyword .order, .keyword .byWord] ++
          ([' '] ++ (column.toList ++ rest)))) := by
    unfold sortedText
    simp [rowsOf, Selection.tokens, TableRef.tokens, print, printAfter, gapBetween, Token.hugs,
      Token.text, Keyword.text, Sign.char, rest]
  have hby : Writes [.keyword .order, .keyword .byWord]
      ([' '] ++ (print [.keyword .order, .keyword .byWord] ++ ([' '] ++ (column.toList ++ rest))))
      ([' '] ++ (column.toList ++ rest)) :=
    Writes.gap hgap (writes_print_append _ (hblank _))
  have hword : skipSpace ([' '] ++ (column.toList ++ rest)) = column.toList ++ rest := by
    obtain ⟨c, tail, he, hc⟩ := head_of_isWordChar hname.ne_nil hname.all_isWordChar
    rw [skipSpace_gap hgap, he]
    exact skipSpace_cons (isSpace_of_isWordChar hc)
  have hcol : Reader.column.read (skipSpace ([' '] ++ (column.toList ++ rest))) = none := by
    rw [hword]
    refine Reader.column_read_of_isReserved ?_
    rwa [(wordOf_append hname.all_isWordChar (not_startsWord_of_directionText hdir)).1]
  rw [htext]
  have hstart := writes_print_append (.keyword .select :: (Selection.wildcard.tokens ++
    .keyword .fromWord :: (rowsOf table).table.tokens)) (hblank (print [.keyword .order,
      .keyword .byWord] ++ ([' '] ++ (column.toList ++ rest))))
  have hsel : Selection.wildcard.WellFormed := trivial
  exact Statement.parse_of_read (Reader.statement_read_of_column hsel
    (wellFormed_rowsOf htable) hstart hby hcol)

/-! ## What a rule makes -/

/-- The statement of a form sorts by a reserved keyword. -/
def Reserved (f : Form) (ws : List String) : Prop :=
  f = .sorted ∧ isReserved (captureAt ws 1).toList = true

theorem isName_map_toLower {w : List Char} (h : IsName w) : IsName (w.map Char.toLower) := by
  obtain ⟨c, rest, rfl, hc, hrest⟩ := h
  refine ⟨c.toLower, rest.map Char.toLower, rfl, ?_, ?_⟩
  · rcases hc with hc | rfl
    · exact .inl (by rw [Text.isAlpha_toLower, hc])
    · exact .inr rfl
  · intro d hd
    obtain ⟨e, he, rfl⟩ := List.mem_map.1 hd
    rcases hrest e he with he | rfl
    · exact .inl (by
        rwa [Char.isAlphanum, Text.isAlpha_toLower, Text.isDigit_toLower])
    · exact .inr rfl

/-- Whether a word is reserved does not depend on its case. -/
theorem isReserved_map_toLower (w : List Char) :
    isReserved (w.map Char.toLower) = isReserved w := by
  have hmap : (w.map Char.toLower).map Char.toLower = w.map Char.toLower := by simp
  simp only [isReserved, Keyword.spells, hmap]

theorem isIdentifier_of_isName {w : List Char} (h : IsName w) (hno : isReserved w = false) :
    IsIdentifier w := by
  refine ⟨h, fun k hk he => ?_⟩
  rw [isReserved, List.any_eq_false] at hno
  exact hno k hk (by simpa [Keyword.spells] using he)

/-- What a rule makes of captures that fit is read as the statement of its form, unless that
statement sorts by a reserved keyword. -/
theorem parse_fill {f : Form} {r : Rule} (hf : f.Suits r) {ws : List String} {st : Statement}
    (h : f.Gives ws st) (hno : ¬ f.Reserved ws) :
    Statement.parse (r.template.fill ws) = .ok st := by
  cases f with
  | fixed st' =>
      obtain ⟨rfl, rfl⟩ := h
      exact eq_ok_of_toOption hf.2.1
  | condition st' column op slot =>
      obtain ⟨w, rfl, hw, rfl⟩ := h
      exact parse_condition hf hw
  | sorted =>
      obtain ⟨table, column, direction, rfl, htable, hcolumn, hdir, rfl⟩ := h
      have hid : IsIdentifier column.toLower.toList := by
        rw [Text.toList_toLower]
        refine isIdentifier_of_isName (isName_map_toLower hcolumn) ?_
        rw [isReserved_map_toLower]
        exact Bool.eq_false_iff.2 fun hres => hno ⟨rfl, hres⟩
      rw [fill_sorted hf]
      exact parse_sortedText htable hid hdir

/-- A sorted listing by a reserved word is no statement. -/
theorem parse_fill_of_reserved {f : Form} {r : Rule} (hf : f.Suits r) {ws : List String}
    {st : Statement} (h : f.Gives ws st) (hres : f.Reserved ws) :
    ∃ e, Statement.parse (r.template.fill ws) = .error e := by
  obtain ⟨rfl, hres⟩ := hres
  obtain ⟨table, column, direction, rfl, htable, hcolumn, hdir, _⟩ := h
  rw [fill_sorted hf]
  refine parse_sortedText_of_isReserved htable ?_ ?_ hdir
  · rw [Text.toList_toLower]
    exact isName_map_toLower hcolumn
  · rw [Text.toList_toLower, isReserved_map_toLower]
    exact hres

end Form

/-! ## The rule that wins -/

namespace Library

/-- A rule recognises a question with some captures, and no rule before it does. -/
def Wins (l : Library) (text : String) (r : Rule) (ws : List String) : Prop :=
  ∃ before after, l.rules = before ++ r :: after ∧
    (∀ b ∈ before, b.recognizer.recognize? (Text.trim text) = none) ∧
      r.recognizer.recognize? (Text.trim text) = some ws

theorem Wins.mem {l : Library} {text : String} {r : Rule} {ws : List String}
    (h : l.Wins text r ws) : r ∈ l.rules := by
  obtain ⟨before, after, hl, _⟩ := h
  rw [hl]
  simp

/-- The rule that wins recognises the question. -/
theorem Wins.recognizes {l : Library} {text : String} {r : Rule} {ws : List String}
    (h : l.Wins text r ws) : r.recognizer.recognize? (Text.trim text) = some ws := by
  obtain ⟨_, _, _, _, hws⟩ := h
  exact hws

/-- The rule that wins makes the interpretation. -/
theorem interpret_eq_ok_iff {l : Library} {text : String} {t : Interpretation} :
    l.interpret text = .ok t ↔
      ∃ r ws, l.Wins text r ws ∧ t = ⟨r.name, r.template.fill ws⟩ := by
  unfold interpret Wins
  constructor
  · intro h
    simp only [] at h
    split at h
    · rename_i t' hfind
      cases h
      obtain ⟨before, r, after, hl, hr, hbefore⟩ := List.findSome?_eq_some_iff.1 hfind
      obtain ⟨sql, hsql, rfl⟩ := Option.map_eq_some_iff.1 hr
      obtain ⟨ws, hws, rfl⟩ := Option.map_eq_some_iff.1 hsql
      refine ⟨r, ws, ⟨before, after, hl, fun b hb => ?_, hws⟩, rfl⟩
      simpa [Rule.interpret?] using hbefore b hb
    · cases h
  · rintro ⟨r, ws, ⟨before, after, hl, hbefore, hws⟩, rfl⟩
    have hfind : (l.rules.findSome? fun r => (r.interpret? (Text.trim text)).map
        (Interpretation.mk r.name)) = some ⟨r.name, r.template.fill ws⟩ := by
      refine List.findSome?_eq_some_iff.2 ⟨before, r, after, hl, ?_, fun b hb => ?_⟩
      · rw [Rule.interpret?, hws]
        rfl
      · rw [Rule.interpret?, hbefore b hb]
        rfl
    simp only [hfind]

/-- No captured text changes the shape of a statement.  If the text made for a question is a
statement at all, then it is the one that the form of the winning rule gives for the captures. -/
theorem gives_of_interpret {text : String} {t : Interpretation} {st : Statement}
    (ht : builtin.interpret text = .ok t) (hst : Statement.parse t.sql = .ok st) :
    ∃ r ws f, builtin.Wins text r ws ∧ t = ⟨r.name, r.template.fill ws⟩ ∧
      formOf? r.name = some f ∧ f.Gives ws st := by
  obtain ⟨r, ws, hwins, rfl⟩ := interpret_eq_ok_iff.1 ht
  obtain ⟨f, hf, hs⟩ := suits_of_mem hwins.mem
  obtain ⟨st', hgives⟩ := Form.gives_of_recognize? hs hwins.recognizes
  have hno : ¬ f.Reserved ws := by
    intro hres
    obtain ⟨e, he⟩ := Form.parse_fill_of_reserved hs hgives hres
    rw [he] at hst
    cases hst
  rw [Form.parse_fill hs hgives hno] at hst
  cases hst
  exact ⟨r, ws, f, hwins, rfl, hf, hgives⟩

theorem gives_of_interpret_city :
    builtin.interpret "List customers in Rome" =
        .ok ⟨"customers_by_city_verb", "SELECT * FROM customers WHERE city = 'Rome';"⟩ ∧
      Statement.parse "SELECT * FROM customers WHERE city = 'Rome';" =
        .ok ((rowsOf "customers").add (.filter ⟨⟨none, "city"⟩, .eq, "Rome"⟩)) ∧
      ∃ r ws f, builtin.Wins "List customers in Rome" r ws ∧
        ⟨"customers_by_city_verb", "SELECT * FROM customers WHERE city = 'Rome';"⟩ =
          Interpretation.mk r.name (r.template.fill ws) ∧
        formOf? r.name = some f ∧
        f.Gives ws ((rowsOf "customers").add (.filter ⟨⟨none, "city"⟩, .eq, "Rome"⟩)) := by
  have ht : builtin.interpret "List customers in Rome" =
      .ok ⟨"customers_by_city_verb", "SELECT * FROM customers WHERE city = 'Rome';"⟩ :=
    eq_ok_of_toOption (by decide +kernel)
  have hst : Statement.parse "SELECT * FROM customers WHERE city = 'Rome';" =
      .ok ((rowsOf "customers").add (.filter ⟨⟨none, "city"⟩, .eq, "Rome"⟩)) :=
    eq_ok_of_toOption (by decide +kernel)
  exact ⟨ht, hst, gives_of_interpret ht hst⟩

end Library

end AskTables
