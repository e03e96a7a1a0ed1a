import AskTables.Proofs.Grammar.Complete

/-!
# Texts that are no statement

Readers never go back, so a text is refused as soon as what follows the base table is neither a
clause nor the end.  `statement_read_eq_none` says so once; three kinds of text come under it.

* A sort that names no column: after the words `ORDER BY` only a column can follow.
* A reserved keyword that begins no clause, in the place of a second name or of a clause.
* A name behind a table that has its second name already.
-/

namespace AskTables.Grammar.Reader

/-! ## No clause and no end -/

/-- Where no clause can be read, none is. -/
theorem clauses_reads_nil {m : List Char} (hjoin : joinClause.read (skipSpace m) = none)
    (hwhere : whereClause.read (skipSpace m) = none)
    (hgroup : groupByClause.read (skipSpace m) = none)
    (horder : orderByClause.read (skipSpace m) = none) :
    clauses.Reads [] [] (skipSpace · = skipSpace m) := by
  have hnone : ∀ {α : Type} {p : Reader α}, p.read (skipSpace m) = none →
      (optional p).Reads none [] (skipSpace · = skipSpace m) := fun h =>
    .optional_none fun r hr => by rw [hr]; exact h
  have hspace : ∀ s r, Writes [] s r → skipSpace r = skipSpace m → skipSpace s = skipSpace m :=
    fun _ _ h hr => h.skipSpace_eq.trans hr
  exact ((((hnone hjoin).spaced (hnone hwhere) hspace).spaced (hnone hgroup) hspace).spaced
    (hnone horder) hspace).map _

/-- A text does not end at a word. -/
theorem end_read_of_startsWord {s : List Char} (h : StartsWord (skipSpace s)) :
    ((optional (token ';')).spaced endOfText).read (skipSpace s) = none := by
  have hsemi : (token ';').read (skipSpace s) = none := token_read_of_startsWord h .semicolon
  have hstop : endOfText.read (skipSpace s) = none := by
    obtain ⟨c, rest, hs, _⟩ := h
    rw [hs]
    rfl
  simp only [spaced, seq, optional, hsemi, afterSpace, skipSpace_skipSpace, hstop, Option.map_none]

section
variable {sel : Selection} {t : TableRef} {text m : List Char}

/-- A text is no statement if a word stands behind its base table and no clause is read there. -/
theorem statement_read_eq_none (hsel : sel.WellFormed)
    (htext : Writes (.keyword .select :: (sel.tokens ++ .keyword .fromWord :: t.tokens)) text m)
    (htable : tableRef.Reads t t.tokens (skipSpace · = skipSpace m))
    (hclauses : clauses.Reads [] [] (skipSpace · = skipSpace m))
    (hword : StartsWord (skipSpace m)) : statement.read text = none := by
  have hbody := htable.spaced hclauses fun _ _ h hr => h.skipSpace_eq.trans hr
  have hall := (selectFrom_reads hsel).spaced hbody fun _ _ _ _ => trivial
  have htokens : .keyword .select :: (sel.tokens ++ .keyword .fromWord :: t.tokens) =
      [.keyword .select] ++ (sel.tokens ++ [.keyword .fromWord]) ++ (t.tokens ++ []) := by simp
  rw [htokens] at htext
  obtain ⟨r, hread, he⟩ := hall text m htext rfl
  have hend := end_read_of_startsWord hword
  simp only [statement, named, map, afterSpace, spacedLeft, spaced, seq] at hread hend ⊢
  simp only [hread, he, hend, Option.map_none]

/-! ## A sort that names no column -/

/-- A reserved keyword is no column. -/
theorem column_read_of_isReserved {s : List Char} (h : isReserved (wordOf s) = true) :
    column.read s = none := by
  have hident : ident.read s = none := if_neg (by simp [isIdentifier, h])
  rw [column_read, hident]

/-- A sort without a column is not read. -/
theorem orderByClause_read_of_column {s r : List Char}
    (h : Writes [.keyword .order, .keyword .byWord] s r)
    (hcolumn : column.read (skipSpace r) = none) : orderByClause.read (skipSpace s) = none := by
  have hby := (keyword_reads .order).spaced (keyword_reads .byWord) fun _ _ _ _ => trivial
  obtain ⟨r', hread, he⟩ := hby s r h trivial
  simp only [orderByClause, named, map, spacedRight, spaced, seq, afterSpace] at hread ⊢
  rw [hread]
  simp only [he, hcolumn, Option.map_none]

/-- A table is read before a reserved keyword. -/
theorem tableRef_reads_before (ht : t.WellFormed) {k : Keyword} {ts : List Token} {r : List Char}
    (hk : k ∈ Keyword.reserved) (hm : Writes (.keyword k :: ts) m r) :
    tableRef.Reads t t.tokens (skipSpace · = skipSpace m) := by
  have hnext : Next [] [k] m := .of_keyword hm (by simp)
  exact (tableRef_reads ht (by simpa using hk)).follow fun _ hr => .of_skipSpace_eq hr hnext

/-- A text that sorts by something that is no column is no statement. -/
theorem statement_read_of_column (hsel : sel.WellFormed) (ht : t.WellFormed) {r : List Char}
    (htext : Writes (.keyword .select :: (sel.tokens ++ .keyword .fromWord :: t.tokens)) text m)
    (hm : Writes [.keyword .order, .keyword .byWord] m r)
    (hcolumn : column.read (skipSpace r) = none) : statement.read text = none := by
  have hne : ∀ k, k ≠ .order → (keyword k).read (skipSpace m) = none :=
    fun _ h => keyword_read_of_ne hm h
  refine statement_read_eq_none hsel htext (tableRef_reads_before ht (by decide) hm)
    (clauses_reads_nil ?_ ?_ ?_ ?_) (hm.startsWord (t := .keyword .order) trivial rfl)
  · exact joinClause_read_eq_none (hne _ (by decide)) (hne _ (by decide)) (hne _ (by decide))
  · exact whereClause_read_eq_none (hne _ (by decide))
  · exact groupByClause_read_eq_none (hne _ (by decide))
  · exact orderByClause_read_of_column hm hcolumn

/-! ## A word that begins no clause -/

/-- Where no clause begins, none is read. -/
theorem clauses_reads_nil_of_keywords
    (h : ∀ k ∈ afterTable, (keyword k).read (skipSpace m) = none) :
    clauses.Reads [] [] (skipSpace · = skipSpace m) := by
  refine clauses_reads_nil ?_ ?_ ?_ ?_
  · exact joinClause_read_eq_none (h _ (by decide)) (h _ (by decide)) (h _ (by decide))
  · exact whereClause_read_eq_none (h _ (by decide))
  · exact groupByClause_read_eq_none (h _ (by decide))
  · exact orderByClause_read_eq_none (h _ (by decide))

/-- A reserved keyword that begins no clause may not stand behind the base table. -/
theorem statement_read_of_keyword (hsel : sel.WellFormed) (ht : t.WellFormed) {k : Keyword}
    {ts : List Token} {r : List Char}
    (htext : Writes (.keyword .select :: (sel.tokens ++ .keyword .fromWord :: t.tokens)) text m)
    (hm : Writes (.keyword k :: ts) m r) (hk : k ∈ Keyword.reserved) (hno : k ∉ afterTable) :
    statement.read text = none := by
  refine statement_read_eq_none hsel htext (tableRef_reads_before ht hk hm)
    (clauses_reads_nil_of_keywords fun l hl => ?_)
    (hm.startsWord (t := .keyword k) trivial rfl)
  refine keyword_read_of_ne hm ?_
  rintro rfl
  exact hno hl

/-- No reserved keyword is read where a name is written. -/
theorem keyword_read_of_name {name : String} (hname : IsIdentifier name.toList) {ts : List Token}
    {s r : List Char} (h : Writes (.name name :: ts) s r) {k : Keyword}
    (hk : k ∈ Keyword.reserved) : (keyword k).read (skipSpace s) = none := by
  obtain ⟨w, s', hs, rfl, hstop, _⟩ := h.cons_inv (t := .name name) hname
  refine if_neg fun hspells => ?_
  rw [hs, (wordOf_append hname.all_isWordChar (hstop rfl)).1] at hspells
  exact hname.2 k hk (by simpa [Keyword.spells] using hspells)

/-- A name may not stand behind a table that has its second name already. -/
theorem statement_read_of_name (hsel : sel.WellFormed) (ht : t.WellFormed)
    (halias : t.aliasName ≠ none) {name : String} (hname : IsIdentifier name.toList)
    {ts : List Token} {r : List Char}
    (htext : Writes (.keyword .select :: (sel.tokens ++ .keyword .fromWord :: t.tokens)) text m)
    (hm : Writes (.name name :: ts) m r) : statement.read text = none := by
  obtain ⟨table, _ | a⟩ := t
  · exact absurd rfl halias
  · refine statement_read_eq_none hsel htext
      ((tableRef_reads_aliased ht.name (ht.aliasName a rfl)).follow fun _ _ => trivial)
      (clauses_reads_nil_of_keywords fun k hk => ?_)
      (hm.startsWord (t := .name name) hname rfl)
    have hreserved : afterTable ⊆ Keyword.reserved := by decide
    exact keyword_read_of_name hname hm (hreserved hk)

end

end AskTables.Grammar.Reader

namespace AskTables

theorem Statement.parse_of_read {s : List Char} (h : Grammar.Reader.statement.read s = none) :
    ∃ e, Statement.parse (String.ofList s) = .error e := by
  refine ⟨.ofAttempts s (Grammar.Reader.statement.trace s (.start s)), ?_⟩
  rw [Statement.parse, Statement.parseChars, String.toList_ofList, h]

end AskTables
