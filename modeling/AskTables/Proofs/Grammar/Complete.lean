import AskTables.Proofs.Grammar.Reads

/-!
# What was written is read

Every rendering of a well-formed statement is read, and as that statement.  The phrases are taken
one by one, from selections up to whole statements.  For each it is said what may follow, and where
a phrase may be missing, that its reader fails on what stands in its place.

Together with `Reader.statement_sound` this settles which texts are read, and as what.
-/

namespace AskTables.Grammar

namespace Reader

variable {X : List Sign} {K : List Keyword}

/-! ## Selections -/

/-- No sign is read where a word begins. -/
theorem token_read_of_startsWord {s : List Char} (h : StartsWord s) (x : Sign) :
    (token x.char).read s = none := by
  obtain ⟨c, rest, rfl, hc⟩ := h
  refine if_neg ?_
  rintro rfl
  rw [x.isWordChar_char] at hc
  cases hc

/-- No sign stands where a word is written. -/
theorem token_read_of_isWord {t : Token} {ts : List Token} {s r : List Char} (ht : t.WellFormed)
    (hword : t.isWord) (h : Writes (t :: ts) s r) (x : Sign) :
    (token x.char).read (skipSpace s) = none :=
  token_read_of_startsWord (h.startsWord ht hword) x

/-- Another keyword than the one that is written is not read. -/
theorem keyword_read_of_ne {k l : Keyword} {ts : List Token} {s r : List Char}
    (h : Writes (.keyword l :: ts) s r) (hkl : k ≠ l) : (keyword k).read (skipSpace s) = none :=
  keyword_read_eq_none (X := []) (K := [l]) (.of_keyword h (by simp)) (by simpa using hkl)

theorem aggregateFn_reads (f : AggregateFn) : aggregateFn.Reads f [.keyword f.keyword] Any := by
  cases f with
  | avg => exact (((keyword_reads .avg).map _).orElse_left _).named _
  | sum =>
      refine (Reads.orElse_right (((keyword_reads .sum).map _).orElse_left _) ?_).named _
      intro s r h _
      simp only [map, keyword_read_of_ne h (show Keyword.avg ≠ .sum by decide), Option.map_none]
  | count =>
      refine (Reads.orElse_right (Reads.orElse_right ((keyword_reads .count).map _) ?_) ?_).named _
      · intro s r h _
        simp only [map, keyword_read_of_ne h (show Keyword.sum ≠ .count by decide), Option.map_none]
      · intro s r h _
        simp only [map, keyword_read_of_ne h (show Keyword.avg ≠ .count by decide), Option.map_none]

/-- An argument is a star or a column, and neither is taken for the other. -/
theorem aggregateArg_reads {a : AggregateArg} (ha : ∀ c, a = .column c → c.WellFormed) :
    aggregateArg.Reads a [a.token] (Next X K) := by
  cases a with
  | wildcard =>
      have h := ((token_reads .star).named .wildcard).map fun _ => AggregateArg.wildcard
      exact ((h.orElse_left _).named _).follow fun _ _ => trivial
  | column c =>
      refine (Reads.orElse_right ((column_reads (ha c rfl)).map _) ?_).named _
      intro s r h _
      have hno : (token '*').read (skipSpace s) = none :=
        token_read_of_isWord (t := .column c) (ha c rfl) rfl h .star
      simp only [map, wildcard, named, hno, Option.map_none]

theorem aggregate_reads {a : Aggregate} (ha : a.WellFormed) : aggregate.Reads a a.tokens Any := by
  have harg : aggregateArg.Reads a.arg [a.arg.token] (Next [.closing] []) :=
    aggregateArg_reads ha.arg
  have htail := ((harg.spacedLeft (token_reads .closing)
    fun _ _ h _ => .of_sign h (by simp)).spacedLeft (keyword_reads .asWord)
      fun _ _ _ _ => trivial).spaced (ident_reads ha.aliasName) fun _ _ _ _ => trivial
  have h := ((aggregateFn_reads a.fn).spacedLeft (token_reads .opening)
    fun _ _ _ _ => trivial).spaced htail fun _ _ _ _ => trivial
  exact (h.map _).named _

/-- The name of a function is the whole word at the front. -/
theorem aggregateFn_read_eq_some {s r : List Char} {f : AggregateFn}
    (h : aggregateFn.read s = some (f, r)) : r = s.dropWhile isWordChar := by
  have hkey : ∀ (k : Keyword) (g : AggregateFn),
      ((keyword k).map fun _ => g).read s = some (f, r) → r = s.dropWhile isWordChar := by
    intro k g h
    obtain ⟨⟨u, r'⟩, hk, he⟩ := Option.map_eq_some_iff.1 h
    cases he
    simp only [keyword, named, silent] at hk
    split at hk
    · cases hk
      rfl
    · cases hk
  simp only [aggregateFn, named, orElse] at h
  split at h
  · cases h
    exact hkey _ _ ‹_›
  · split at h
    · cases h
      exact hkey _ _ ‹_›
    · exact hkey _ _ h

/-- A column is no aggregate, also when it is called like a function, since no parenthesis follows
it. -/
theorem aggregate_read_column {c : Column} (hc : c.WellFormed) (hopen : Sign.opening ∉ X)
    {s r : List Char} (h : Writes [.column c] s r) (hr : Next X K r) :
    aggregate.read (skipSpace s) = none := by
  obtain ⟨table, name⟩ := c
  obtain ⟨w, m, hs, hw, hword, hrest⟩ := h.cons_inv (t := .column _) hc
  have hm : ¬ StartsWord m := hword rfl
  have hparen : (token '(').read (skipSpace ((skipSpace s).dropWhile isWordChar)) = none := by
    rw [hs, hw]
    cases table with
    | none =>
        rw [Column.text, (wordOf_append hc.name.all_isWordChar hm).2]
        exact token_read_eq_none (x := .opening) (Next.of_writes_nil hrest hr) hopen
    | some q =>
        have hstop : ¬ StartsWord ('.' :: (name.toList ++ m)) := by
          rintro ⟨d, rest, he, hd⟩
          cases he
          exact absurd hd (by decide)
        have htext : (Column.text ⟨some q, name⟩).toList ++ m =
            q.toList ++ '.' :: (name.toList ++ m) := by
          simp [Column.text]
        rw [htext, (wordOf_append (hc.table q rfl).all_isWordChar hstop).2]
        rfl
  have hfn : (aggregateFn.spacedLeft (token '(')).read (skipSpace s) = none := by
    simp only [spacedLeft, map, spaced, seq, afterSpace]
    split
    · rfl
    · rename_i f rest hf
      rw [aggregateFn_read_eq_some hf, hparen]
      rfl
  simp only [aggregate, named, map, spaced, seq, hfn, Option.map_none]

/-- An item is read as an aggregate first.  A column may be called like a function, so what follows
may be no bracket. -/
theorem selectItem_reads {i : SelectItem} (hi : i.WellFormed) (hopen : Sign.opening ∉ X) :
    selectItem.Reads i i.tokens (Next X K) := by
  cases i with
  | aggregate a =>
      exact ((((aggregate_reads hi).map _).orElse_left _).named _).follow fun _ _ => trivial
  | column c =>
      refine (Reads.orElse_right ((column_reads hi).map _) ?_).named _
      intro s r h hr
      simp only [map, aggregate_read_column hi hopen h hr, Option.map_none]

/-- No star stands where an entry of a selection is written. -/
theorem wildcard_read_item {i : SelectItem} (hi : i.WellFormed) {ts : List Token}
    {s r : List Char} (h : Writes (i.tokens ++ ts) s r) : wildcard.read (skipSpace s) = none := by
  cases i with
  | aggregate a => exact token_read_of_isWord (t := .keyword _) trivial rfl h .star
  | column c => exact token_read_of_isWord (t := .column c) hi rfl h .star

/-- A list of items goes on as long as there are commas, so none may follow. -/
theorem selection_reads {sel : Selection} (hsel : sel.WellFormed) (hopen : Sign.opening ∉ X)
    (hcomma : Sign.comma ∉ X) : selection.Reads sel sel.tokens (Next X K) := by
  cases sel with
  | wildcard =>
      have h := (((token_reads .star).named .wildcard).map fun _ => Selection.wildcard).orElse_left
        ((commaList selectItem).map Selection.items)
      exact (h.named _).follow fun _ _ => trivial
  | items list =>
      obtain ⟨hne, hall⟩ := hsel
      have hitems : (commaList selectItem).Reads list (commas (list.map SelectItem.tokens))
          (Next X K) :=
        .commaList hne (fun i hi => selectItem_reads (hall i hi) (by simp [hopen])) hcomma
      refine (Reads.orElse_right (hitems.map Selection.items) ?_).named _
      intro s r h _
      cases list with
      | nil => exact absurd rfl hne
      | cons i rest =>
          rw [List.map_cons, commas_cons] at h
          simp only [map, wildcard_read_item (hall i (by simp)) h, Option.map_none]

/-- A selection is read up to the keyword behind it. -/
theorem selectFrom_reads {sel : Selection} (hsel : sel.WellFormed) :
    ((keyword .select).spacedRight (selection.spacedLeft (keyword .fromWord))).Reads sel
      ([.keyword .select] ++ (sel.tokens ++ [.keyword .fromWord])) Any := by
  have hselection : selection.Reads sel sel.tokens (Next [] [.fromWord]) :=
    selection_reads hsel (by decide) (by decide)
  have hfrom := hselection.spacedLeft (keyword_reads .fromWord)
    fun _ _ h _ => .of_keyword h (by simp)
  exact (keyword_reads .select).spacedRight hfrom fun _ _ _ _ => trivial

/-! ## Tables and joins -/

/-- A table with a second name may be followed by anything. -/
theorem tableRef_reads_aliased {name a : String} (hname : IsIdentifier name.toList)
    (ha : IsIdentifier a.toList) :
    tableRef.Reads ⟨name, some a⟩ (TableRef.tokens ⟨name, some a⟩) Any := by
  have h := (ident_reads hname).spaced (ident_reads ha).optional_some fun _ _ _ _ => trivial
  exact (h.map _).named _

/-- A table may be followed by reserved keywords only, since any other word is its alias. -/
theorem tableRef_reads {t : TableRef} (ht : t.WellFormed) (hw : K ⊆ Keyword.reserved) :
    tableRef.Reads t t.tokens (Next X K) := by
  obtain ⟨name, aliasName⟩ := t
  cases aliasName with
  | none =>
      have h := (ident_reads ht.name).spaced (Reads.optional_none (p := ident)
        fun r (hr : Next X K r) => ident_read_eq_none hr hw) fun _ _ _ _ => trivial
      exact (h.map _).named _
  | some a =>
      exact (tableRef_reads_aliased ht.name (ht.aliasName a rfl)).follow fun _ _ => trivial

/-- A keyword that may be left out. -/
theorem optional_keyword_reads {k l : Keyword} (hkl : k ≠ l) (full : Bool) :
    (optional (keyword k)).Reads (if full then some () else none)
      (if full then [.keyword k] else []) (Next [] [l]) := by
  cases full with
  | true => exact (keyword_reads k).optional_some.follow fun _ _ => trivial
  | false => exact .optional_none fun r hr => keyword_read_eq_none hr (by simpa using hkl)

/-- The kind of a join is read off each of its spellings. -/
theorem joinKind_reads (k : JoinKind) (full : Bool) :
    joinKind.Reads k (k.tokens full) Any := by
  have hjoin : ∀ m r, Writes [.keyword .join] m r → Any r → Next [] [.join] m :=
    fun _ _ h _ => .of_keyword h (by simp)
  cases k with
  | left =>
      have h := ((keyword_reads .left).spaced (optional_keyword_reads (l := .join)
        (show Keyword.outer ≠ .join by decide) full) fun _ _ _ _ => trivial).spaced
          (keyword_reads .join) hjoin
      have h' := ((h.map fun _ => JoinKind.left).named .leftJoin).orElse_left innerJoin
      cases full <;> exact h'.named _
  | inner =>
      have h := (optional_keyword_reads (l := .join) (show Keyword.inner ≠ .join by decide)
        full).spaced (keyword_reads .join) hjoin
      have hno : ∀ s r, Writes (JoinKind.inner.tokens full) s r → Any r →
          leftJoin.read (skipSpace s) = none := by
        intro s r h _
        have hleft : (keyword .left).read (skipSpace s) = none := by
          cases full with
          | true => exact keyword_read_of_ne h (by decide)
          | false => exact keyword_read_of_ne h (by decide)
        simp only [leftJoin, named, map, spaced, seq, hleft, Option.map_none]
      have h' := Reads.orElse_right ((h.map fun _ => JoinKind.inner).named .innerJoin)
        (p := leftJoin)
      cases full <;> exact (h' hno).named _

/-- A join is read with its kind, its table and its two columns. -/
theorem joinClause_reads {j : JoinClause} (hj : (Clause.join j).WellFormed) {ts : List Token}
    (ht : j.HasTokens ts) : joinClause.Reads j ts (Next X K) := by
  obtain ⟨htable, hleft, hright⟩ := hj
  obtain ⟨full, rfl⟩ := ht
  have hpair := ((joinKind_reads j.kind full).spaced (tableRef_reads (X := [])
    (K := [.onWord]) htable (by decide)) fun _ _ _ _ => trivial).spacedLeft
      (keyword_reads .onWord) fun _ _ h _ => .of_keyword h (by simp)
  have hsides := ((column_reads (X := [.equal]) (K := []) hleft).spacedLeft
    (token_reads .equal) fun _ _ h _ => .of_sign h (by simp)).spaced
      (column_reads (X := X) (K := K) hright) fun _ _ _ _ => trivial
  have h := hpair.spaced hsides fun _ _ _ _ => trivial
  have htokens : j.kind.tokens full ++ (j.table.tokens ++
      [.keyword .onWord, .column j.left, .sign .equal, .column j.right]) =
        j.kind.tokens full ++ j.table.tokens ++ [.keyword .onWord] ++
          ([.column j.left] ++ [.sign .equal] ++ [.column j.right]) := by simp
  rw [htokens]
  exact (h.map _).named _

/-! ## Conditions, groupings and sorts -/

theorem compareOp_reads (o : CompareOp) : compareOp.Reads o [o.token] Any := by
  have hsign : ∀ {x y : Sign}, x ≠ y → ∀ s r, Writes [.sign y] s r → Any r →
      (token x.char).read (skipSpace s) = none := fun {x y} hxy s r h _ =>
    token_read_eq_none (X := [y]) (K := []) (.of_sign h (by simp)) (by simpa using hxy)
  have hlike : ∀ (x : Sign) s r, Writes [.keyword .like] s r → Any r →
      (token x.char).read (skipSpace s) = none := fun x s r h _ =>
    token_read_of_isWord (t := .keyword .like) trivial rfl h x
  have hmap : ∀ {x : Sign} {o : CompareOp} {s : List Char},
      (token x.char).read (skipSpace s) = none →
        ((token x.char).map fun _ => o).read (skipSpace s) = none := by
    intro x o s h
    simp only [map, h, Option.map_none]
  cases o with
  | eq => exact (((token_reads .equal).map _).orElse_left _).named _
  | gt =>
      exact (Reads.orElse_right (((token_reads .greater).map _).orElse_left _)
        fun s r h hr => hmap (hsign (x := .equal) (by decide) s r h hr)).named _
  | lt =>
      exact (Reads.orElse_right (Reads.orElse_right (((token_reads .less).map _).orElse_left _)
        fun s r h hr => hmap (hsign (x := .greater) (by decide) s r h hr))
          fun s r h hr => hmap (hsign (x := .equal) (by decide) s r h hr)).named _
  | like =>
      exact (Reads.orElse_right (Reads.orElse_right (Reads.orElse_right
        ((keyword_reads .like).map _) fun s r h hr => hmap (hlike .less s r h hr))
          fun s r h hr => hmap (hlike .greater s r h hr))
            fun s r h hr => hmap (hlike .equal s r h hr)).named _

/-- A comparison begins with its sign or with its keyword. -/
theorem next_compareOp {o : CompareOp} {ts : List Token} {s r : List Char}
    (h : Writes (o.token :: ts) s r) : Next [.equal, .greater, .less] [.like] s := by
  cases o with
  | eq => exact .of_sign h (by simp)
  | gt => exact .of_sign h (by simp)
  | lt => exact .of_sign h (by simp)
  | like => exact .of_keyword h (by simp)

/-- A condition is read whatever its literal is written as. -/
theorem whereClause_reads {c : Condition} (hc : (Clause.filter c).WellFormed) {ts : List Token}
    (ht : c.HasTokens ts) : whereClause.Reads c ts (Next X K) := by
  obtain ⟨hcolumn, hvalue⟩ := hc
  obtain ⟨value, hv, rfl⟩ := ht
  have hpair := (column_reads hcolumn).spaced (compareOp_reads c.op)
    fun _ _ h _ => next_compareOp h
  have h := (keyword_reads .whereWord).spacedRight (hpair.spaced (literal_reads (X := X)
    (K := K) hvalue hv) fun _ _ _ _ => trivial) fun _ _ _ _ => trivial
  exact (h.map _).named _

/-- Grouping columns go on as long as there are commas. -/
theorem groupByClause_reads {keys : List Column} (hk : (Clause.groupBy keys).WellFormed)
    (hcomma : Sign.comma ∉ X) :
    groupByClause.Reads keys (groupByTokens keys) (Next X K) := by
  have hkeys : (commaList column).Reads keys (commas (keys.map fun c => [.column c]))
      (Next X K) := .commaList hk.1 (fun c hc => column_reads (hk.2 c hc)) hcomma
  have h := ((keyword_reads .group).spaced (keyword_reads .byWord)
    fun _ _ _ _ => trivial).spacedRight hkeys fun _ _ _ _ => trivial
  exact h.named _

theorem sortDir_reads (desc : Bool) : sortDir.Reads desc (directionTokens desc true) Any := by
  cases desc with
  | false => exact (((keyword_reads .asc).map _).orElse_left _).named _
  | true =>
      refine (Reads.orElse_right ((keyword_reads .desc).map _) ?_).named _
      intro s r h _
      simp only [map, keyword_read_of_ne h (show Keyword.asc ≠ .desc by decide), Option.map_none]

/-- A direction that is not written is not read, unless its keyword may follow. -/
theorem sortDir_read_eq_none {s : List Char} (h : Next X K s) (hasc : Keyword.asc ∉ K)
    (hdesc : Keyword.desc ∉ K) : sortDir.read (skipSpace s) = none := by
  simp only [sortDir, named, orElse, map, keyword_read_eq_none h hasc, keyword_read_eq_none h hdesc,
    Option.map_none]

/-- A sort is read with or without its direction. -/
theorem orderByClause_reads {k : SortKey} (hk : (Clause.orderBy k).WellFormed) {ts : List Token}
    (ht : k.HasTokens ts) (hasc : Keyword.asc ∉ K) (hdesc : Keyword.desc ∉ K) :
    orderByClause.Reads k ts (Next X K) := by
  obtain ⟨full, rfl⟩ := ht
  obtain ⟨column, desc⟩ := k
  have hby := (keyword_reads .order).spaced (keyword_reads .byWord) fun _ _ _ _ => trivial
  have hshort := hby.spacedRight ((column_reads (c := column) hk).spaced (Reads.optional_none
    (p := sortDir) (N := Next X K) fun r hr => sortDir_read_eq_none hr hasc hdesc)
      fun _ _ h hr => .of_writes_nil h hr) fun _ _ _ _ => trivial
  have hfull := hby.spacedRight ((column_reads (X := []) (K := [.asc, .desc])
    (c := column) hk).spaced (sortDir_reads desc).optional_some
      fun _ _ h _ => (by cases desc <;> exact .of_keyword h (by simp))) fun _ _ _ _ => trivial
  cases desc with
  | true => exact ((hfull.map _).named _).follow fun _ _ => trivial
  | false =>
      cases full with
      | true => exact ((hfull.map _).named _).follow fun _ _ => trivial
      | false => exact (hshort.map _).named _

/-! ## Rows of clauses -/

end Reader

/-- The keywords a clause can begin with. -/
def headWords : Clause → List Keyword
  | .join _ => [.left, .inner, .join]
  | .filter _ => [.whereWord]
  | .groupBy _ => [.group]
  | .orderBy _ => [.order]

/-- A clause begins with one of its keywords. -/
theorem head_of_clause {c : Clause} {ts : List Token} (h : c.HasTokens ts) :
    ∃ k ∈ headWords c, ∃ us, ts = .keyword k :: us := by
  cases c with
  | join j =>
      obtain ⟨full, rfl⟩ := h
      obtain ⟨kind, table, left, right⟩ := j
      cases kind with
      | left =>
          cases full with
          | true => exact ⟨.left, by simp [headWords], _, rfl⟩
          | false => exact ⟨.left, by simp [headWords], _, rfl⟩
      | inner =>
          cases full with
          | true => exact ⟨.inner, by simp [headWords], _, rfl⟩
          | false => exact ⟨.join, by simp [headWords], _, rfl⟩
  | filter c =>
      obtain ⟨value, _, rfl⟩ := h
      exact ⟨.whereWord, by simp [headWords], _, rfl⟩
  | groupBy keys => exact ⟨.group, by simp [headWords], _, h⟩
  | orderBy k =>
      obtain ⟨full, rfl⟩ := h
      exact ⟨.order, by simp [headWords], _, rfl⟩

/-- A row of clauses begins with one of their keywords, or with what follows them. -/
theorem Next.of_clauses {X : List Sign} {K K' : List Keyword} {cs : List Clause}
    {ts : List Token} {s r : List Char} (h : HasClauseTokens cs ts)
    (hcs : ∀ c ∈ cs, headWords c ⊆ K) (hsub : K' ⊆ K) (hw : Writes ts s r)
    (hr : Next X K' r) : Next X K s := by
  cases h with
  | nil => exact (Next.of_writes_nil hw hr).mono (List.Subset.refl _) hsub
  | cons hc _ =>
      obtain ⟨k, hk, us, rfl⟩ := head_of_clause hc
      exact .of_keyword hw (hcs _ (by simp) hk)

theorem Next.skipSpace_eq_nil {s : List Char} (h : Next [] [] s) : skipSpace s = [] := by
  rcases h with h | ⟨_, hx, _⟩ | ⟨_, hk, _⟩
  · exact h
  · cases hx
  · cases hk

/-- A statement ends with a semicolon or with its text. -/
theorem Next.of_endTokens {full : Bool} {s r : List Char} (h : Writes (endTokens full) s r)
    (hr : Next [] [] r) : Next [.semicolon] [] s := by
  cases full with
  | true => exact .of_sign h (by simp)
  | false => exact (Next.of_writes_nil h hr).mono (by simp) (by simp)

/-- The tokens of some clauses can be parted where the clauses can. -/
theorem split_clauseTokens {cs ds : List Clause} {ts : List Token}
    (h : HasClauseTokens (cs ++ ds) ts) :
    ∃ us vs, HasClauseTokens cs us ∧ HasClauseTokens ds vs ∧ ts = us ++ vs := by
  induction cs generalizing ts with
  | nil => exact ⟨[], ts, .nil, h, rfl⟩
  | cons c cs ih =>
      cases h with
      | cons hc h =>
          obtain ⟨us, vs, hus, hvs, rfl⟩ := ih h
          exact ⟨_, vs, .cons hc hus, hvs, by simp⟩

/-- The clause of the lowest rank comes first, if there is one. -/
theorem first_clause {cs : List Clause} {n : Nat} (hord : cs.Pairwise fun c d => c.rank < d.rank)
    (hn : ∀ c ∈ cs, n ≤ c.rank) : ∃ (o : Option Clause) (rest : List Clause),
      cs = o.toList ++ rest ∧ (∀ c ∈ o, c.rank = n) ∧
        rest.Pairwise (fun c d => c.rank < d.rank) ∧ ∀ c ∈ rest, n + 1 ≤ c.rank := by
  cases cs with
  | nil => exact ⟨none, [], rfl, by simp, .nil, by simp⟩
  | cons c rest =>
      obtain ⟨hlt, hrest⟩ := List.pairwise_cons.1 hord
      have hc := hn c (by simp)
      by_cases he : c.rank = n
      · refine ⟨some c, rest, rfl, by simpa using he, hrest, ?_⟩
        intro d hd
        have := hlt d hd
        omega
      · refine ⟨none, c :: rest, rfl, by simp, hord, ?_⟩
        intro d hd
        rcases List.mem_cons.1 hd with rfl | hd
        · omega
        · have := hlt d hd
          omega

/-- Clauses in order are at most one of each kind. -/
theorem exists_options {cs : List Clause} (hord : cs.Pairwise fun c d => c.rank < d.rank) :
    ∃ (j : Option JoinClause) (w : Option Condition) (g : Option (List Column))
      (o : Option SortKey), cs = (j.map Clause.join).toList ++ ((w.map Clause.filter).toList ++
        ((g.map Clause.groupBy).toList ++ (o.map Clause.orderBy).toList)) := by
  obtain ⟨c0, cs1, rfl, h0, hord, hn⟩ := first_clause (n := 0) hord fun _ _ => Nat.zero_le _
  obtain ⟨c1, cs2, rfl, h1, hord, hn⟩ := first_clause hord hn
  obtain ⟨c2, cs3, rfl, h2, hord, hn⟩ := first_clause hord hn
  obtain ⟨c3, cs4, rfl, h3, hord, hn⟩ := first_clause hord hn
  have hnil : cs4 = [] := by
    cases cs4 with
    | nil => rfl
    | cons c rest =>
        have h := hn c (by simp)
        cases c <;> simp [Clause.rank] at h
  have hj : ∃ j : Option JoinClause, c0 = j.map Clause.join := by
    rcases c0 with _ | ⟨j | _ | _ | _⟩
    · exact ⟨none, rfl⟩
    · exact ⟨some j, rfl⟩
    all_goals exact absurd (h0 _ rfl) (by simp [Clause.rank])
  have hw : ∃ w : Option Condition, c1 = w.map Clause.filter := by
    rcases c1 with _ | ⟨_ | w | _ | _⟩
    · exact ⟨none, rfl⟩
    rotate_left
    · exact ⟨some w, rfl⟩
    all_goals exact absurd (h1 _ rfl) (by simp [Clause.rank])
  have hg : ∃ g : Option (List Column), c2 = g.map Clause.groupBy := by
    rcases c2 with _ | ⟨_ | _ | g | _⟩
    · exact ⟨none, rfl⟩
    rotate_left 2
    · exact ⟨some g, rfl⟩
    all_goals exact absurd (h2 _ rfl) (by simp [Clause.rank])
  have ho : ∃ o : Option SortKey, c3 = o.map Clause.orderBy := by
    rcases c3 with _ | ⟨_ | _ | _ | o⟩
    · exact ⟨none, rfl⟩
    rotate_left 3
    · exact ⟨some o, rfl⟩
    all_goals exact absurd (h3 _ rfl) (by simp [Clause.rank])
  obtain ⟨j, rfl⟩ := hj
  obtain ⟨w, rfl⟩ := hw
  obtain ⟨g, rfl⟩ := hg
  obtain ⟨o, rfl⟩ := ho
  exact ⟨j, w, g, o, by simp [hnil]⟩

namespace Reader

/-- A clause that may be missing is read, or nothing is read in its place. -/
theorem optional_clause_reads {α : Type} {p : Reader α} {f : α → Clause} {o : Option α}
    {ts : List Token} {N : List Char → Prop} (ht : HasClauseTokens (o.map f).toList ts)
    (hwf : ∀ c ∈ (o.map f).toList, c.WellFormed)
    (hread : ∀ x ts, (f x).WellFormed → (f x).HasTokens ts → p.Reads x ts N)
    (hstop : ∀ r, N r → p.read (skipSpace r) = none) : (optional p).Reads o ts N := by
  cases o with
  | none =>
      cases ht
      exact .optional_none hstop
  | some x =>
      cases ht with
      | cons hx hnil =>
          cases hnil
          rw [List.append_nil]
          exact (hread x _ (hwf _ (by simp)) hx).optional_some

theorem joinClause_read_eq_none {s : List Char} (hleft : (keyword .left).read (skipSpace s) = none)
    (hinner : (keyword .inner).read (skipSpace s) = none)
    (hjoin : (keyword .join).read (skipSpace s) = none) :
    joinClause.read (skipSpace s) = none := by
  have hkind : joinKind.read (skipSpace s) = none := by
    simp only [joinKind, named, orElse, leftJoin, innerJoin, map, spaced, seq, afterSpace, optional,
      hleft, hinner, hjoin, Option.map_none, skipSpace_skipSpace]
  simp only [joinClause, named, map, spaced, spacedLeft, seq, hkind, Option.map_none]

theorem whereClause_read_eq_none {s : List Char}
    (h : (keyword .whereWord).read (skipSpace s) = none) :
    whereClause.read (skipSpace s) = none := by
  simp only [whereClause, named, map, spacedRight, spaced, seq, h, Option.map_none]

theorem groupByClause_read_eq_none {s : List Char}
    (h : (keyword .group).read (skipSpace s) = none) :
    groupByClause.read (skipSpace s) = none := by
  simp only [groupByClause, named, map, spacedRight, spaced, seq, h, Option.map_none]

theorem orderByClause_read_eq_none {s : List Char}
    (h : (keyword .order).read (skipSpace s) = none) :
    orderByClause.read (skipSpace s) = none := by
  simp only [orderByClause, named, map, spacedRight, spaced, seq, h, Option.map_none]

/-- The clauses of a statement are read, whether or not a semicolon follows. -/
theorem clauses_reads {cs : List Clause} (hwf : ∀ c ∈ cs, c.WellFormed)
    (hord : cs.Pairwise fun c d => c.rank < d.rank) {ts : List Token} (ht : HasClauseTokens cs ts) :
    clauses.Reads cs ts (Next [.semicolon] []) := by
  obtain ⟨j, w, g, o, rfl⟩ := exists_options hord
  obtain ⟨tj, _, hj, hrest, rfl⟩ := split_clauseTokens ht
  obtain ⟨tw, _, hw, hrest', rfl⟩ := split_clauseTokens hrest
  obtain ⟨tg, tk, hg, ho, rfl⟩ := split_clauseTokens hrest'
  simp only [List.mem_append] at hwf
  have hreadj : (optional joinClause).Reads j tj (Next [.semicolon] [.whereWord, .group, .order]) :=
    optional_clause_reads hj (fun c hc => hwf c (.inl hc))
      (fun x ts hx ht => joinClause_reads hx ht)
      fun r hr => joinClause_read_eq_none (keyword_read_eq_none hr (by decide))
        (keyword_read_eq_none hr (by decide)) (keyword_read_eq_none hr (by decide))
  have hreadw : (optional whereClause).Reads w tw (Next [.semicolon] [.group, .order]) :=
    optional_clause_reads hw (fun c hc => hwf c (.inr (.inl hc)))
      (fun x ts hx ht => whereClause_reads hx ht)
      fun r hr => whereClause_read_eq_none (keyword_read_eq_none hr (by decide))
  have hreadg : (optional groupByClause).Reads g tg (Next [.semicolon] [.order]) :=
    optional_clause_reads hg (fun c hc => hwf c (.inr (.inr (.inl hc))))
      (fun x ts hx ht => by subst ht; exact groupByClause_reads hx (by decide))
      fun r hr => groupByClause_read_eq_none (keyword_read_eq_none hr (by decide))
  have hreado : (optional orderByClause).Reads o tk (Next [.semicolon] []) :=
    optional_clause_reads ho (fun c hc => hwf c (.inr (.inr (.inr hc))))
      (fun x ts hx ht => orderByClause_reads hx ht (by decide) (by decide))
      fun r hr => orderByClause_read_eq_none (keyword_read_eq_none hr (by decide))
  have h := ((hreadj.spaced hreadw
    fun _ _ => .of_clauses hw (by simp [headWords]) (by simp)).spaced hreadg
      fun _ _ => .of_clauses hg (by simp [headWords]) (by simp)).spaced hreado
        fun _ _ => .of_clauses ho (by simp [headWords]) (by simp)
  have hclauses := h.map fun r => (r.1.1.1.map Clause.join).toList ++
    (r.1.1.2.map Clause.filter).toList ++ (r.1.2.map Clause.groupBy).toList ++
      (r.2.map Clause.orderBy).toList
  simpa only [clauses, List.append_assoc] using hclauses

/-- The words that can follow the base table. -/
def afterTable : List Keyword := [.left, .inner, .join, .whereWord, .group, .order]

/-- Clauses begin with keywords that may follow a table. -/
theorem headWords_subset_afterTable (c : Clause) : headWords c ⊆ afterTable := by
  cases c <;> simp [headWords, afterTable]

/-- At the end of a text, a semicolon may be left out. -/
theorem optional_semicolon_reads (full : Bool) :
    (optional (token ';')).Reads (if full then some () else none) (endTokens full)
      (Next [] []) := by
  cases full with
  | true => exact (token_reads .semicolon).optional_some.follow fun _ _ => trivial
  | false =>
      exact .optional_none fun r hr => token_read_eq_none (x := .semicolon) hr (by simp)

theorem endOfText_reads : endOfText.Reads () [] (Next [] []) := by
  intro s r h hr
  refine ⟨[], ?_, hr.skipSpace_eq_nil.symm⟩
  rw [h.skipSpace_eq, hr.skipSpace_eq_nil]
  rfl

/-- A rendering is read to its end. -/
theorem statement_reads {st : Statement} (hwf : st.WellFormed) {text : List Char}
    (h : st.Rendering text) : ∃ r, statement.read text = some (st, r) := by
  obtain ⟨ts, ⟨us, full, hus, rfl⟩, hw⟩ := h
  have hbody := (tableRef_reads (X := [.semicolon]) (K := afterTable) hwf.table
    (by decide)).spaced (clauses_reads hwf.clauses hwf.order hus)
      fun _ _ => .of_clauses hus (fun c _ => headWords_subset_afterTable c) (by simp)
  have hend := (optional_semicolon_reads full).spaced endOfText_reads fun _ _ => .of_writes_nil
  rw [List.append_nil] at hend
  have hall := ((selectFrom_reads hwf.select).spaced hbody fun _ _ _ _ => trivial).spacedLeft hend
    fun _ _ => Next.of_endTokens
  have htokens : .keyword .select :: (st.select.tokens ++ .keyword .fromWord ::
      (st.table.tokens ++ (us ++ endTokens full))) =
        [.keyword .select] ++ (st.select.tokens ++ [.keyword .fromWord]) ++
          (st.table.tokens ++ us) ++ endTokens full := by simp
  rw [htokens] at hw
  obtain ⟨r', h, _⟩ := hall text [] hw .nil
  exact ⟨r', by simp only [statement, named, map, afterSpace, h, Option.map_some]⟩

/-! ## The whole text -/

theorem rest_of_map {α β : Type} {p : Reader α} {f : α → β} {s r : List Char} {y : β}
    (h : (p.map f).read s = some (y, r)) : ∃ x, p.read s = some (x, r) := by
  obtain ⟨⟨x, r'⟩, hx, he⟩ := Option.map_eq_some_iff.1 h
  cases he
  exact ⟨x, hx⟩

theorem rest_of_spaced {α β : Type} {p : Reader α} {q : Reader β} {s r : List Char} {xy : α × β}
    (h : (p.spaced q).read s = some (xy, r)) : ∃ m y, q.read m = some (y, r) := by
  simp only [spaced, seq] at h
  split at h
  · cases h
  · rename_i x m _
    obtain ⟨y, hy⟩ := rest_of_map (p := q.afterSpace) (f := fun y => (x, y)) h
    exact ⟨skipSpace m, y, hy⟩

/-- A statement takes the whole text. -/
theorem rest_of_statement {s r : List Char} {st : Statement}
    (h : statement.read s = some (st, r)) : r = [] := by
  simp only [statement, named] at h
  obtain ⟨_, h⟩ := rest_of_map h
  simp only [afterSpace, spacedLeft] at h
  obtain ⟨_, h⟩ := rest_of_map h
  obtain ⟨_, _, h⟩ := rest_of_spaced h
  obtain ⟨_, _, h⟩ := rest_of_spaced h
  exact (endOfText_read_eq_some h).2

end Reader

end AskTables.Grammar

namespace AskTables

open Grammar

namespace Statement

variable {text : String} {st : Statement}

/-- What a text is read as is well formed, and the text renders it. -/
theorem rendering_of_parse (h : Statement.parse text = .ok st) :
    st.WellFormed ∧ st.Rendering text.toList := by
  unfold Statement.parse Statement.parseChars at h
  split at h
  · rename_i st' r hread
    cases h
    obtain ⟨ts, ⟨hwf, hts⟩, hw⟩ := Reader.statement_sound.written hread
    rw [Reader.rest_of_statement hread] at hw
    exact ⟨hwf, ts, hts, hw⟩
  · cases h

/-- A rendering of a well-formed statement is read as that statement. -/
theorem parse_of_rendering (hwf : st.WellFormed) (hr : st.Rendering text.toList) :
    Statement.parse text = .ok st := by
  obtain ⟨r, h⟩ := Reader.statement_reads hwf hr
  unfold Statement.parse Statement.parseChars
  rw [h]

/-- A text is read as a statement exactly if the statement is well formed and the text renders it.
So each text renders at most one well-formed statement. -/
theorem parse_eq_ok_iff (text : String) (st : Statement) :
    Statement.parse text = .ok st ↔ st.WellFormed ∧ st.Rendering text.toList := by
  constructor
  · exact rendering_of_parse
  · rintro ⟨hwf, hr⟩
    exact parse_of_rendering hwf hr

end Statement

end AskTables
