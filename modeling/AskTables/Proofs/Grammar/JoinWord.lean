import AskTables.Proofs.Grammar.Print
import AskTables.Proofs.Grammar.Reject

/-!
# Words for joins the grammar does not have

Only left and inner joins are read.  `RIGHT`, `FULL`, `CROSS` and `NATURAL` are no keywords, and so
they are identifiers.  An identifier behind the base table is its second name.  The text
`FROM orders RIGHT JOIN customers ON ..` is therefore read, and what it asks for is an inner join
of `orders`, called `RIGHT`.  It is refused only where the table has a second name already.

A reserved keyword in that place is refused if no clause begins with it.
-/

namespace AskTables

open Grammar

namespace Grammar

/-- The words that ask for a join of a kind the grammar does not have. -/
inductive JoinWord where
  | right
  | full
  | cross
  | natural
deriving DecidableEq

namespace JoinWord

/-- The letters of the word in lower case. -/
def letters : JoinWord → List Char
  | .right => ['r', 'i', 'g', 'h', 't']
  | .full => ['f', 'u', 'l', 'l']
  | .cross => ['c', 'r', 'o', 's', 's']
  | .natural => ['n', 'a', 't', 'u', 'r', 'a', 'l']

/-- Whether a text is the word in some ASCII case. -/
def Spells (w : List Char) (k : JoinWord) : Prop := w.map Char.toLower = k.letters

theorem isAlpha_letters (k : JoinWord) : ∀ c ∈ k.letters, c.isAlpha := by
  have h : k.letters.all Char.isAlpha = true := by cases k <;> rfl
  exact List.all_eq_true.1 h

/-- None of these words is reserved. -/
theorem letters_ne_keyword (k : JoinWord) : ∀ l ∈ Keyword.reserved, k.letters ≠ l.letters := by
  cases k <;> decide

/-- Such a word is an identifier. -/
theorem Spells.isIdentifier {k : JoinWord} {w : List Char} (h : k.Spells w) : IsIdentifier w := by
  have halpha : ∀ c ∈ w, c.isAlpha := by
    intro c hc
    rw [← Text.isAlpha_toLower]
    exact k.isAlpha_letters _ (h ▸ List.mem_map_of_mem hc)
  refine ⟨?_, fun l hl he => k.letters_ne_keyword l hl (h.symm.trans he)⟩
  cases w with
  | nil => cases k <;> cases h
  | cons c rest =>
      refine ⟨c, rest, rfl, .inl (halpha c (by simp)), fun d hd => .inl ?_⟩
      simp [Char.isAlphanum, halpha d (by simp [hd])]

end JoinWord

end Grammar

namespace Statement

variable {s : Statement} {text : String}

/-- A text is a rendering of a statement with one more token behind its base table. -/
def RenderingBehind (s : Statement) (x : Token) (text : List Char) : Prop :=
  ∃ us full, HasClauseTokens s.clauses us ∧
    Writes (.keyword .select :: (s.select.tokens ++ .keyword .fromWord ::
      (s.table.tokens ++ x :: (us ++ endTokens full)))) text []

/-- A text with a token behind its table has a front up to the table. -/
theorem RenderingBehind.split {x : Token} {text : List Char} (h : s.RenderingBehind x text) :
    ∃ ts m, Writes (.keyword .select :: (s.select.tokens ++ .keyword .fromWord :: s.table.tokens))
      text m ∧ Writes (x :: ts) m [] := by
  obtain ⟨us, full, _, h⟩ := h
  have htokens : .keyword .select :: (s.select.tokens ++ .keyword .fromWord ::
      (s.table.tokens ++ x :: (us ++ endTokens full))) =
        .keyword .select :: (s.select.tokens ++ .keyword .fromWord :: s.table.tokens) ++
          x :: (us ++ endTokens full) := by simp
  rw [htokens] at h
  obtain ⟨m, hfront, hrest⟩ := h.split
  exact ⟨_, m, hfront, hrest⟩

theorem renderingBehind_print (s : Statement) (x : Token) :
    s.RenderingBehind x (print (.keyword .select :: (s.select.tokens ++ .keyword .fromWord ::
      (s.table.tokens ++ x :: (s.clauses.flatMap Clause.tokens ++ endTokens false))))) :=
  ⟨_, false, hasClauseTokens_flatMap s.clauses, writes_print _⟩

/-- A reserved keyword that begins no clause may not stand behind the base table. -/
theorem parse_keyword_behind (hs : s.WellFormed) {k : Keyword} (hk : k ∈ Keyword.reserved)
    (hno : k ∉ Reader.afterTable) (htext : s.RenderingBehind (.keyword k) text.toList) :
    ∃ e, Statement.parse text = .error e := by
  obtain ⟨ts, m, hfront, hrest⟩ := htext.split
  rw [← String.ofList_toList (s := text)]
  exact parse_of_read (Reader.statement_read_of_keyword hs.select hs.table hfront hrest hk hno)

/-- An identifier behind the base table is its second name. -/
theorem parse_name_behind (hs : s.WellFormed) (halias : s.table.aliasName = none) {name : String}
    (hname : IsIdentifier name.toList) (htext : s.RenderingBehind (.name name) text.toList) :
    Statement.parse text = .ok { s with table := ⟨s.table.name, some name⟩ } := by
  obtain ⟨us, full, hus, htext⟩ := htext
  have hwf : Statement.WellFormed { s with table := ⟨s.table.name, some name⟩ } :=
    ⟨hs.select, ⟨hs.table.name, fun a ha => Option.some.inj ha ▸ hname⟩, hs.clauses, hs.order⟩
  refine parse_of_rendering hwf ⟨_, ⟨us, full, hus, rfl⟩, ?_⟩
  simpa [TableRef.tokens, halias] using htext

/-- Behind a table with a second name, an identifier is refused. -/
theorem parse_name_behind_alias (hs : s.WellFormed) (halias : s.table.aliasName ≠ none)
    {name : String} (hname : IsIdentifier name.toList)
    (htext : s.RenderingBehind (.name name) text.toList) :
    ∃ e, Statement.parse text = .error e := by
  obtain ⟨ts, m, hfront, hrest⟩ := htext.split
  rw [← String.ofList_toList (s := text)]
  exact parse_of_read
    (Reader.statement_read_of_name hs.select hs.table halias hname hfront hrest)

/-- A text that asks for a join the grammar does not have is refused if the base table has a second
name.  Else it is read as an inner join, and the word as the second name. -/
theorem parse_joinWord {sel : Selection} {t u : TableRef} {left right : Column} {cs : List Clause}
    (hs : Statement.WellFormed ⟨sel, t, .join ⟨.inner, u, left, right⟩ :: cs⟩) {k : JoinWord}
    {word : String} (hword : k.Spells word.toList)
    (htext : RenderingBehind ⟨sel, t, .join ⟨.inner, u, left, right⟩ :: cs⟩ (.name word)
      text.toList) :
    ((∃ e, Statement.parse text = .error e) ↔ t.aliasName ≠ none) ∧
      (t.aliasName = none → Statement.parse text =
        .ok ⟨sel, ⟨t.name, some word⟩, .join ⟨.inner, u, left, right⟩ :: cs⟩) := by
  have hread : t.aliasName = none → Statement.parse text =
      .ok ⟨sel, ⟨t.name, some word⟩, .join ⟨.inner, u, left, right⟩ :: cs⟩ :=
    fun halias => parse_name_behind hs halias hword.isIdentifier htext
  refine ⟨⟨?_, ?_⟩, hread⟩
  · rintro ⟨e, he⟩ halias
    rw [hread halias] at he
    cases he
  · exact fun halias => parse_name_behind_alias hs halias hword.isIdentifier htext

/-- The orders with their customers, as an inner join. -/
def ordersJoined (aliasName : Option String) : Statement :=
  ⟨.wildcard, ⟨"orders", aliasName⟩,
    [.join ⟨.inner, ⟨"customers", none⟩, ⟨none, "customer_id"⟩, ⟨none, "id"⟩⟩]⟩

theorem parse_joinWord_natural :
    (∃ e, Statement.parse "SELECT * FROM orders o Natural JOIN customers ON customer_id = id" =
      .error e) ∧
    Statement.parse "SELECT * FROM orders Natural JOIN customers ON customer_id = id" =
      .ok (ordersJoined (some "Natural")) := by
  have hword : JoinWord.natural.Spells "Natural".toList := by
    unfold JoinWord.Spells
    decide
  have hnamed : (ordersJoined (some "o")).WellFormed := by decide +kernel
  have hbare : (ordersJoined none).WellFormed := by decide +kernel
  exact ⟨(parse_joinWord hnamed hword (renderingBehind_print _ _)).1.2 (by decide),
    (parse_joinWord hbare hword (renderingBehind_print _ _)).2 rfl⟩

/-- The words `RIGHT JOIN` stand in the text, and what is read is an inner join. -/
theorem parse_right_join :
    Statement.parse "SELECT * FROM orders RIGHT JOIN customers ON customer_id = id" =
      .ok (ordersJoined (some "RIGHT")) :=
  eq_ok_of_toOption (by decide +kernel)

end Statement

end AskTables
