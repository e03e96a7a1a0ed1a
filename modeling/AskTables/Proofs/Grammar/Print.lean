import AskTables.Proofs.Grammar.Complete

/-!
# Printing statements

Every list of tokens can be written, with one blank between two tokens and none around a parenthesis
or before a comma or a semicolon.  So every well-formed statement has a rendering, and reading what
`Statement.text` prints gives the statement back (`parse_text`).

`Statement.tokensBefore` leaves the tokens of a last clause open, since some clauses can be written
in more than one way.
-/

namespace AskTables

namespace Grammar

/-- The token as it is printed. -/
def Token.text : Token → List Char
  | .keyword k => k.text.toList
  | .name s => s.toList
  | .column c => c.text.toList
  | .quoted s => '\'' :: (s.toList ++ ['\''])
  | .number s => s.toList
  | .sign x => [x.char]

/-- Whether no blank is printed before a token. -/
def Token.hugs : Token → Bool
  | .sign .comma | .sign .opening | .sign .closing | .sign .semicolon => true
  | _ => false

/-- What is printed between two tokens. -/
def gapBetween (t u : Token) : List Char := if t = .sign .opening ∨ u.hugs then [] else [' ']

/-- Prints tokens after another token. -/
def printAfter : Token → List Token → List Char
  | _, [] => []
  | t, u :: us => gapBetween t u ++ (u.text ++ printAfter u us)

/-- Prints tokens. -/
def print : List Token → List Char
  | [] => []
  | t :: ts => t.text ++ printAfter t ts

/-- Printing goes on after the last token printed. -/
theorem printAfter_append (t : Token) (ts us : List Token) :
    printAfter t (ts ++ us) = printAfter t ts ++ printAfter (ts.getLastD t) us := by
  induction ts generalizing t with
  | nil => rfl
  | cons u ts ih =>
      rw [List.cons_append, printAfter, printAfter, ih]
      simp only [List.append_assoc, List.getLastD_cons]

/-- What is printed after some tokens depends on the last of them only. -/
theorem print_concat_append (ts : List Token) (t : Token) (us : List Token) :
    print (ts ++ [t] ++ us) = print (ts ++ [t]) ++ printAfter t us := by
  cases ts with
  | nil => simp [print, printAfter]
  | cons s ts =>
      have hlast : (ts ++ [t]).getLastD s = t := by simp [List.getLastD_eq_getLast?]
      simp only [List.cons_append, print]
      rw [printAfter_append s (ts ++ [t]) us, hlast, List.append_assoc]

theorem Keyword.map_toLower_text (k : Keyword) : k.text.toList.map Char.toLower = k.letters := by
  cases k <;> rfl

theorem Token.spells_text (t : Token) : t.Spells t.text := by
  cases t with
  | keyword k => exact k.map_toLower_text
  | _ => rfl

/-- Between tokens there is white space or nothing. -/
theorem isGap_gapBetween (t u : Token) : IsGap (gapBetween t u) := by
  unfold gapBetween
  split
  · exact isGap_nil
  · intro c hc
    cases List.mem_singleton.1 hc
    decide

/-- No word runs on into what is printed after it. -/
theorem not_startsWord_printAfter {t : Token} (ht : t.isWord) (us : List Token) {m : List Char}
    (hm : ¬ StartsWord m) : ¬ StartsWord (printAfter t us ++ m) := by
  cases us with
  | nil => exact hm
  | cons u us =>
      rintro ⟨c, rest, he, hc⟩
      have hne : t ≠ .sign .opening := by
        rintro rfl
        cases ht
      by_cases hu : u.hugs = true
      · simp only [printAfter, gapBetween, hne, hu, or_true, if_true, List.nil_append] at he
        cases u with
        | sign x =>
            cases he
            rw [x.isWordChar_char] at hc
            cases hc
        | _ => cases hu
      · simp only [printAfter, gapBetween, hne, hu, false_or, Bool.false_eq_true] at he
        cases he
        exact absurd hc (by decide)

/-- What is printed after a token writes the tokens, up to a text that continues no word. -/
theorem writes_printAfter (t : Token) (us : List Token) {m : List Char} (hm : ¬ StartsWord m) :
    Writes us (printAfter t us ++ m) m := by
  induction us generalizing t with
  | nil => exact .nil m
  | cons u us ih =>
      rw [printAfter, List.append_assoc, List.append_assoc]
      exact .token (isGap_gapBetween t u) u.spells_text
        (fun hu => not_startsWord_printAfter hu us hm) (ih u)

/-- What is printed writes the tokens, unless a word runs on into what follows. -/
theorem writes_print_append (ts : List Token) {m : List Char} (hm : ¬ StartsWord m) :
    Writes ts (print ts ++ m) m := by
  cases ts with
  | nil => exact .nil m
  | cons t ts =>
      rw [print, List.append_assoc]
      exact .token (g := []) isGap_nil t.spells_text
        (fun ht => not_startsWord_printAfter ht ts hm) (writes_printAfter t ts hm)

/-- What is printed writes the tokens. -/
theorem writes_print (ts : List Token) : Writes ts (print ts) [] := by
  have hnil : ¬ StartsWord [] := by
    rintro ⟨c, rest, he, _⟩
    cases he
  have h := writes_print_append ts hnil
  rwa [List.append_nil] at h

end Grammar

open Grammar

theorem eq_ok_of_toOption {ε α : Type} {x : Except ε α} {a : α} (h : x.toOption = some a) :
    x = .ok a := by
  cases x with
  | error e => cases h
  | ok b =>
      cases h
      rfl

/-! ## Statements -/

/-- The tokens of a clause, without the words that may be left out. -/
def Clause.tokens : Clause → List Token
  | .join j => j.kind.tokens false ++ (j.table.tokens ++
      [.keyword .onWord, .column j.left, .sign .equal, .column j.right])
  | .filter c => [.keyword .whereWord, .column c.column, c.op.token, .quoted c.value]
  | .groupBy keys => groupByTokens keys
  | .orderBy k => .keyword .order :: .keyword .byWord :: .column k.column ::
      directionTokens k.desc false

theorem Clause.hasTokens (c : Clause) : c.HasTokens c.tokens := by
  cases c with
  | join j => exact ⟨false, rfl⟩
  | filter c => exact ⟨.quoted c.value, .inl rfl, rfl⟩
  | groupBy keys => exact rfl
  | orderBy k => exact ⟨false, rfl⟩

theorem hasClauseTokens_flatMap (cs : List Clause) :
    HasClauseTokens cs (cs.flatMap Clause.tokens) := by
  induction cs with
  | nil => exact .nil
  | cons c cs ih => exact .cons c.hasTokens ih

namespace Statement

/-- The tokens of a statement with those of one more clause, before the semicolon. -/
def tokensBefore (s : Statement) (us : List Token) : List Token :=
  .keyword .select :: (s.select.tokens ++ .keyword .fromWord ::
    (s.table.tokens ++ (s.clauses.flatMap Clause.tokens ++ us)))

theorem tokensBefore_append (s : Statement) (us vs : List Token) :
    s.tokensBefore (us ++ vs) = s.tokensBefore us ++ vs := by
  simp [tokensBefore]

/-- A statement with one more clause. -/
def add (s : Statement) (c : Clause) : Statement := { s with clauses := s.clauses ++ [c] }

/-- A statement with one clause more has the tokens of the clause before the end. -/
theorem hasTokens_add (s : Statement) {c : Clause} {us : List Token} (h : c.HasTokens us) :
    (s.add c).HasTokens (s.tokensBefore us ++ [.sign .semicolon]) := by
  have hlast : HasClauseTokens [c] us := by
    have hcons := HasClauseTokens.cons h .nil
    rwa [List.append_nil] at hcons
  exact ⟨_, true, (hasClauseTokens_flatMap s.clauses).append hlast,
    by simp [tokensBefore, add, endTokens]⟩

/-- The tokens a statement is printed with are a rendering of it. -/
theorem hasTokens (s : Statement) :
    s.HasTokens (s.tokensBefore [] ++ [.sign .semicolon]) :=
  ⟨_, true, hasClauseTokens_flatMap s.clauses, by simp [tokensBefore, endTokens]⟩

/-- Some tokens of a well-formed statement are printed, and read as the statement. -/
theorem parse_print {s : Statement} (hs : s.WellFormed) {ts : List Token} (h : s.HasTokens ts) :
    Statement.parse (String.ofList (print ts)) = .ok s := by
  refine parse_of_rendering hs ⟨ts, h, ?_⟩
  rw [String.toList_ofList]
  exact writes_print ts

/-- A statement as it is printed. -/
def text (s : Statement) : String :=
  String.ofList (print (s.tokensBefore [] ++ [.sign .semicolon]))

/-- Reading a printed statement gives it back, if it is well formed. -/
theorem parse_text {s : Statement} (hs : s.WellFormed) : Statement.parse s.text = .ok s :=
  parse_print hs s.hasTokens

/-- The well-formed statements are those that survive being printed and read. -/
theorem wellFormed_iff (s : Statement) :
    s.WellFormed ↔ (Statement.parse s.text).toOption = some s := by
  constructor
  · intro h
    rw [parse_text h]
    rfl
  · intro h
    exact (rendering_of_parse (eq_ok_of_toOption h)).1

instance (s : Statement) : Decidable s.WellFormed := decidable_of_iff' _ s.wellFormed_iff

end Statement

end AskTables
