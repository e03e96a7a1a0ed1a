import AskTables.Grammar.Parse

/-!
# Renderings

The grammar of statement text from the side of the writer.  A *rendering* of a statement is a text
that writes its tokens in order, with white space around them as the writer likes.  Three choices
are free besides the white space: the case of keywords, the words that may be left out (`OUTER`,
`INNER` and `ASC`), and whether a literal that reads as a number stands in quotes.

`Writes ts s r` says that the text `s` writes the tokens `ts` and then goes on with `r`.  White
space may stand before, between and after the tokens.  It must stand where a word would otherwise
run on into a letter, a digit or an underscore.

`Statement.WellFormed` says which statements have a rendering at all.  Nothing here speaks of
readers, so that `Statement.parse` can be measured against it.
-/

namespace AskTables

namespace Grammar

/-! ## Identifiers, numerals and white space -/

/-- A letter or an underscore, then letters, digits and underscores. -/
def IsName (w : List Char) : Prop :=
  ∃ c rest, w = c :: rest ∧ (c.isAlpha ∨ c = '_') ∧ ∀ d ∈ rest, d.isAlphanum ∨ d = '_'

/-- A name that is no reserved keyword in any ASCII case. -/
def IsIdentifier (w : List Char) : Prop :=
  IsName w ∧ ∀ k ∈ Keyword.reserved, w.map Char.toLower ≠ k.letters

/-- Digits, at least one. -/
def IsDigits (w : List Char) : Prop := w ≠ [] ∧ ∀ c ∈ w, c.isDigit

/-- An optional minus sign, digits, and optionally a point with more digits. -/
def IsNumeral (w : List Char) : Prop :=
  ∃ sign whole fraction, w = sign ++ whole ++ fraction ∧ (sign = [] ∨ sign = ['-']) ∧
    IsDigits whole ∧ (fraction = [] ∨ ∃ ds, fraction = '.' :: ds ∧ IsDigits ds)

/-- White space, possibly none. -/
def IsGap (w : List Char) : Prop := ∀ c ∈ w, isSpace c

/-- Whether a text begins with a character that could continue a word. -/
def StartsWord (s : List Char) : Prop := ∃ c rest, s = c :: rest ∧ isWordChar c

/-! ## Tokens -/

/-- The signs of statement text. -/
inductive Sign where
  | star
  | comma
  | opening
  | closing
  | equal
  | greater
  | less
  | semicolon
deriving DecidableEq

/-- The character of a sign. -/
def Sign.char : Sign → Char
  | .star => '*'
  | .comma => ','
  | .opening => '('
  | .closing => ')'
  | .equal => '='
  | .greater => '>'
  | .less => '<'
  | .semicolon => ';'

/-- A piece of statement text that admits no white space of its own. -/
inductive Token where
  | keyword (k : Keyword)
  | name (s : String)
  | column (c : Column)
  | quoted (s : String)
  | number (s : String)
  | sign (x : Sign)
deriving DecidableEq

namespace Token

/-- Whether a text spells a token. -/
def Spells (w : List Char) : Token → Prop
  | .keyword k => w.map Char.toLower = k.letters
  | .name s => w = s.toList
  | .column c => w = c.text.toList
  | .quoted s => w = '\'' :: (s.toList ++ ['\''])
  | .number s => w = s.toList
  | .sign x => w = [x.char]

/-- Whether a token ends with a word, which must not run on. -/
def isWord : Token → Bool
  | .keyword _ | .name _ | .column _ => true
  | .quoted _ | .number _ | .sign _ => false

end Token

/-- The text `s` writes the tokens and goes on with `r`. -/
inductive Writes : List Token → List Char → List Char → Prop where
  | done {g r} : IsGap g → Writes [] (g ++ r) r
  | token {t ts g w m r} : IsGap g → t.Spells w → (t.isWord → ¬ StartsWord m) →
      Writes ts m r → Writes (t :: ts) (g ++ (w ++ m)) r

/-- Lists of tokens with commas between them. -/
def commas (tss : List (List Token)) : List Token := List.intercalate [.sign .comma] tss

end Grammar

open Grammar

/-! ## The tokens of a statement -/

/-- The tokens of a table. -/
def TableRef.tokens (t : TableRef) : List Token :=
  .name t.name :: (t.aliasName.map Token.name).toList

/-- The keyword of a function. -/
def AggregateFn.keyword : AggregateFn → Keyword
  | .avg => .avg
  | .sum => .sum
  | .count => .count

/-- The token between the parentheses of an aggregate. -/
def AggregateArg.token : AggregateArg → Token
  | .wildcard => .sign .star
  | .column c => .column c

/-- The tokens of an aggregate. -/
def Aggregate.tokens (a : Aggregate) : List Token :=
  [.keyword a.fn.keyword, .sign .opening, a.arg.token, .sign .closing, .keyword .asWord,
    .name a.aliasName]

/-- The tokens of an entry of a selection. -/
def SelectItem.tokens : SelectItem → List Token
  | .aggregate a => a.tokens
  | .column c => [.column c]

/-- The tokens of a selection. -/
def Selection.tokens : Selection → List Token
  | .wildcard => [.sign .star]
  | .items list => commas (list.map SelectItem.tokens)

/-- The tokens of a join up to its table, with or without the word that may be left out. -/
def JoinKind.tokens : JoinKind → (full : Bool) → List Token
  | .left, true => [.keyword .left, .keyword .outer, .keyword .join]
  | .left, false => [.keyword .left, .keyword .join]
  | .inner, true => [.keyword .inner, .keyword .join]
  | .inner, false => [.keyword .join]

/-- The token of a comparison. -/
def CompareOp.token : CompareOp → Token
  | .eq => .sign .equal
  | .gt => .sign .greater
  | .lt => .sign .less
  | .like => .keyword .like

/-- The tokens of a sort direction, with or without the word that may be left out. -/
def directionTokens : (desc full : Bool) → List Token
  | true, _ => [.keyword .desc]
  | false, true => [.keyword .asc]
  | false, false => []

/-- A literal stands in quotes, or bare if it reads as a number. -/
def IsLiteral (value : String) (t : Token) : Prop :=
  t = .quoted value ∨ t = .number value ∧ IsNumeral value.toList

/-- Some tokens are those of a join. -/
def JoinClause.HasTokens (j : JoinClause) (ts : List Token) : Prop :=
  ∃ full, ts = j.kind.tokens full ++ (j.table.tokens ++
    [.keyword .onWord, .column j.left, .sign .equal, .column j.right])

/-- Some tokens are those of a condition. -/
def Condition.HasTokens (c : Condition) (ts : List Token) : Prop :=
  ∃ value, IsLiteral c.value value ∧
    ts = [.keyword .whereWord, .column c.column, c.op.token, value]

/-- The tokens of a grouping. -/
def groupByTokens (keys : List Column) : List Token :=
  .keyword .group :: .keyword .byWord :: commas (keys.map fun c => [.column c])

/-- Some tokens are those of a sort. -/
def SortKey.HasTokens (k : SortKey) (ts : List Token) : Prop :=
  ∃ full, ts = .keyword .order :: .keyword .byWord :: .column k.column ::
    directionTokens k.desc full

/-- Some tokens are those of a clause. -/
def Clause.HasTokens : Clause → List Token → Prop
  | .join j, ts => j.HasTokens ts
  | .filter c, ts => c.HasTokens ts
  | .groupBy keys, ts => ts = groupByTokens keys
  | .orderBy k, ts => k.HasTokens ts

/-- Some tokens are those of clauses in a row. -/
inductive HasClauseTokens : List Clause → List Token → Prop where
  | nil : HasClauseTokens [] []
  | cons {c cs ts us} : Clause.HasTokens c ts → HasClauseTokens cs us →
      HasClauseTokens (c :: cs) (ts ++ us)

theorem HasClauseTokens.append {cs ds : List Clause} {ts us : List Token}
    (h : HasClauseTokens cs ts) (h' : HasClauseTokens ds us) :
    HasClauseTokens (cs ++ ds) (ts ++ us) := by
  induction h with
  | nil => exact h'
  | cons hc _ ih =>
      rw [List.append_assoc]
      exact .cons hc ih

/-- The semicolon at the end of a statement, which may be left out. -/
def endTokens (full : Bool) : List Token := if full then [.sign .semicolon] else []

/-- Some tokens are those of a statement. -/
def Statement.HasTokens (s : Statement) (ts : List Token) : Prop :=
  ∃ us full, HasClauseTokens s.clauses us ∧
    ts = .keyword .select :: (s.select.tokens ++ .keyword .fromWord ::
      (s.table.tokens ++ (us ++ endTokens full)))

/-- A text is a rendering of a statement. -/
def Statement.Rendering (s : Statement) (text : List Char) : Prop :=
  ∃ ts, s.HasTokens ts ∧ Writes ts text []

/-! ## Well-formed statements -/

/-- Both names are identifiers. -/
structure Column.WellFormed (c : Column) : Prop where
  table : ∀ t ∈ c.table, IsIdentifier t.toList
  name : IsIdentifier c.name.toList

/-- Both names are identifiers. -/
structure TableRef.WellFormed (t : TableRef) : Prop where
  name : IsIdentifier t.name.toList
  aliasName : ∀ a ∈ t.aliasName, IsIdentifier a.toList

/-- The argument and the name of an aggregate are well formed. -/
structure Aggregate.WellFormed (a : Aggregate) : Prop where
  arg : ∀ c, a.arg = .column c → c.WellFormed
  aliasName : IsIdentifier a.aliasName.toList

/-- An entry is well formed if its names are. -/
def SelectItem.WellFormed : SelectItem → Prop
  | .aggregate a => a.WellFormed
  | .column c => c.WellFormed

/-- A list of items is not empty. -/
def Selection.WellFormed : Selection → Prop
  | .wildcard => True
  | .items list => list ≠ [] ∧ ∀ i ∈ list, i.WellFormed

/-- A clause is well formed if its names are, a grouping has a column, and a literal holds no
quote. -/
def Clause.WellFormed : Clause → Prop
  | .join j => j.table.WellFormed ∧ j.left.WellFormed ∧ j.right.WellFormed
  | .filter c => c.column.WellFormed ∧ '\'' ∉ c.value.toList
  | .groupBy keys => keys ≠ [] ∧ ∀ c ∈ keys, c.WellFormed
  | .orderBy k => k.column.WellFormed

/-- The place of a clause among those of a statement. -/
def Clause.rank : Clause → Nat
  | .join _ => 0
  | .filter _ => 1
  | .groupBy _ => 2
  | .orderBy _ => 3

/-- The statements that can be written: every part is well formed, and the clauses stand in order,
at most one of each kind. -/
structure Statement.WellFormed (s : Statement) : Prop where
  select : s.select.WellFormed
  table : s.table.WellFormed
  clauses : ∀ c ∈ s.clauses, c.WellFormed
  order : s.clauses.Pairwise fun c d => c.rank < d.rank

namespace Grammar

/-! ## White space and skipping -/

theorem IsGap.append {g h : List Char} (hg : IsGap g) (hh : IsGap h) : IsGap (g ++ h) := by
  intro c hc
  rcases List.mem_append.1 hc with hc | hc
  · exact hg c hc
  · exact hh c hc

theorem isGap_nil : IsGap [] := by
  intro c hc
  cases hc

theorem isGap_takeWhile (s : List Char) : IsGap (s.takeWhile isSpace) := by
  intro c hc
  exact List.all_eq_true.1 List.all_takeWhile c hc

/-- Skipping passes over a gap. -/
theorem skipSpace_gap {gap s : List Char} (h : IsGap gap) :
    skipSpace (gap ++ s) = skipSpace s := by
  rw [skipSpace, skipSpace, List.dropWhile_append_of_pos h]

@[simp] theorem skipSpace_skipSpace (s : List Char) : skipSpace (skipSpace s) = skipSpace s := by
  have h := skipSpace_gap (s := skipSpace s) (isGap_takeWhile s)
  rw [skipSpace, skipSpace, List.takeWhile_append_dropWhile] at h
  exact h.symm

/-- A text that does not begin with white space stays. -/
theorem skipSpace_cons {c : Char} {s : List Char} (h : isSpace c = false) :
    skipSpace (c :: s) = c :: s := by
  simp [skipSpace, h]

/-! ## Texts that write tokens -/

namespace Writes

/-- White space may be added in front. -/
theorem gap {ts : List Token} {gap s r : List Char} (hg : IsGap gap) (h : Writes ts s r) :
    Writes ts (gap ++ s) r := by
  cases h with
  | done hg' =>
      rw [← List.append_assoc]
      exact .done (hg.append hg')
  | token hg' hw hm h =>
      rw [← List.append_assoc]
      exact .token (hg.append hg') hw hm h

/-- No token, and nothing between. -/
theorem nil (s : List Char) : Writes [] s s := .done (g := []) isGap_nil

/-- Reading may begin after the white space. -/
theorem of_skipSpace {ts : List Token} {s r : List Char} (h : Writes ts (skipSpace s) r) :
    Writes ts s r := by
  have h' := Writes.gap (isGap_takeWhile s) h
  rwa [skipSpace, List.takeWhile_append_dropWhile] at h'

/-- One token at the very front. -/
theorem single {t : Token} {w m : List Char} (hw : t.Spells w) (hm : t.isWord → ¬ StartsWord m) :
    Writes [t] (w ++ m) m :=
  .token (g := []) isGap_nil hw hm (.nil m)

theorem append {ts us : List Token} {s m r : List Char} (h : Writes ts s m) (h' : Writes us m r) :
    Writes (ts ++ us) s r := by
  induction h with
  | done hg => exact h'.gap hg
  | token hg hw hm _ ih => exact .token hg hw hm (ih h')

/-- Tokens in a row are written one part after the other. -/
theorem split {ts us : List Token} {s r : List Char} (h : Writes (ts ++ us) s r) :
    ∃ m, Writes ts s m ∧ Writes us m r := by
  induction ts generalizing s with
  | nil => exact ⟨s, .nil s, h⟩
  | cons t ts ih =>
      cases h with
      | token hg hw hm h =>
          obtain ⟨m, h1, h2⟩ := ih h
          exact ⟨m, .token hg hw hm h1, h2⟩

/-- Without tokens there is only white space to write. -/
theorem skipSpace_eq {s r : List Char} (h : Writes [] s r) : skipSpace s = skipSpace r := by
  cases h with
  | done hg => exact skipSpace_gap hg

end Writes

end Grammar

end AskTables
