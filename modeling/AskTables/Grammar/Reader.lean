import AskTables.Grammar.Symbol

/-!
# Readers

A *reader* reads a value off the front of a text.  It has two parts that do not depend on each
other.  `read` gives the value and the text left, or nothing.  `trace` keeps the *attempts*: the
furthest place at which a named phrase was tried in vain, and the symbols that were tried there.
What is read never depends on the attempts, since `read` does not see them.

A place is given by the text left there, so a place is further when less text is left.

Choice is ordered and repetition is greedy: neither goes back on what it has read.  Two readers in a
row are joined either directly (`seq`) or with white space allowed between them (`spaced`).
-/

namespace AskTables.Grammar

/-! ## Attempts -/

/-- The furthest place where a named phrase was tried in vain. -/
structure Attempts where
  /-- The text left at that place. -/
  rest : List Char
  /-- The symbols tried there. -/
  symbols : List Symbol
deriving DecidableEq, Inhabited

namespace Attempts

/-- No attempt yet, at the start of a text. -/
def start (s : List Char) : Attempts := ⟨s, []⟩

/-- The symbols noted at the place where `s` is left. -/
def noted (a : Attempts) (s : List Char) : List Symbol :=
  if a.rest.length = s.length then a.symbols else []

/-- Notes that `symbol` was tried in vain where `s` is left.  `before` are the attempts at the time
the phrase was begun, `after` those its parts made.  A phrase with exactly one new attempt at its
own start stays silent, since that attempt says more.  Otherwise the phrase stands for the attempts
its parts made at its start.  A place further on wins over both. -/
def note (symbol : Symbol) (s : List Char) (before after : Attempts) : Attempts :=
  let earlier := (before.noted s).length
  if (after.noted s).length - earlier = 1 then after
  else if s.length < after.rest.length then ⟨s, [symbol]⟩
  else if s.length = after.rest.length then ⟨s, after.symbols.take earlier ++ [symbol]⟩
  else after

end Attempts

/-! ## Readers and their combination -/

/-- A reader of values of one type. -/
structure Reader (α : Type) where
  /-- The value at the front of a text, and the text after it. -/
  read : List Char → Option (α × List Char)
  /-- The attempts after reading, from those before. -/
  trace : List Char → Attempts → Attempts

/-- Whether a character may stand between two tokens. -/
def isSpace (c : Char) : Bool := c == ' ' || c == '\t' || c == '\r' || c == '\n'

/-- The text after its leading white space. -/
def skipSpace (s : List Char) : List Char := s.dropWhile isSpace

namespace Reader

variable {α β : Type}

/-- A reader that keeps no attempts. -/
def silent (read : List Char → Option (α × List Char)) : Reader α := ⟨read, fun _ a => a⟩

/-- One given character. -/
def token (c : Char) : Reader Unit :=
  silent fun
    | d :: rest => if d = c then some ((), rest) else none
    | [] => none

/-- Applies a function to the value read. -/
def map (f : α → β) (p : Reader α) : Reader β where
  read s := (p.read s).map fun r => (f r.1, r.2)
  trace := p.trace

/-- A phrase with a name: when it fails, its symbol is noted. -/
def named (symbol : Symbol) (p : Reader α) : Reader α where
  read := p.read
  trace s a :=
    match p.read s with
    | some _ => p.trace s a
    | none => Attempts.note symbol s a (p.trace s a)

/-- One phrase, then another directly after it. -/
def seq (p : Reader α) (q : Reader β) : Reader (α × β) where
  read s :=
    match p.read s with
    | none => none
    | some (x, rest) => (q.read rest).map fun r => ((x, r.1), r.2)
  trace s a :=
    match p.read s with
    | none => p.trace s a
    | some (_, rest) => q.trace rest (p.trace s a)

/-- A phrase after white space. -/
def afterSpace (p : Reader α) : Reader α where
  read s := p.read (skipSpace s)
  trace s a := p.trace (skipSpace s) a

/-- One phrase, then another, with white space allowed between them. -/
def spaced (p : Reader α) (q : Reader β) : Reader (α × β) := p.seq q.afterSpace

/-- The first phrase, or else the second. -/
def orElse (p q : Reader α) : Reader α where
  read s :=
    match p.read s with
    | some r => some r
    | none => q.read s
  trace s a :=
    match p.read s with
    | some _ => p.trace s a
    | none => q.trace s (p.trace s a)

/-- A phrase that may be missing. -/
def optional (p : Reader α) : Reader (Option α) where
  read s :=
    match p.read s with
    | some (x, rest) => some (some x, rest)
    | none => some (none, s)
  trace := p.trace

/-- The values of up to `n` phrases in a row, with white space allowed before each. -/
def readRow (p : Reader α) : Nat → List Char → List α × List Char
  | 0, s => ([], s)
  | n + 1, s =>
    match p.read (skipSpace s) with
    | none => ([], s)
    | some (x, rest) =>
      let more := readRow p n rest
      (x :: more.1, more.2)

/-- The attempts of up to `n` phrases in a row. -/
def traceRow (p : Reader α) : Nat → List Char → Attempts → Attempts
  | 0, _, a => a
  | n + 1, s, a =>
    match p.read (skipSpace s) with
    | none => p.trace (skipSpace s) a
    | some (_, rest) => traceRow p n rest (p.trace (skipSpace s) a)

/-- As many phrases in a row as there are, with white space allowed before each.  Each phrase is
taken to use up a character, so that the length of the text bounds their number. -/
def many (p : Reader α) : Reader (List α) where
  read s := some (readRow p (s.length + 1) s)
  trace s a := traceRow p (s.length + 1) s a

/-- Two phrases with white space between, keeping the second. -/
def spacedRight (p : Reader α) (q : Reader β) : Reader β := (p.spaced q).map Prod.snd

/-- Two phrases with white space between, keeping the first. -/
def spacedLeft (p : Reader α) (q : Reader β) : Reader α := (p.spaced q).map Prod.fst

/-- One phrase or more, with commas between. -/
def commaList (p : Reader α) : Reader (List α) :=
  (p.spaced (many ((token ',').spacedRight p))).map fun r => r.1 :: r.2

end Reader

end AskTables.Grammar
