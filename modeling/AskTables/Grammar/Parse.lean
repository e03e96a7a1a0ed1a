import AskTables.Grammar.Sentence

/-!
# Reading a statement

`Statement.parse` reads a whole text as one statement.  A text that is none is answered with what
was expected at the furthest place the reader came to, and with the line and column of that place.
-/

namespace AskTables

/-- Why a text is no statement. -/
structure ParseError where
  /-- What could have stood at the place, in the order of `Grammar.Symbol.all`. -/
  expected : List Grammar.Symbol
  /-- The line of the place, from one. -/
  line : Nat
  /-- The column of the place in characters, from one. -/
  column : Nat
deriving DecidableEq, Inhabited

namespace ParseError

/-- The line just after a text, from one. -/
def lineAfter (s : List Char) : Nat := 1 + s.count '\n'

/-- The column just after a text, from one. -/
def columnAfter (s : List Char) : Nat := 1 + (s.reverse.takeWhile fun c => c != '\n').length

/-- What was expected, in words. -/
def reason (e : ParseError) : String :=
  match e.expected with
  | [] => "unexpected input"
  | symbols => "expected " ++ " or ".intercalate (symbols.map Grammar.Symbol.text)

/-- The message for a text that is no statement. -/
def message (e : ParseError) : String :=
  "Invalid SELECT query: " ++ e.reason ++ " at line " ++ toString e.line ++ ", column " ++
    toString e.column

/-- The error that some attempts on a text amount to. -/
def ofAttempts (s : List Char) (a : Grammar.Attempts) : ParseError :=
  let passed := s.take (s.length - a.rest.length)
  ⟨Grammar.Symbol.all.filter fun x => a.symbols.contains x, lineAfter passed, columnAfter passed⟩

end ParseError

namespace Statement

/-- Reads a statement from its characters. -/
def parseChars (s : List Char) : Except ParseError Statement :=
  match Grammar.Reader.statement.read s with
  | some (st, _) => .ok st
  | none => .error (.ofAttempts s (Grammar.Reader.statement.trace s (.start s)))

/-- Reads a statement from a text. -/
def parse (s : String) : Except ParseError Statement := parseChars s.toList

end Statement

end AskTables
