/-!
# YAML values

The part of YAML that settings files need: block mappings and sequences, flow mappings and
sequences, plain and quoted scalars, comments, and one document.  A mapping keeps every entry, also
repeated ones.  A scalar keeps its text, and how it is understood is left to whoever reads the
value.

A `Spot` is a place in a text: the text from there on, and the column if nothing but blanks stands
before it on its line.  Columns matter only at such places, since they alone decide where a block
begins and ends.
-/

namespace AskTables

/-- A YAML value. -/
inductive Yaml where
  /-- A scalar without quotes; a missing value is an empty one. -/
  | plain (text : String)
  /-- A scalar between quotes. -/
  | quoted (text : String)
  | sequence (items : List Yaml)
  | mapping (entries : List (String × Yaml))
deriving Inhabited

namespace Yaml

/-! ## Characters -/

/-- Whether a character ends a line. -/
def isBreak (c : Char) : Bool := c == '\n' || c == '\u2028' || c == '\u2029'

/-- Whether a character is a blank. -/
def isSpace (c : Char) : Bool := c == ' ' || c == '\t'

/-- Whether a character stands between two words. -/
def isGap (c : Char) : Bool := isSpace c || isBreak c

/-- Whether a text is at its end or starts with a blank or break. -/
def startsGap (s : List Char) : Bool :=
  match s with
  | [] => true
  | c :: _ => isGap c

/-- Whether a character may stand in a text at all. -/
def isAllowed (c : Char) : Bool :=
  c == '\t' || c == '\n' || c == '\r' || c == '\u0085' ||
    decide (0x20 ≤ c.toNat) && decide (c.toNat ≤ 0x7E) ||
    decide (0xA0 ≤ c.toNat) && decide (c.toNat ≠ 0xFEFF) && decide (c.toNat ≠ 0xFFFE) &&
      decide (c.toNat ≠ 0xFFFF)

/-- A text whose line ends are all written alike, except for the two Unicode separators. -/
def normalizeBreaks : List Char → List Char
  | '\r' :: '\n' :: rest => '\n' :: normalizeBreaks rest
  | '\r' :: rest => '\n' :: normalizeBreaks rest
  | '\u0085' :: rest => '\n' :: normalizeBreaks rest
  | c :: rest => c :: normalizeBreaks rest
  | [] => []

/-! ## Places -/

/-- A place in a text. -/
structure Spot where
  /-- The text from here on. -/
  rest : List Char
  /-- The column, if only blanks stand before on the line. -/
  column? : Option Nat
deriving DecidableEq, Inhabited

/-- The next token after blanks, comments and line breaks.  In a block, tabs count as blanks only
behind a token, and `column?` is the column while there is none on the line. -/
def gap (inFlow : Bool) (inComment : Bool) (column? : Option Nat) : List Char → Spot
  | [] => ⟨[], column?⟩
  | c :: rest =>
    if isBreak c then gap inFlow false (if inFlow then none else some 0) rest
    else
      let next := column?.map (· + 1)
      if inComment then gap inFlow true next rest
      else if c = ' ' ∨ c = '\t' ∧ column? = none then gap inFlow false next rest
      else if c = '#' then gap inFlow true next rest
      else ⟨c :: rest, column?⟩

/-- The next token of a block. -/
def Spot.next (p : Spot) : Spot := gap false false p.column? p.rest

/-- The next token inside brackets. -/
def flowNext (s : List Char) : List Char := (gap true false none s).rest

/-- Whether a text starts with three given characters and a gap after them. -/
def startsMarker (mark : Char) (s : List Char) : Bool :=
  match s with
  | a :: b :: c :: rest => a == mark && b == mark && c == mark && startsGap rest
  | _ => false

/-- Whether a marker of documents stands at the start of a line. -/
def startsDocumentMarker (s : List Char) : Bool := startsMarker '-' s || startsMarker '.' s

/-- Whether a text starts with an entry of a block sequence. -/
def startsEntry (s : List Char) : Bool :=
  match s with
  | '-' :: rest => startsGap rest
  | _ => false

end Yaml

end AskTables
