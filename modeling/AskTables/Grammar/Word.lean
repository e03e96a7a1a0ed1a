import AskTables.Grammar.Reader

/-!
# Words and literals

The tokens of statement text: keywords, identifiers, numbers and quoted strings.

A *word* is the longest run of letters, digits and underscores at a place, so `SELECTED` never
begins with the keyword `SELECT`.  Keywords are told by the word regardless of ASCII case.  An
identifier is a word that starts with no digit and is no reserved keyword.
-/

namespace AskTables.Grammar

/-- Whether a character may stand in a word: an ASCII letter, an ASCII digit or an underscore. -/
def isWordChar (c : Char) : Bool := c.isAlphanum || c == '_'

/-- Whether a character may start an identifier. -/
def isWordStart (c : Char) : Bool := c.isAlpha || c == '_'

/-- The word at the front of a text. -/
def wordOf (s : List Char) : List Char := s.takeWhile isWordChar

/-- Whether a word is some keyword in any ASCII case. -/
def Keyword.spells (k : Keyword) (word : List Char) : Bool := word.map Char.toLower == k.letters

/-- Whether a word is a reserved keyword. -/
def isReserved (word : List Char) : Bool := Keyword.reserved.any fun k => k.spells word

/-- Whether a text is an identifier. -/
def isIdentifier (word : List Char) : Bool :=
  word.all isWordChar && word.head?.any isWordStart && !isReserved word

/-- The characters of a quoted string end at the next single quote. -/
def isQuotable (c : Char) : Bool := c != '\''

namespace Reader

/-- A keyword. -/
def keyword (k : Keyword) : Reader Unit :=
  named (.keyword k) (silent fun s =>
    if k.spells (wordOf s) then some ((), s.dropWhile isWordChar) else none)

/-- An identifier. -/
def ident : Reader String :=
  named .ident (silent fun s =>
    if isIdentifier (wordOf s) then some (String.ofList (wordOf s), s.dropWhile isWordChar)
    else none)

/-- The digits at the front of a text, at least one, and the text after them. -/
def digits? (s : List Char) : Option (List Char × List Char) :=
  match s.takeWhile Char.isDigit with
  | [] => none
  | ds => some (ds, s.dropWhile Char.isDigit)

/-- A fraction: a point and at least one digit.  Without a digit the point is left alone. -/
def fraction (s : List Char) : List Char × List Char :=
  match s with
  | '.' :: rest =>
    match digits? rest with
    | some (ds, after) => ('.' :: ds, after)
    | none => ([], s)
  | _ => ([], s)

/-- The digits of a number with their fraction. -/
def unsigned? (s : List Char) : Option (List Char × List Char) :=
  (digits? s).map fun r =>
    let f := fraction r.2
    (r.1 ++ f.1, f.2)

/-- The text of a number: an optional minus sign, digits, and a point with digits. -/
def numberText? (s : List Char) : Option (List Char × List Char) :=
  match s with
  | '-' :: rest => (unsigned? rest).map fun r => ('-' :: r.1, r.2)
  | _ => unsigned? s

/-- A number, kept as it is written. -/
def number : Reader String :=
  named .number (silent fun s => (numberText? s).map fun r => (String.ofList r.1, r.2))

/-- The characters between two quotes. -/
def stringInner : Reader String :=
  named .stringInner (silent fun s =>
    some (String.ofList (s.takeWhile isQuotable), s.dropWhile isQuotable))

/-- A quoted string, without its quotes. -/
def quoted : Reader String :=
  named .string ((((token '\'').seq stringInner).seq (token '\'')).map fun r => r.1.2)

/-- The end of the text. -/
def endOfText : Reader Unit :=
  named .endOfText (silent fun
    | [] => some ((), [])
    | _ :: _ => none)

end Reader

end AskTables.Grammar
