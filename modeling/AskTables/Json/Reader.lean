import AskTables.Json.Basic
import AskTables.Text.Hex

/-!
# Reading JSON

`Json.read?` reads a value off the front of a text and `Json.parse?` a whole text.  The grammar is
strict: only the space, the tab, the carriage return and the line feed may stand between tokens, no
comma may trail, a number has no leading zero and needs digits on both sides of its point, and a
string holds no raw control character.

Half of a surrogate pair, written as an escape, does not stop the reading.  It makes the string
garbled, which matters only to those who want its text.
-/

namespace AskTables.Json

/-- Whether a character may stand between two tokens. -/
def isSpace (c : Char) : Bool := c == ' ' || c == '\t' || c == '\r' || c == '\n'

/-- The text after its leading white space. -/
def skipSpace (s : List Char) : List Char := s.dropWhile isSpace

/-! ## Strings -/

/-- The character that a one-letter escape stands for. -/
def shortEscape? (c : Char) : Option Char :=
  match c with
  | '"' => some '"'
  | '\\' => some '\\'
  | '/' => some '/'
  | 'b' => some '\x08'
  | 'f' => some '\x0c'
  | 'n' => some '\n'
  | 'r' => some '\r'
  | 't' => some '\t'
  | _ => none

/-- Whether a code unit is the first half of a surrogate pair. -/
def isHighSurrogate (n : Nat) : Bool := 0xD800 ≤ n && n ≤ 0xDBFF

/-- Whether a code unit is the second half of a surrogate pair. -/
def isLowSurrogate (n : Nat) : Bool := 0xDC00 ≤ n && n ≤ 0xDFFF

/-- One piece of a string: a character, or a code unit that an escape names and that may be half of
a pair. -/
inductive Piece where
  | char (c : Char)
  | unit (n : Nat)
deriving DecidableEq

/-- The pieces of a string up to its closing quote, and the text after the quote. -/
def readPieces? : List Char → Option (List Piece × List Char)
  | [] => none
  | '"' :: rest => some ([], rest)
  | '\\' :: 'u' :: a :: b :: c :: d :: rest => do
    let n ← Text.hexNumber? [a, b, c, d]
    let (pieces, after) ← readPieces? rest
    return (.unit n :: pieces, after)
  | '\\' :: c :: rest => do
    let e ← shortEscape? c
    let (pieces, after) ← readPieces? rest
    return (.char e :: pieces, after)
  | c :: rest =>
    if c.toNat < 0x20 then none
    else do
      let (pieces, after) ← readPieces? rest
      return (.char c :: pieces, after)

/-- The text that some pieces make: each pair of surrogates is one character, and half of a pair
makes no text. -/
def joinPieces? : List Piece → Option (List Char)
  | [] => some []
  | .char c :: rest => (joinPieces? rest).map (c :: ·)
  | .unit n :: .unit m :: rest =>
    if isHighSurrogate n then
      if isLowSurrogate m then
        (joinPieces? rest).map (Char.ofNat (0x10000 + (n - 0xD800) * 0x400 + (m - 0xDC00)) :: ·)
      else none
    else if isLowSurrogate n then none
    else (joinPieces? (.unit m :: rest)).map (Char.ofNat n :: ·)
  | .unit n :: rest =>
    if isHighSurrogate n || isLowSurrogate n then none
    else (joinPieces? rest).map (Char.ofNat n :: ·)

/-- A string after its opening quote. -/
def readString? (s : List Char) : Option (Option String × List Char) :=
  (readPieces? s).map fun r => ((joinPieces? r.1).map String.ofList, r.2)

/-! ## Numbers -/

/-- Digits, at least one. -/
def readDigits? (s : List Char) : Option (List Char × List Char) :=
  match s.takeWhile Char.isDigit with
  | [] => none
  | ds => some (ds, s.dropWhile Char.isDigit)

/-- The digits before the point: a single zero, or digits that start with no zero. -/
def readWhole? (s : List Char) : Option (List Char × List Char) :=
  match readDigits? s with
  | some ('0' :: _ :: _, _) => none
  | r => r

/-- The point and the digits after it, if a point is there. -/
def readFraction? (s : List Char) : Option (List Char × List Char) :=
  match s with
  | '.' :: rest => (readDigits? rest).map fun r => ('.' :: r.1, r.2)
  | _ => some ([], s)

/-- The mark, the sign and the digits of an exponent, if a mark is there. -/
def readExponent? (s : List Char) : Option (List Char × List Char) :=
  match s with
  | mark :: rest =>
    if mark = 'e' ∨ mark = 'E' then
      match rest with
      | '+' :: ds => (readDigits? ds).map fun r => (mark :: '+' :: r.1, r.2)
      | '-' :: ds => (readDigits? ds).map fun r => (mark :: '-' :: r.1, r.2)
      | _ => (readDigits? rest).map fun r => (mark :: r.1, r.2)
    else some ([], s)
  | [] => some ([], [])

/-- A number without its sign. -/
def readUnsigned? (s : List Char) : Option (List Char × List Char) := do
  let (whole, s₁) ← readWhole? s
  let (fraction, s₂) ← readFraction? s₁
  let (exponent, s₃) ← readExponent? s₂
  return (whole ++ fraction ++ exponent, s₃)

/-- The characters of a number. -/
def readNumber? (s : List Char) : Option (List Char × List Char) :=
  match s with
  | '-' :: rest => (readUnsigned? rest).map fun r => ('-' :: r.1, r.2)
  | _ => readUnsigned? s

/-! ## Values -/

/-- A given word. -/
def readWord? (word : List Char) (value : Json) (s : List Char) : Option (Json × List Char) :=
  if word.isPrefixOf s then some (value, s.drop word.length) else none

mutual

/-- A value that starts at once.  `fuel` bounds the depth of the calls. -/
def readAt? : Nat → List Char → Option (Json × List Char)
  | 0, _ => none
  | fuel + 1, s =>
    match s with
    | '"' :: rest => (readString? rest).map fun r => (.text r.1, r.2)
    | '[' :: rest =>
      match skipSpace rest with
      | ']' :: after => some (.array [], after)
      | first => (readItems? fuel first).map fun r => (.array r.1, r.2)
    | '\x7b' :: rest =>
      match skipSpace rest with
      | '\x7d' :: after => some (.object [], after)
      | first => (readMembers? fuel first).map fun r => (.object r.1, r.2)
    | 'n' :: _ => readWord? ['n', 'u', 'l', 'l'] .null s
    | 't' :: _ => readWord? ['t', 'r', 'u', 'e'] (.bool true) s
    | 'f' :: _ => readWord? ['f', 'a', 'l', 's', 'e'] (.bool false) s
    | _ => (readNumber? s).map fun r => (.number (String.ofList r.1), r.2)

/-- The items of an array up to its bracket. -/
def readItems? : Nat → List Char → Option (List Json × List Char)
  | 0, _ => none
  | fuel + 1, s =>
    match readAt? fuel s with
    | none => none
    | some (v, rest) =>
      match skipSpace rest with
      | ']' :: after => some ([v], after)
      | ',' :: more => (readItems? fuel (skipSpace more)).map fun r => (v :: r.1, r.2)
      | _ => none

/-- The members of an object up to its brace. -/
def readMembers? : Nat → List Char → Option (List (Option String × Json) × List Char)
  | 0, _ => none
  | fuel + 1, s =>
    match s with
    | '"' :: named =>
      match readString? named with
      | none => none
      | some (name, colon) =>
        match skipSpace colon with
        | ':' :: value =>
          match readAt? fuel (skipSpace value) with
          | none => none
          | some (v, rest) =>
            match skipSpace rest with
            | '\x7d' :: after => some ([(name, v)], after)
            | ',' :: more =>
              (readMembers? fuel (skipSpace more)).map fun r => ((name, v) :: r.1, r.2)
            | _ => none
        | _ => none
    | _ => none

end

/-- A value at the front of a text, after white space, and the text after it.  Each call uses up a
character, except that an item is begun where its array or object is, so twice the length of the
text bounds the depth of the calls. -/
def read? (s : List Char) : Option (Json × List Char) := readAt? (2 * s.length + 2) (skipSpace s)

/-- The value that a whole text writes. -/
def parse? (s : String) : Option Json :=
  match read? s.toList with
  | some (v, rest) => if (skipSpace rest).isEmpty then some v else none
  | none => none

end AskTables.Json
