/-!
# Media types

A media type, such as `application/json; charset=utf-8`, names what a body holds.  Only whether it
says JSON matters here: the type is `application`, and the subtype is `json` or ends in `+json`.
Upper and lower case are the same, and parameters have to be well formed but say nothing.
-/

namespace AskTables

/-- A media type without its parameters, in lower case. -/
structure MediaType where
  /-- What stands before the slash. -/
  type : List Char
  /-- What stands after the slash, up to the last plus sign. -/
  subtype : List Char
  /-- What stands after the last plus sign. -/
  suffix? : Option (List Char)
deriving DecidableEq, Inhabited

namespace MediaType

/-- Whether a character may stand in a name or an unquoted value. -/
def isTokenChar (c : Char) : Bool :=
  c.isAlphanum || "!#$%&'*+-.^_|~".toList.contains c || c.toNat == 0x60

/-- Whether a character may stand between quotes. -/
def isQuotedChar (c : Char) : Bool := decide (31 < c.toNat) && decide (c.toNat ≤ 126)

/-- What follows the closing quote of a value that has at least one character. -/
def afterQuoted? (s : List Char) : Option (List Char) :=
  match s with
  | [] => none
  | first :: rest =>
    if isQuotedChar first then
      let closing := rest.dropWhile fun c => c != '"'
      if (rest.takeWhile fun c => c != '"').all isQuotedChar then closing.tail? else none
    else none

/-- Whether a text is a list of parameters, each with its value.  Blanks may stand before a name and
after a quoted value.  `fuel` bounds their number. -/
def areParameters : (fuel : Nat) → List Char → Bool
  | 0, _ => false
  | fuel + 1, s =>
    match s.dropWhile fun c => c == ' ' with
    | [] => true
    | first =>
      match first.takeWhile isTokenChar, first.dropWhile isTokenChar with
      | _ :: _, '=' :: '"' :: quoted =>
        match (afterQuoted? quoted).map fun after => after.dropWhile fun c => c == ' ' with
        | some [] => true
        | some (';' :: more) => areParameters fuel more
        | _ => false
      | _ :: _, '=' :: value =>
        match value.takeWhile isTokenChar, value.dropWhile isTokenChar with
        | _, [] => true
        | _ :: _, ';' :: more => areParameters fuel more
        | _, _ => false
      | _, _ => false

/-- What stands before the last plus sign of a text and what stands after it.  A plus sign at the
front is part of the name. -/
def splitSuffix (s : List Char) : List Char × Option (List Char) :=
  let after := s.reverse.takeWhile fun c => c != '+'
  let front := s.take (s.length - after.length - 1)
  if front.isEmpty then (s, none) else (front, some after.reverse)

/-- Reads a media type. -/
def parse? (s : String) : Option MediaType :=
  let chars := s.toList.map Char.toLower
  match chars.takeWhile isTokenChar, chars.dropWhile isTokenChar with
  | type@(_ :: _), '/' :: rest =>
    let name := rest.takeWhile isTokenChar
    let found : Option MediaType :=
      some ⟨type, (splitSuffix name).1, (splitSuffix name).2⟩
    match name, rest.dropWhile isTokenChar with
    | _, [] => found
    | _ :: _, ';' :: more => if areParameters (more.length + 1) more then found else none
    | _, _ => none
  | _, _ => none

/-- Whether a media type says JSON. -/
def isJson (m : MediaType) : Bool :=
  m.type == "application".toList &&
    (m.subtype == "json".toList || m.suffix? == some "json".toList)

end MediaType

end AskTables
