import AskTables.Json.Shape
import AskTables.Json.Reader

/-!
# The question in a body

The body of a request to convert is a JSON object with the member `query`, a text, or an array that
holds the text alone.  Other members are ignored, and so is what follows the value.

A body that is no JSON is *malformed*, and one of another shape is *misshapen*.  The body is read
from the front and the first fault counts, so a wrong shape is reported even if the JSON breaks off
later.  A body of too many bytes is *oversized* and is not read at all.
-/

namespace AskTables

/-- What is wrong with a body. -/
inductive BodyError where
  /-- The body is no JSON. -/
  | malformed
  /-- The body is JSON of another shape. -/
  | misshapen
  /-- The body has too many bytes. -/
  | oversized
deriving DecidableEq, Inhabited

namespace Body

/-- The most bytes that a body may have: two mebibytes. -/
def limit : Nat := 2097152

/-- The name of the member that holds the question. -/
def questionKey : String := "query"

/-- The fault of a value where another kind of value was due.  An array or object is refused at its
bracket, any other value after it is read. -/
def wrongKind (s : List Char) : BodyError :=
  match s with
  | '[' :: _ | '\x7b' :: _ => .misshapen
  | _ =>
    match Json.read? s with
    | some (v, _) => if v.isSound then .misshapen else .malformed
    | none => .malformed

/-- A text at the front, and what follows it. -/
def readText (s : List Char) : Except BodyError (String × List Char) :=
  match Json.skipSpace s with
  | '"' :: rest =>
    match Json.readString? rest with
    | some (some text, after) => .ok (text, after)
    | _ => .error .malformed
  | front => .error (wrongKind front)

/-- The text that an array holds alone, after the opening bracket. -/
def readItem (s : List Char) : Except BodyError String :=
  match Json.skipSpace s with
  | ']' :: _ => .error .misshapen
  | front => do
    let (text, after) ← readText front
    match Json.skipSpace after with
    | ']' :: _ => return text
    | _ => throw .malformed

/-- What follows a colon. -/
def readColon (s : List Char) : Except BodyError (List Char) :=
  match Json.skipSpace s with
  | ':' :: rest => .ok rest
  | _ => .error .malformed

/-- The value of a member: the question if the name says so, and what follows. -/
def readMember (name : String) (found : Option String) (s : List Char) :
    Except BodyError (Option String × List Char) :=
  if name = questionKey then
    if found.isSome then .error .misshapen
    else do
      let (text, after) ← readText (← readColon s)
      return (some text, after)
  else do
    match Json.read? (← readColon s) with
    | some (_, after) => return (found, after)
    | none => throw .malformed

/-- The question of an object, from the name of a member on.  `fuel` bounds the number of members,
and `found` is the question so far. -/
def readMembers : (fuel : Nat) → (found : Option String) → List Char → Except BodyError String
  | 0, _, _ => .error .malformed
  | fuel + 1, found, s =>
    match s with
    | '"' :: named =>
      match Json.readString? named with
      | some (some name, rest) => do
        let (found, after) ← readMember name found rest
        match Json.skipSpace after with
        | '\x7d' :: _ => found.elim (throw .misshapen) pure
        | ',' :: more => readMembers fuel found (Json.skipSpace more)
        | _ => throw .malformed
      | _ => .error .malformed
    | _ => .error .malformed

/-- The question of an object, after the opening brace. -/
def readObject (s : List Char) : Except BodyError String :=
  match Json.skipSpace s with
  | '\x7d' :: _ => .error .misshapen
  | first => readMembers first.length none first

/-- The question of a body that may be read. -/
def readQuestion (s : List Char) : Except BodyError String :=
  match Json.skipSpace s with
  | '[' :: rest => readItem rest
  | '\x7b' :: rest => readObject rest
  | front => .error (wrongKind front)

/-- The question of a body. -/
def question (body : String) : Except BodyError String :=
  if limit < body.utf8ByteSize then .error .oversized else readQuestion body.toList

end Body

end AskTables
