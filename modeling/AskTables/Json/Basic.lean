/-!
# JSON values

A JSON value as it is written: objects keep the order of their members and every repetition, and a
number is kept as its digits.  How a number is understood is left to whoever reads the value.

A string is *garbled* when its escapes name half of a surrogate pair.  A garbled string is well
formed but stands for no text, so it matters only where it is read.

`Json.render` writes a value without any white space.
-/

namespace AskTables

/-- A JSON value. -/
inductive Json where
  | null
  | bool (value : Bool)
  /-- A number, as its characters. -/
  | number (digits : String)
  /-- A string, `none` if it is garbled. -/
  | text (value : Option String)
  | array (items : List Json)
  /-- An object, as its members in order.  A name is `none` if it is garbled. -/
  | object (members : List (Option String × Json))
deriving Inhabited

namespace Json

/-- A JSON string. -/
def ofString (s : String) : Json := .text (some s)

/-- A JSON object with the given members. -/
def ofMembers (members : List (String × Json)) : Json :=
  .object (members.map fun m => (some m.1, m.2))

/-- A JSON number with the given value. -/
def ofNat (n : Nat) : Json := .number (toString n)

/-! ## Writing -/

/-- A character inside a string: quote, backslash and control characters are escaped, all else
stands for itself. -/
def escapeChar (c : Char) : List Char :=
  match c with
  | '"' => ['\\', '"']
  | '\\' => ['\\', '\\']
  | '\x08' => ['\\', 'b']
  | '\t' => ['\\', 't']
  | '\n' => ['\\', 'n']
  | '\x0c' => ['\\', 'f']
  | '\r' => ['\\', 'r']
  | _ =>
    if c.toNat < 0x20 then
      ['\\', 'u', '0', '0', Nat.digitChar (c.toNat / 16), Nat.digitChar (c.toNat % 16)]
    else [c]

/-- A text between quotes. -/
def renderText (s : List Char) : List Char := '"' :: (s.flatMap escapeChar ++ ['"'])

/-- A string; a garbled one is written as half of a surrogate pair. -/
def renderString : Option String → List Char
  | some s => renderText s.toList
  | none => ['"', '\\', 'u', 'd', '8', '0', '0', '"']

mutual

/-- The characters of a value. -/
def renderChars : Json → List Char
  | .null => ['n', 'u', 'l', 'l']
  | .bool true => ['t', 'r', 'u', 'e']
  | .bool false => ['f', 'a', 'l', 's', 'e']
  | .number digits => digits.toList
  | .text value => renderString value
  | .array items => '[' :: (renderItems items ++ [']'])
  | .object members => '\x7b' :: (renderMembers members ++ ['\x7d'])

/-- Values with commas between. -/
def renderItems : List Json → List Char
  | [] => []
  | [v] => renderChars v
  | v :: w :: rest => renderChars v ++ ',' :: renderItems (w :: rest)

/-- Members with commas between. -/
def renderMembers : List (Option String × Json) → List Char
  | [] => []
  | [(k, v)] => renderString k ++ ':' :: renderChars v
  | (k, v) :: m :: rest =>
    renderString k ++ ':' :: (renderChars v ++ ',' :: renderMembers (m :: rest))

end

/-- The text of a value. -/
def render (j : Json) : String := String.ofList j.renderChars

end Json

end AskTables
