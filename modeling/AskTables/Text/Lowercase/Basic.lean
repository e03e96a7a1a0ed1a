import AskTables.Text.Blank
import AskTables.Text.Lowercase.Table

/-!
# Lower case

Lower-casing a text by the full Unicode rules.  Each character has its own lower-case form, with two
exceptions.  `İ` becomes two characters.  The letter `Σ` depends on its neighbours: it becomes `ς`
at the end of a word and `σ` elsewhere.
-/

namespace AskTables.Text

/-- The lower-case form of a character on its own. -/
def lowerChar (c : Char) : Char :=
  if c.toNat < 0x80 then c.toLower
  else
    match lowercaseRuns.find? fun r => r.contains c.toNat with
    | some r => Char.ofNat ((c.toNat : Int) + r.offset).toNat
    | none => c

/-- Whether a character has a case. -/
def isCased (c : Char) : Bool := inRanges casedRanges c

/-- Whether a character is passed over in the search for a neighbour that has a case. -/
def isCaseIgnorable (c : Char) : Bool := inRanges caseIgnorableRanges c

/-- Whether the nearest character that is not passed over has a case. -/
def meetsCased (s : List Char) : Bool :=
  match s.dropWhile isCaseIgnorable with
  | c :: _ => isCased c
  | [] => false

/-- The lower-case form of `c`, with the characters before it, nearest first, and after it. -/
def lowerAt (before : List Char) (c : Char) (after : List Char) : List Char :=
  if c = 'Σ' then
    if meetsCased before && !meetsCased after then ['ς'] else ['σ']
  else if c = 'İ' then ['i', '\u0307']
  else [lowerChar c]

/-- The lower-case form of a text that follows the characters `before`, nearest first. -/
def lowerAfter (before : List Char) : List Char → List Char
  | [] => []
  | c :: rest => lowerAt before c rest ++ lowerAfter (c :: before) rest

/-- The lower-case form of a text. -/
def lowercase (s : List Char) : List Char := lowerAfter [] s

end AskTables.Text
