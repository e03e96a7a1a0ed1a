import AskTables.Pattern.Reader
import AskTables.Pattern.Search
import AskTables.Text.Quoted

/-!
# Rules

A *rule* recognises one way of asking and turns it into the text of a statement.  It has a name, a
pattern that is looked for anywhere in the question, and a template that is filled with the
captures.

Templates come in two forms.  `Template.parts` is a list of pieces, used by the built-in rules.
`Template.holes` is a text with numbered holes from `{0}` to `{9}`, used by rules that are added.
The holes are filled one number after another, so a captured text may itself bring a hole.
-/

namespace AskTables

/-! ## Templates -/

/-- A piece of a template.  Captures count from zero, and a capture that does not exist is empty. -/
inductive Part where
  /-- A fixed text. -/
  | text (s : String)
  /-- A capture as it stands. -/
  | capture (index : Nat)
  /-- A capture in ASCII lower case. -/
  | lowered (index : Nat)
  /-- The sort direction that a capture names. -/
  | direction (index : Nat)
deriving DecidableEq, Inhabited

/-- How the text of a statement is made from captures. -/
inductive Template where
  | parts (parts : List Part)
  | holes (s : String)
deriving DecidableEq, Inhabited

/-- The capture at an index, from zero. -/
def captureAt (captures : List String) (index : Nat) : String := captures.getD index ""

/-- The sort direction that a word names, with the blank before it. -/
def directionText (word : String) : String :=
  match word.toLower with
  | "desc" | "descending" => " DESC"
  | "asc" | "ascending" => " ASC"
  | _ => ""

/-- The text of a piece. -/
def Part.fill (captures : List String) : Part → String
  | .text s => s
  | .capture i => captureAt captures i
  | .lowered i => (captureAt captures i).toLower
  | .direction i => directionText (captureAt captures i)

/-- Puts a text in the place of every hole that is marked by one digit. -/
def fillHole (digit : Char) (value : List Char) : List Char → List Char
  | '\x7b' :: d :: '\x7d' :: rest =>
    if d = digit then value ++ fillHole digit value rest
    else '\x7b' :: fillHole digit value (d :: '\x7d' :: rest)
  | c :: rest => c :: fillHole digit value rest
  | [] => []

/-- Fills the holes of a text, one number after another. -/
def fillHoles (captures : List String) (s : List Char) : List Char :=
  (List.range 10).foldl
    (fun text i => fillHole (Nat.digitChar i) (captureAt captures i).toList text) s

/-- The text that a template makes of captures. -/
def Template.fill (t : Template) (captures : List String) : String :=
  match t with
  | .parts pieces => String.join (pieces.map (Part.fill captures))
  | .holes text => String.ofList (fillHoles captures text.toList)

/-- The characters that pieces make are those of each piece, one after another. -/
theorem Template.toList_fill_parts (pieces : List Part) (captures : List String) :
    ((Template.parts pieces).fill captures).toList =
      pieces.flatMap fun p => (p.fill captures).toList := by
  simp [fill, String.toList_join, List.flatMap_map]

/-! ## Recognisers and rules -/

/-- A pattern with the text it was read from. -/
structure Recognizer where
  /-- The text of the pattern. -/
  source : String
  /-- The pattern. -/
  pattern : Pattern
  /-- The number of its groups that capture. -/
  groups : Nat
deriving DecidableEq, Inhabited

namespace Recognizer

/-- The recogniser of a pattern text, unless the text is no pattern. -/
def parse? (source : String) : Option Recognizer :=
  (Pattern.parse? source).map fun r => ⟨source, r.1, r.2⟩

/-- The captures in the preferred match.  A group that took no part is empty. -/
def recognize? (r : Recognizer) (text : String) : Option (List String) :=
  (r.pattern.search? text.toList).map fun marks => marks.texts text.toList r.groups

/-- A description for people. -/
def describe (r : Recognizer) : String := "RegexMatcher(" ++ Text.quote r.source ++ ")"

end Recognizer

/-- One way of asking, with the statement it stands for. -/
structure Rule where
  /-- The name. -/
  name : String
  /-- What it recognises. -/
  recognizer : Recognizer
  /-- The statement. -/
  template : Template
deriving DecidableEq, Inhabited

namespace Rule

/-- A rule from the text of its pattern, unless the text is no pattern. -/
def parse? (name source : String) (template : Template) : Option Rule :=
  (Recognizer.parse? source).map fun r => ⟨name, r, template⟩

/-- The text of the statement, if the rule recognises the question. -/
def interpret? (r : Rule) (text : String) : Option String :=
  (r.recognizer.recognize? text).map r.template.fill

/-- A description for people. -/
def describe (r : Rule) : String :=
  "PatternRule \x7b name: " ++ Text.quote r.name ++ ", matcher: " ++ r.recognizer.describe ++
    " \x7d"

end Rule

end AskTables
