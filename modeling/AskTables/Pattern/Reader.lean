import AskTables.Pattern.Basic

/-!
# The notation of patterns

Patterns are written in the usual notation: characters stand for themselves, `(…)` is a group that
captures, `(?:…)` one that does not, `|` separates choices, `?`, `*` and `+` repeat what is before
them, `[…]` is a set of characters and ranges, and a backslash takes the meaning from a sign or
gives one to `d`, `w` and `s`.

`Pattern.parse?` reads the notation in one pass, with a stack of the groups that are still open.  It
refuses a group or set without its end, an end without its beginning, a repetition of nothing, a
backslash at the end, a pattern that is too high, and the parts of the notation it has no meaning
for: the point, anchors, counts in braces, complements and repetitions that take as little as they
can.
-/

namespace AskTables

namespace Pattern

/-- The greatest height of a pattern. -/
def heightLimit : Nat := 250

/-- What stands between the brackets of a set: a character, a range or a class, as ranges. -/
abbrev SetItem := List (Char × Char)

/-- A pattern that has been read.  Its height is the number of groups, repetitions, choices,
sequences and sets around its innermost part. -/
structure Piece where
  /-- The pattern. -/
  pattern : Pattern
  /-- The height. -/
  height : Nat

namespace Piece

/-- A part with nothing inside it. -/
def single (p : Pattern) : Piece := ⟨p, 0⟩

/-- The set of some items between brackets. -/
def set (items : List SetItem) : Piece :=
  ⟨.char (.ranges items.flatten), if items.length = 1 then 1 else 2⟩

/-- The height of parts that stand together. -/
def heightOf : List Piece → Nat
  | [] => 0
  | [p] => p.height
  | ps => (ps.map Piece.height).foldl max 0 + 1

/-- Parts one after another. -/
def sequence (ps : List Piece) : Piece := ⟨Pattern.sequence (ps.map Piece.pattern), heightOf ps⟩

/-- The first of some parts that fits. -/
def choice (ps : List Piece) : Piece := ⟨Pattern.choice (ps.map Piece.pattern), heightOf ps⟩

/-- A part inside a group or a repetition. -/
def wrap (p : Piece) (f : Pattern → Pattern) : Piece := ⟨f p.pattern, p.height + 1⟩

end Piece

/-- The choices and the sequence that are being read, newest first. -/
structure Frame where
  /-- The number of the group, if it captures. -/
  index : Option Nat
  /-- The choices that are complete. -/
  choices : List Piece
  /-- The parts of the current choice. -/
  parts : List Piece

namespace Frame

/-- A frame with nothing read. -/
def start (index : Option Nat) : Frame := ⟨index, [], []⟩

/-- Adds a part to the current choice. -/
def push (f : Frame) (p : Piece) : Frame := ⟨f.index, f.choices, p :: f.parts⟩

/-- Completes the current choice and begins the next. -/
def nextChoice (f : Frame) : Frame := ⟨f.index, .sequence f.parts.reverse :: f.choices, []⟩

/-- The choices in order. -/
def body (f : Frame) : Piece := .choice (.sequence f.parts.reverse :: f.choices).reverse

/-- The choices in order and the group around them. -/
def close (f : Frame) : Piece :=
  f.body.wrap fun p =>
    match f.index with
    | some i => .group i p
    | none => p

/-- Repeats the last part, if there is one. -/
def repeatLast? (f : Frame) (r : Pattern → Pattern) : Option Frame :=
  match f.parts with
  | p :: rest => some ⟨f.index, f.choices, p.wrap r :: rest⟩
  | [] => none

end Frame

/-- What is being read. -/
inductive Mode where
  /-- Parts of a choice. -/
  | parts
  /-- Parts of a choice, just after a repetition. -/
  | repeated
  /-- A group, just after its parenthesis. -/
  | opening
  /-- A group, after its parenthesis and a question mark. -/
  | openingMark
  /-- The character after a backslash. -/
  | escape
  /-- A set, with its items so far. -/
  | set (items : List SetItem)
  /-- A set after an item that may begin a range. -/
  | setAfter (items : List SetItem) (last : SetItem)
  /-- A set after such an item and a hyphen. -/
  | setRange (items : List SetItem) (last : SetItem)
  /-- A set after a backslash. -/
  | setEscape (items : List SetItem)

/-- The state of the reader of patterns. -/
structure Reading where
  /-- What is being read. -/
  mode : Mode
  /-- The innermost open group, or the whole pattern. -/
  frame : Frame
  /-- The groups around it, innermost first. -/
  outer : List Frame
  /-- The groups that capture, so far. -/
  groups : Nat

namespace Reading

/-- Nothing read yet. -/
def start : Reading := ⟨.parts, .start none, [], 0⟩

/-- Adds a part and goes on with parts. -/
def push (r : Reading) (p : Piece) : Reading := { r with mode := .parts, frame := r.frame.push p }

/-- Opens a group. -/
def openGroup (r : Reading) (captures : Bool) : Reading :=
  if captures then ⟨.parts, .start (some (r.groups + 1)), r.frame :: r.outer, r.groups + 1⟩
  else ⟨.parts, .start none, r.frame :: r.outer, r.groups⟩

/-- Closes the innermost group. -/
def closeGroup? (r : Reading) : Option Reading :=
  match r.outer with
  | f :: rest => some ⟨.parts, f.push r.frame.close, rest, r.groups⟩
  | [] => none

/-- Repeats the last part. -/
def repeatLast? (r : Reading) (f : Pattern → Pattern) : Option Reading :=
  (r.frame.repeatLast? f).map fun frame => { r with mode := .repeated, frame := frame }

/-- The ranges that a letter after a backslash stands for. -/
def classOf? (c : Char) : Option SetItem :=
  match c with
  | 'd' => some [('0', '9')]
  | 'w' => some [('0', '9'), ('A', 'Z'), ('_', '_'), ('a', 'z')]
  | 's' => some [('\t', '\r'), (' ', ' ')]
  | _ => none

/-- The character that a sign after a backslash stands for. -/
def signOf? (c : Char) : Option Char :=
  match c with
  | 'n' => some '\n'
  | 'r' => some '\r'
  | 't' => some '\t'
  | _ => if c.isAlphanum || c.toNat ≥ 0x80 || c == '<' || c == '>' then none else some c

/-- Reads one character of a set.  A bracket stands for itself as the first item, and so does a
hyphen while there is nothing else. -/
def stepSet? (r : Reading) (items : List SetItem) (c : Char) : Option Reading :=
  match c with
  | ']' =>
    if items.isEmpty then some { r with mode := .setAfter items [(c, c)] }
    else some (r.push (.set items))
  | '^' => if items.isEmpty then none else some { r with mode := .setAfter items [(c, c)] }
  | '-' =>
    if items.all (· == [(c, c)]) then some { r with mode := .set (items ++ [[(c, c)]]) }
    else some { r with mode := .setAfter items [(c, c)] }
  | '\\' => some { r with mode := .setEscape items }
  | '[' => none
  | _ => if c.toNat < 0x80 then some { r with mode := .setAfter items [(c, c)] } else none

/-- Reads the end of a range.  Only a single character can begin one, and a hyphen before the end of
the set stands for itself. -/
def stepRange? (r : Reading) (items : List SetItem) (last : SetItem) (c : Char) : Option Reading :=
  if c = ']' then some (r.push (.set (items ++ [last, [('-', '-')]])))
  else if c = '\\' ∨ c = '[' ∨ c = '-' ∨ 0x80 ≤ c.toNat then none
  else
    match last with
    | [(d, e)] =>
      if d = e ∧ d ≤ c then some { r with mode := .set (items ++ [[(d, c)]]) } else none
    | _ => none

/-- Reads one character of a choice. -/
def stepParts? (r : Reading) (c : Char) : Option Reading :=
  match c with
  | '(' => some { r with mode := .opening }
  | ')' => r.closeGroup?
  | '|' => some { r with mode := .parts, frame := r.frame.nextChoice }
  | '?' => r.repeatLast? opt
  | '*' => r.repeatLast? star
  | '+' => r.repeatLast? plus
  | '[' => some { r with mode := .set [] }
  | '\\' => some { r with mode := .escape }
  | '.' | '^' | '$' | '\x7b' => none
  | _ => some (r.push (.single (.char (.single c))))

/-- Reads one character of a pattern. -/
def step? (r : Reading) (c : Char) : Option Reading :=
  match r.mode with
  | .parts => r.stepParts? c
  | .repeated => if c = '?' then none else r.stepParts? c
  | .opening =>
    if c = '?' then some { r with mode := .openingMark } else (r.openGroup true).stepParts? c
  | .openingMark => if c = ':' then some (r.openGroup false) else none
  | .escape =>
    match classOf? c with
    | some ranges => some (r.push (.single (.char (.ranges ranges))))
    | none => (signOf? c).map fun d => r.push (.single (.char (.single d)))
  | .set items => r.stepSet? items c
  | .setAfter items last =>
    if c = '-' then some { r with mode := .setRange items last }
    else r.stepSet? (items ++ [last]) c
  | .setRange items last => r.stepRange? items last c
  | .setEscape items =>
    match classOf? c with
    | some ranges => some { r with mode := .setAfter items ranges }
    | none => (signOf? c).map fun d => { r with mode := .setAfter items [(d, d)] }

/-- Whether a pattern may end in this state. -/
def isComplete (r : Reading) : Bool :=
  match r.mode with
  | .parts | .repeated => r.outer.isEmpty
  | _ => false

end Reading

/-- The pattern that a text writes, and the number of its groups that capture. -/
def parse? (s : String) : Option (Pattern × Nat) :=
  match s.toList.foldlM Reading.step? Reading.start with
  | some r =>
    if r.isComplete && r.frame.body.height ≤ heightLimit then some (r.frame.body.pattern, r.groups)
    else none
  | none => none

end Pattern

end AskTables
