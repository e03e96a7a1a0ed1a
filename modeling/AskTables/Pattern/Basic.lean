import AskTables.Text.Blank

/-!
# Patterns

A *pattern* describes texts: single characters, sequences, ordered choices, repetitions and numbered
groups that capture what they match.  Letters match in either ASCII case.

`Pattern.sequence` and `Pattern.choice` put patterns side by side.  They make no difference between
parts that are written together and parts in groups of their own, and a choice between sequences is
made only after what all of them begin with.
-/

namespace AskTables

/-! ## Sets of characters -/

/-- What one place of a pattern accepts. -/
inductive CharSet where
  /-- Characters in inclusive ranges, in either ASCII case. -/
  | ranges (ranges : List (Char × Char))
  /-- Blank characters. -/
  | blank
  /-- All other characters. -/
  | ink
deriving DecidableEq, Inhabited

namespace CharSet

/-- The same letter in the other ASCII case, and any other character itself. -/
def swapCase (c : Char) : Char := if c.isUpper then c.toLower else c.toUpper

/-- Whether a character lies in one of some inclusive ranges. -/
def within (ranges : List (Char × Char)) (c : Char) : Bool :=
  ranges.any fun r => r.1 ≤ c && c ≤ r.2

/-- Whether a set accepts a character. -/
def accepts : CharSet → Char → Bool
  | .ranges rs, c => within rs c || within rs (swapCase c)
  | .blank, c => Text.isBlank c
  | .ink, c => !Text.isBlank c

/-- One character, in either ASCII case. -/
def single (c : Char) : CharSet := .ranges [(c, c)]

/-- The ASCII digits. -/
def digit : CharSet := .ranges [('0', '9')]

/-- The ASCII letters, the ASCII digits and the underscore. -/
def word : CharSet := .ranges [('0', '9'), ('A', 'Z'), ('_', '_'), ('a', 'z')]

end CharSet

/-! ## Patterns -/

/-- How often the body of a repetition stands. -/
inductive Count where
  /-- Once or not at all. -/
  | optional
  /-- Any number of times. -/
  | any
  /-- Once or more. -/
  | positive
deriving DecidableEq, Inhabited

/-- A description of texts. -/
inductive Pattern where
  /-- The empty text. -/
  | empty
  /-- One character of a set. -/
  | char (set : CharSet)
  /-- One pattern after another. -/
  | seq (first second : Pattern)
  /-- One pattern or, failing that, another. -/
  | alt (first second : Pattern)
  /-- A pattern repeated, as often as it can be. -/
  | rep (count : Count) (body : Pattern)
  /-- A pattern whose match is kept under a number. -/
  | group (index : Nat) (body : Pattern)
deriving DecidableEq, Inhabited

namespace Pattern

/-- One pattern or nothing. -/
def opt (p : Pattern) : Pattern := .rep .optional p

/-- A pattern any number of times. -/
def star (p : Pattern) : Pattern := .rep .any p

/-- A pattern once or more. -/
def plus (p : Pattern) : Pattern := .rep .positive p

/-- The characters of a text one after another. -/
def literal (s : List Char) : Pattern := s.foldr (fun c p => .seq (.char (.single c)) p) .empty

/-! ## Sequences and choices of several patterns -/

/-- The patterns that a pattern has one after another. -/
def parts : Pattern → List Pattern
  | .empty => []
  | .seq p q => p.parts ++ q.parts
  | p => [p]

/-- The patterns that a pattern chooses from, in order. -/
def choices : Pattern → List Pattern
  | .alt p q => p.choices ++ q.choices
  | p => [p]

/-- Parts one after another. -/
def ofParts : List Pattern → Pattern
  | [] => .empty
  | [p] => p
  | p :: ps => .seq p (ofParts ps)

/-- The first of some choices that fits. -/
def ofChoices : List Pattern → Pattern
  | [] => .empty
  | [p] => p
  | p :: ps => .alt p (ofChoices ps)

/-- Patterns one after another. -/
def sequence (ps : List Pattern) : Pattern := ofParts (ps.flatMap parts)

/-- What two lists begin with alike. -/
def sharedFront : List Pattern → List Pattern → List Pattern
  | p :: ps, q :: qs => if p = q then p :: sharedFront ps qs else []
  | _, _ => []

/-- What all of some lists begin with alike. -/
def commonFront : List (List Pattern) → List Pattern
  | [] => []
  | [ps] => ps
  | ps :: rest => sharedFront ps (commonFront rest)

/-- The first of some patterns that fits.  If each of them has several parts, those that all of them
begin with are matched once, before the choice is made. -/
def choice (ps : List Pattern) : Pattern :=
  let branches := (ps.flatMap choices).map parts
  let front := if branches.all (2 ≤ ·.length) then commonFront branches else []
  sequence (front ++ [ofChoices (branches.map fun b => ofParts (b.drop front.length))])

end Pattern

end AskTables
