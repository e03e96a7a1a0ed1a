import AskTables.Pattern.Basic

/-!
# Searching a text for a pattern

A text is searched in one pass.  An *attempt* is one way in which the pattern may still come to
match, and the attempts at a position of the text are kept in order of preference: an earlier
beginning before a later one, then the choices in their order and another round of a repetition
before its end.  `Pattern.search?` gives the match that is preferred to all others.

What an attempt has still to do is its *plan*, a list of steps.  Taking up a plan at a position
(`Plan.survey`) follows it up to the characters it can read next.  Where it can go on in two ways it
*forks*, and a plan that forks is taken up only once at a position: whoever comes to it later could
only repeat what is there already.  So a round of a repetition that reads nothing ends when it comes
back to its own plan, and the attempts at a position stay bounded by the pattern, however long the
text is.

A plan tells parts of the pattern apart by their *place*, also when they look alike.  The whole
pattern has place 1, and the parts of the pattern at place `n` have the places `2 * n` and
`2 * n + 1`.
-/

namespace AskTables

/-! ## Marks -/

/-- An end of a group. -/
inductive Edge where
  | opening
  | closing
deriving DecidableEq, Inhabited

/-- A record that an attempt passed an end of a group. -/
structure Mark where
  /-- The number of the group. -/
  group : Nat
  /-- Which end of it. -/
  edge : Edge
  /-- The number of characters before it. -/
  position : Nat
deriving DecidableEq, Inhabited

/-- The marks of an attempt, newest first. -/
abbrev Marks := List Mark

namespace Marks

/-- The newest position of an end of a group. -/
def position? (marks : Marks) (group : Nat) (edge : Edge) : Option Nat :=
  (marks.find? fun m => m.group = group ∧ m.edge = edge).map Mark.position

/-- The text between the newest ends of a group, empty if the group took no part. -/
def textOf (marks : Marks) (s : List Char) (group : Nat) : String :=
  match marks.position? group .opening, marks.position? group .closing with
  | some start, some stop => String.ofList ((s.drop start).take (stop - start))
  | _, _ => ""

/-- The texts of groups 1 to `groups`. -/
def texts (marks : Marks) (s : List Char) (groups : Nat) : List String :=
  (List.range groups).map fun i => marks.textOf s (i + 1)

end Marks

/-! ## Plans and attempts -/

/-- A step of a plan. -/
inductive Step where
  /-- To match a part of the pattern. -/
  | part (place : Nat) (p : Pattern)
  /-- To repeat the body of the repetition at a place once more or to leave it. -/
  | again (place : Nat) (body : Pattern)
  /-- To close a group. -/
  | close (group : Nat)
deriving DecidableEq, Inhabited

/-- What is still to be done, in order. -/
abbrev Plan := List Step

/-- A way in which the pattern may come to match. -/
inductive Attempt where
  /-- One that waits for a character of a set, and what it does afterwards. -/
  | reading (set : CharSet) (plan : Plan) (marks : Marks)
  /-- One that has matched. -/
  | complete (marks : Marks)
deriving DecidableEq, Inhabited

namespace Attempt

/-- Whether an attempt waits for a character. -/
def isReading : Attempt → Bool
  | .reading .. => true
  | .complete _ => false

/-- The marks of an attempt that has matched. -/
def complete? : Attempt → Option Marks
  | .reading .. => none
  | .complete marks => some marks

end Attempt

/-- The attempts at a position, the preferred first, and the plans that have been taken up there. -/
structure Survey where
  /-- The attempts. -/
  attempts : List Attempt
  /-- The plans that fork. -/
  seen : List Plan
deriving DecidableEq, Inhabited

namespace Survey

/-- No attempt. -/
def none (seen : List Plan) : Survey := ⟨[], seen⟩

/-- One survey and then another, which knows what the first has seen. -/
def andThen (first : Survey) (second : List Plan → Survey) : Survey :=
  let later := second first.seen
  ⟨first.attempts ++ later.attempts, later.seen⟩

/-- The two ways to go on with a plan, unless it has been taken up before. -/
def fork (plan : Plan) (first second : List Plan → Survey) (seen : List Plan) : Survey :=
  if plan ∈ seen then none seen else (first (plan :: seen)).andThen second

end Survey

open Survey (fork)

/-! ## Taking up a plan -/

/-- Takes up the pattern at a place.  `after` is the plan for what follows it, and `next` takes that
plan up where the pattern matches nothing. -/
def Pattern.survey (position : Nat) : Pattern → (place : Nat) → (after : Plan) →
    (next : Marks → List Plan → Survey) → Marks → List Plan → Survey
  | .empty, _, _, next => next
  | .char set, _, after, _ => fun marks seen => ⟨[.reading set after marks], seen⟩
  | .seq p q, place, after, next =>
    p.survey position (2 * place) (.part (2 * place + 1) q :: after)
      (q.survey position (2 * place + 1) after next)
  | .alt p q, place, after, next => fun marks =>
    fork (.part place (.alt p q) :: after) (p.survey position (2 * place) after next marks)
      (q.survey position (2 * place + 1) after next marks)
  | .rep count p, place, after, next =>
    let round : (Marks → List Plan → Survey) → Marks → List Plan → Survey :=
      p.survey position (2 * place) (.again place p :: after)
    let rounds := round fun marks =>
      fork (.again place p :: after) (round (fun _ => Survey.none) marks) (next marks)
    match count with
    | .optional => fun marks =>
      fork (.part place (.rep .optional p) :: after)
        (p.survey position (2 * place) after next marks) (next marks)
    | .any => fun marks =>
      fork (.part place (.rep .any p) :: after) (rounds marks) (next marks)
    | .positive => rounds
  | .group i p, place, after, next => fun marks =>
    p.survey position (2 * place) (.close i :: after)
      (fun marks => next (⟨i, .closing, position⟩ :: marks)) (⟨i, .opening, position⟩ :: marks)

/-- Takes up a plan. -/
def Plan.survey (position : Nat) : Plan → Marks → List Plan → Survey
  | [] => fun marks seen => ⟨[.complete marks], seen⟩
  | .part place p :: rest => p.survey position place rest (Plan.survey position rest)
  | .again place p :: rest => fun marks =>
    fork (.again place p :: rest)
      (p.survey position (2 * place) (.again place p :: rest) (fun _ => Survey.none) marks)
      (Plan.survey position rest marks)
  | .close i :: rest => fun marks => Plan.survey position rest (⟨i, .closing, position⟩ :: marks)

/-! ## The search -/

/-- The attempts that can read a character, just after it. -/
def Attempt.advance (position : Nat) (c : Char) : List Attempt → List Plan → Survey
  | .reading set plan marks :: rest, seen =>
    if set.accepts c then
      (Plan.survey position plan marks seen).andThen (Attempt.advance position c rest)
    else Attempt.advance position c rest seen
  | .complete _ :: rest, seen => Attempt.advance position c rest seen
  | [], seen => Survey.none seen

namespace Pattern

/-- The attempts at a position.  As long as nothing has been found, the last of them begin there. -/
def attemptsAt (p : Pattern) (position : Nat) (found : Option Marks) (s : Survey) : List Attempt :=
  match found with
  | some _ => s.attempts
  | none => (s.andThen (Plan.survey position [.part 1 p] [])).attempts

/-- The marks of the preferred match, from the attempts that reach a position, what has been found
before it and the text after it.  Once an attempt has matched, those after it are given up. -/
def searchFrom (p : Pattern) (position : Nat) (s : Survey) (found : Option Marks) :
    List Char → Option Marks
  | [] => ((p.attemptsAt position found s).findSome? Attempt.complete?).or found
  | c :: rest =>
    let attempts := p.attemptsAt position found s
    p.searchFrom (position + 1)
      (Attempt.advance (position + 1) c (attempts.takeWhile Attempt.isReading) [])
      ((attempts.findSome? Attempt.complete?).or found) rest

/-- The marks of the preferred match of a pattern in a text. -/
def search? (p : Pattern) (s : List Char) : Option Marks := p.searchFrom 0 (Survey.none []) none s

/-- Whether a pattern matches somewhere in a text. -/
def occursIn (p : Pattern) (s : List Char) : Bool := (p.search? s).isSome

end Pattern

end AskTables
