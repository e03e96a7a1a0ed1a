import AskTables.Json.Number

/-!
# Shapes of JSON values

What readers of structured values have in common.

A *record* is an object with known members, or an array with the values of the known members in
order.  Unknown members are ignored, repeated known ones are refused.  A *choice* is a name, or an
object whose only member has that name and holds `null`.

A value that has to be held before it can be understood must be *sound*: no string in it is garbled,
no number is too large for a float, and it is not nested too deep.
-/

namespace AskTables.Json

/-! ## Soundness -/

mutual

/-- Whether every string is text and every number fits a float. -/
def isSound : Json → Bool
  | .null | .bool _ => true
  | .number digits => (numberCell? digits).isSome
  | .text value => value.isSome
  | .array items => areSound items
  | .object members => areSoundMembers members

/-- `isSound` for all items. -/
def areSound : List Json → Bool
  | [] => true
  | v :: rest => isSound v && areSound rest

/-- `isSound` for all members. -/
def areSoundMembers : List (Option String × Json) → Bool
  | [] => true
  | (name, v) :: rest => name.isSome && isSound v && areSoundMembers rest

end

mutual

/-- How many arrays and objects stand inside one another. -/
def depth : Json → Nat
  | .array items => 1 + depthOfItems items
  | .object members => 1 + depthOfMembers members
  | _ => 0

/-- The greatest depth of some items. -/
def depthOfItems : List Json → Nat
  | [] => 0
  | v :: rest => max (depth v) (depthOfItems rest)

/-- The greatest depth of some members. -/
def depthOfMembers : List (Option String × Json) → Nat
  | [] => 0
  | (_, v) :: rest => max (depth v) (depthOfMembers rest)

end

/-- The greatest depth of a value that is held. -/
def maxDepth : Nat := 127

/-- Whether a value inside `level` arrays and objects can be held. -/
def canHold (level : Nat) (j : Json) : Bool := j.isSound && decide (level + j.depth ≤ maxDepth)

/-! ## Records and choices -/

/-- The value of a member, if it occurs once.  `some none` says it is missing, `none` that it is
repeated. -/
def member? (name : String) (members : List (Option String × Json)) : Option (Option Json) :=
  match members.filter fun m => m.1 == some name with
  | [] => some none
  | [m] => some (some m.2)
  | _ :: _ :: _ => none

/-- The values of known members, if no name is garbled and no known one is repeated. -/
def members? (names : List String) (members : List (Option String × Json)) :
    Option (List (Option Json)) :=
  if members.all fun m => m.1.isSome then names.mapM fun name => member? name members else none

/-- The values of a record with the given members.  As an array it has one value for each. -/
def record? (names : List String) : Json → Option (List (Option Json))
  | .object members => members? names members
  | .array items => if items.length = names.length then some (items.map some) else none
  | _ => none

/-- The name of a choice. -/
def choice? : Json → Option String
  | .text name => name
  | .object [(name, .null)] => name
  | _ => none

/-- A text. -/
def toText? : Json → Option String
  | .text value => value
  | _ => none

/-- A text that may be missing or `null`. -/
def toOptionalText? : Option Json → Option (Option String)
  | none | some .null => some none
  | some (.text (some s)) => some (some s)
  | some _ => none

/-- A truth value. -/
def toBool? : Json → Option Bool
  | .bool b => some b
  | _ => none

/-- The items of an array, each read by `f`. -/
def toList? {α : Type} (f : Json → Option α) : Json → Option (List α)
  | .array items => items.mapM f
  | _ => none

end AskTables.Json
