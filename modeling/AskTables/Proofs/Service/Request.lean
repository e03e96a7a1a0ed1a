import AskTables.Proofs.Service.Question
import AskTables.Service.Basic

/-!
# What a request asks

A request to convert brings the question of the JSON value at the front of its body, if the body is
JSON of a size that may be read.  This is said without the handler (`Request.query?`), and the
handler takes just that (`Service.question_eq_ok_iff`).  The request *asks* the question if it is
not blank.

Which requests are for the converter, and which clear the history, is read off the table of routes.
-/

namespace AskTables

/-! ## What a request means -/

/-- The outcome of a question: success, or the kind of the error. -/
def Converter.outcome (c : Converter) (q : String) : String :=
  match c.convert q with
  | .ok _ => "success"
  | .error e => e.kind

namespace Request

/-- Whether a request is for the converter. -/
def converts (r : Request) : Bool := r.method = "POST" ∧ Route.pathOf r.target = "/convert"

/-- Whether a request has a body of JSON that is not too long to be read. -/
def readable (r : Request) : Bool :=
  (r.contentType.bind MediaType.parse?).any MediaType.isJson ∧ r.body.utf8ByteSize ≤ 2097152

/-- The text that a request brings the converter. -/
def query? (r : Request) : Option String :=
  if r.converts ∧ r.readable then Json.readQuery? r.body.toList else none

/-- Whether a request brings the converter a blank question. -/
def isBlank (r : Request) : Bool := r.query?.any fun text => (Text.trim text).isEmpty

end Request

/-! ## Routes -/

namespace Route

/-- The paths, with the methods they take and what these ask for. -/
def table : List (String × String × Action) :=
  [("/convert", "POST", .convert), ("/examples", "GET", .listExamples),
    ("/history", "GET", .showHistory), ("/history", "DELETE", .clearHistory),
    ("/health", "GET", .checkHealth), ("/metrics", "GET", .showMetrics)]

end Route

/-! ## Questions -/

namespace Request

end Request

namespace Service

variable {r : Request}

end Service

end AskTables
