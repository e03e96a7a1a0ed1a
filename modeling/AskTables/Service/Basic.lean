import AskTables.Conversion
import AskTables.Phrase.Example
import AskTables.Service.Body
import AskTables.Service.History
import AskTables.Service.MediaType
import AskTables.Service.Metrics
import AskTables.Service.Route

/-!
# The service

The service answers requests and keeps a history and counters.  `Service.handle` answers one request
and gives the service after it, and `Service.run` answers requests one after another.

Only two actions change the service.  A question that is not blank is counted, and if it has an
answer it goes into the history.  Clearing empties the history and leaves the counters.
-/

namespace AskTables

/-- A request. -/
structure Request where
  /-- The method. -/
  method : String
  /-- The path, possibly with a query. -/
  target : String
  /-- The media type of the body, if it is named. -/
  contentType : Option String
  /-- The body. -/
  body : String
deriving DecidableEq, Inhabited

/-- What a response holds. -/
inductive Content where
  | none
  /-- A plain text. -/
  | text (text : String)
  /-- A JSON value. -/
  | json (value : Json)
  /-- The entries of the history, newest first. -/
  | history (entries : List HistoryEntry)
  /-- The lines of the counters. -/
  | metrics (lines : List String)
deriving Inhabited

/-- A response. -/
structure Response where
  /-- The status code. -/
  status : Nat
  /-- The content. -/
  content : Content
deriving Inhabited

namespace Response

/-- A response without content. -/
def bare (status : Nat) : Response := ⟨status, .none⟩

/-- A response that says what went wrong. -/
def failure (status : Nat) (message kind : String) : Response :=
  ⟨status, .json (.ofMembers [("error", .ofString message), ("kind", .ofString kind)])⟩

/-- The response to a method that asks for no body. -/
def withoutBody (r : Response) : Response :=
  match r.content with
  | .none => r
  | .text _ | .json _ => ⟨r.status, .text ""⟩
  | .history _ => ⟨r.status, .history []⟩
  | .metrics _ => ⟨r.status, .metrics []⟩

/-- The response to a blank question. -/
def blankQuestion : Response :=
  failure 400 "Please enter a natural language query." "empty_query"

/-- The response to a request that asks for nothing. -/
def ofRouteError : RouteError → Response
  | .unknownPath => bare 404
  | .wrongMethod => bare 405

/-- The response to a body that holds no question. -/
def ofBodyError : BodyError → Response
  | .malformed => bare 400
  | .misshapen => bare 422
  | .oversized => bare 413

/-- The response to a question without an answer. -/
def ofConvertError (e : ConvertError) : Response :=
  let status := match e with
    | .query (.missingTable _) => 404
    | _ => 422
  failure status e.message e.kind

/-- The response to a question with an answer. -/
def ofConversion (c : Conversion) : Response :=
  ⟨200, .json (.ofMembers [("sql", .ofString c.result.sql), ("rule", .ofString c.rule),
    ("columns", .array (c.result.columns.map Json.ofString)),
    ("rows", .array (c.result.rows.map Row.toJson)),
    ("row_count", .ofNat c.result.rows.length)])⟩

end Response

/-- The service at one moment. -/
structure Service where
  /-- What answers questions. -/
  converter : Converter
  /-- The last questions with an answer. -/
  history : History
  /-- The counters. -/
  metrics : Metrics
deriving Inhabited

/-- How the handling of a question ended, as the counters name it. -/
def outcomeName : Except ConvertError Conversion → String
  | .ok _ => "success"
  | .error e => e.kind

namespace Service

/-- The service before the first request. -/
def start (converter : Converter) (capacity : Nat) : Service :=
  ⟨converter, .empty capacity, .empty⟩

/-- The question that a request to convert brings. -/
def question (r : Request) : Except Response String :=
  match r.contentType.bind MediaType.parse? with
  | some m =>
    if m.isJson then
      match Body.question r.body with
      | .ok text => .ok text
      | .error e => .error (.ofBodyError e)
    else .error (.bare 415)
  | none => .error (.bare 415)

/-- Answers a question. -/
def ask (s : Service) (text : String) : Service × Response :=
  let question := Text.trim text
  if question.isEmpty then (s, .blankQuestion)
  else
    let outcome := s.converter.convert question
    let metrics := s.metrics.record (outcomeName outcome)
    match outcome with
    | .ok c => (⟨s.converter, s.history.record ⟨question, c.result.sql⟩, metrics⟩, .ofConversion c)
    | .error e => (⟨s.converter, s.history, metrics⟩, .ofConvertError e)

/-- Does what a request asks for. -/
def perform (s : Service) (r : Request) : Action → Service × Response
  | .convert =>
    match question r with
    | .ok text => s.ask text
    | .error response => (s, response)
  | .listExamples => (s, ⟨200, .json (.array (ExampleQuestion.all.map ExampleQuestion.toJson))⟩)
  | .showHistory => (s, ⟨200, .history s.history.entries⟩)
  | .clearHistory => (⟨s.converter, s.history.clear, s.metrics⟩, .bare 204)
  | .checkHealth => (s, ⟨200, .text "OK"⟩)
  | .showMetrics => (s, ⟨200, .metrics s.metrics.lines⟩)

/-- Answers a request. -/
def handle (s : Service) (r : Request) : Service × Response :=
  match Route.action r.method r.target with
  | .error e => (s, .ofRouteError e)
  | .ok a =>
    let (after, response) := s.perform r a
    (after, if r.method = "HEAD" then response.withoutBody else response)

/-- The service after some requests. -/
def after (s : Service) (requests : List Request) : Service :=
  requests.foldl (fun s r => (s.handle r).1) s

/-- The responses to some requests. -/
def run (s : Service) : List Request → List Response
  | [] => []
  | r :: rest =>
    let (next, response) := s.handle r
    response :: next.run rest

end Service

end AskTables
