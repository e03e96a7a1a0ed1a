/-!
# Routes

Which paths the service knows, and which methods each of them takes.  A path is known as it is
written: upper and lower case differ, and so does a slash at the end.  `HEAD` is taken wherever
`GET` is.
-/

namespace AskTables

/-- What a request asks for. -/
inductive Action where
  | convert
  | listExamples
  | showHistory
  | clearHistory
  | checkHealth
  | showMetrics
deriving DecidableEq, Inhabited

/-- Why a request asks for nothing. -/
inductive RouteError where
  /-- No such path. -/
  | unknownPath
  /-- The path does not take the method. -/
  | wrongMethod
deriving DecidableEq, Inhabited

namespace Route

/-- The methods of a path with what they ask for, none for an unknown path. -/
def methods? (path : String) : Option (List (String × Action)) :=
  match path with
  | "/convert" => some [("POST", .convert)]
  | "/examples" => some [("GET", .listExamples)]
  | "/history" => some [("GET", .showHistory), ("DELETE", .clearHistory)]
  | "/health" => some [("GET", .checkHealth)]
  | "/metrics" => some [("GET", .showMetrics)]
  | _ => none

/-- The path of a target, which ends before a query or fragment. -/
def pathOf (target : String) : String :=
  String.ofList (target.toList.takeWhile fun c => c != '?' && c != '#')

/-- The method whose action a method takes. -/
def baseMethod (method : String) : String := if method = "HEAD" then "GET" else method

/-- What a request asks for. -/
def action (method target : String) : Except RouteError Action :=
  match methods? (pathOf target) with
  | none => .error .unknownPath
  | some methods =>
    match methods.lookup (baseMethod method) with
    | some a => .ok a
    | none => .error .wrongMethod

end Route

end AskTables
