/-!
# Metrics

Counters of the questions that were handled, by outcome: `success` or the kind of error.  The
counters stand in the order of the outcomes by code point, and an outcome has a counter once it has
come up.

`Metrics.lines` is the part of the text exposition that does not depend on time: the help and the
type of each family and the counts.
-/

namespace AskTables

/-- How often an outcome came up. -/
structure Counter where
  /-- The outcome. -/
  outcome : String
  /-- How often. -/
  count : Nat
deriving DecidableEq, Inhabited

/-- Counters in the order of their outcomes. -/
structure Metrics where
  /-- The counters. -/
  counters : List Counter
deriving DecidableEq, Inhabited

namespace Metrics

/-- No question handled yet. -/
def empty : Metrics := ⟨[]⟩

/-- Counts an outcome in some counters. -/
def bump (outcome : String) : List Counter → List Counter
  | [] => [⟨outcome, 1⟩]
  | c :: rest =>
    match compare outcome c.outcome with
    | .lt => ⟨outcome, 1⟩ :: c :: rest
    | .eq => ⟨outcome, c.count + 1⟩ :: rest
    | .gt => c :: bump outcome rest

/-- Counts an outcome. -/
def record (m : Metrics) (outcome : String) : Metrics := ⟨bump outcome m.counters⟩

/-- How often an outcome came up. -/
def count (m : Metrics) (outcome : String) : Nat :=
  match m.counters.find? fun c => c.outcome = outcome with
  | some c => c.count
  | none => 0

/-- All outcomes together. -/
def total (m : Metrics) : Nat := (m.counters.map Counter.count).foldr (· + ·) 0

/-- The lines on the time that questions took, without the measured times. -/
def durationLines (m : Metrics) : List String :=
  ["# HELP nlsql_conversion_duration_seconds Time spent translating and executing a question",
    "# TYPE nlsql_conversion_duration_seconds histogram",
    "nlsql_conversion_duration_seconds_count " ++ toString m.total]

/-- The line of a counter. -/
def counterLine (c : Counter) : String :=
  "nlsql_conversions_total\x7boutcome=\"" ++ c.outcome ++ "\"\x7d " ++ toString c.count

/-- The lines on the outcomes.  A family without counters is left out. -/
def outcomeLines (m : Metrics) : List String :=
  match m.counters with
  | [] => []
  | counters =>
    "# HELP nlsql_conversions_total Conversions by outcome" ::
      "# TYPE nlsql_conversions_total counter" :: counters.map counterLine

/-- The lines of the exposition that do not depend on time. -/
def lines (m : Metrics) : List String := m.durationLines ++ m.outcomeLines

end Metrics

end AskTables
