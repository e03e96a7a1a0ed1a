import AskTables.Journal.Event

/-!
# Filters of events

A filter is a list of directives with commas between.  A directive is a level for all events, or a
target with a level for the components whose name starts with it.  A target without a level admits
all of their events.  The directive with the longest target decides, and of several with one target
the last.  An event that no directive fits is not admitted.

Levels are names in any letter case, or numbers from 0 to 5.
-/

namespace AskTables

/-- What a filter says about some events. -/
structure Directive where
  /-- The start of the names of their components, empty for all events. -/
  target : List Char
  /-- The largest rank that is admitted. -/
  limit : Nat
deriving DecidableEq, Inhabited

/-- Directives in order. -/
structure LogFilter where
  /-- The directives. -/
  directives : List Directive
deriving DecidableEq, Inhabited

namespace Directive

/-- The largest rank that a level admits. -/
def limit? (level : List Char) : Option Nat :=
  match (String.ofList level).toLower with
  | "off" | "0" => some 0
  | "error" | "1" => some Severity.error.rank
  | "warn" | "2" => some Severity.warn.rank
  | "info" | "3" => some Severity.info.rank
  | "debug" | "4" => some Severity.debug.rank
  | "trace" | "5" => some Severity.trace.rank
  | _ => none

/-- Whether a character may stand in a target. -/
def isTargetChar (c : Char) : Bool :=
  c.isAlphanum || c == '_' || c == ':' || c == '-' || decide (0x7F < c.toNat)

/-- Reads a directive. -/
def parse? (s : List Char) : Option Directive :=
  match limit? s with
  | some limit => some ⟨[], limit⟩
  | none =>
    match s.takeWhile isTargetChar, s.dropWhile isTargetChar with
    | [], _ => none
    | target, [] | target, ['='] => some ⟨target, Severity.trace.rank⟩
    | target, '=' :: level => (limit? level).map fun limit => ⟨target, limit⟩
    | _, _ => none

/-- Whether a directive speaks of an event. -/
def fits (d : Directive) (e : Event) : Bool := d.target.isPrefixOf e.component.text.toList

end Directive

namespace LogFilter

/-- The pieces of a text between commas. -/
def pieces : List Char → List (List Char)
  | [] => [[]]
  | ',' :: rest => [] :: pieces rest
  | c :: rest =>
    match pieces rest with
    | first :: more => (c :: first) :: more
    | [] => [[c]]

/-- Reads a filter.  Empty directives do not count. -/
def parse? (s : String) : Option LogFilter :=
  (((pieces s.toList).filter fun p => !p.isEmpty).mapM Directive.parse?).map LogFilter.mk

/-- The filter that holds if a text is none. -/
def fallback : LogFilter := ⟨[⟨[], Severity.info.rank⟩]⟩

/-- The filter of a text. -/
def ofText (s : String) : LogFilter := (parse? s).getD fallback

/-- The better of two directives, the later one if their targets are equally long. -/
def better (best : Option Directive) (d : Directive) : Option Directive :=
  match best with
  | none => some d
  | some b => if b.target.length ≤ d.target.length then some d else some b

/-- The directive that decides on an event. -/
def deciding? (f : LogFilter) (e : Event) : Option Directive :=
  (f.directives.filter fun d => d.fits e).foldl better none

/-- Whether an event is admitted. -/
def admits (f : LogFilter) (e : Event) : Bool :=
  match f.deciding? e with
  | some d => decide (e.severity.rank ≤ d.limit)
  | none => false

end LogFilter

end AskTables
