import AskTables.Journal.Filter

/-!
# The journal

The journal writes the events that its filter admits, to the standard output in the style of the
settings, to a file in the compact style, or to both.  It begins with an event that shows how it is
set.

A program has one journal at most, and an attempt to install another one fails.
-/

namespace AskTables

/-- The journal. -/
structure Journal where
  /-- How events are logged. -/
  settings : LogSettings
deriving DecidableEq, Inhabited

/-- Installs a journal, unless there is one already. -/
def Journal.install? (installed : Option Journal) (settings : LogSettings) : Option Journal :=
  match installed with
  | some _ => none
  | none => some ⟨settings⟩

namespace Event

/-- The journal was installed. -/
def installed (s : LogSettings) : Event :=
  ⟨.info, .journal, some "logging initialized",
    [("format", .shown s.style.text), ("output", .shown s.destination.text),
      ("level", .shown s.level)]⟩

/-- The journal writes a file. -/
def writingFile (s : LogSettings) : Event :=
  ⟨.debug, .journal, some "writing log files", [("directory", .shown s.directory)]⟩

end Event

namespace Journal

/-- The name of the file. -/
def fileName : String := "nlsql-server.log"

/-- The events that the journal begins with. -/
def firstEvents (j : Journal) : List Event :=
  .installed j.settings ::
    if j.settings.destination.writesFile then [.writingFile j.settings] else []

/-- The events that are written, out of the first ones and those that follow. -/
def admitted (j : Journal) (events : List Event) : List Event :=
  (j.firstEvents ++ events).filter (LogFilter.ofText j.settings.level).admits

/-- What the standard output shows. -/
def stdout (j : Journal) (events : List Event) : List LogEntry :=
  if j.settings.destination.writesStdout then
    (j.admitted events).map fun e => e.write j.settings.style
  else []

/-- What the file holds, if there is one. -/
def file? (j : Journal) (events : List Event) : Option (List LogEntry) :=
  if j.settings.destination.writesFile then
    some ((j.admitted events).map fun e => e.write .compact)
  else none

end Journal

end AskTables
