/-!
# History

The last questions that were answered, newest first, up to a fixed number.  `record` adds a question
and drops the oldest ones beyond the capacity.  The entries never exceed the capacity, and the type
says so.
-/

namespace AskTables

/-- A question that was answered. -/
structure HistoryEntry where
  /-- The question. -/
  question : String
  /-- The text of the statement. -/
  sql : String
deriving DecidableEq, Inhabited

/-- The last entries, newest first. -/
structure History where
  /-- The most entries that are kept. -/
  capacity : Nat
  /-- The entries, newest first. -/
  entries : List HistoryEntry
  /-- No more entries than the capacity. -/
  length_le : entries.length ≤ capacity
deriving DecidableEq

namespace History

/-- The entries that are kept unless the settings say otherwise. -/
def defaultCapacity : Nat := 10

/-- No entries yet. -/
def empty (capacity : Nat) : History := ⟨capacity, [], Nat.zero_le capacity⟩

instance : Inhabited History := ⟨empty defaultCapacity⟩

/-- The number of entries. -/
def size (h : History) : Nat := h.entries.length

/-- Adds an entry and drops the oldest beyond the capacity. -/
def record (h : History) (e : HistoryEntry) : History :=
  ⟨h.capacity, (e :: h.entries).take h.capacity, List.length_take_le h.capacity _⟩

/-- Drops all entries. -/
def clear (h : History) : History := empty h.capacity

end History

end AskTables
