import AskTables.Pattern.Search

/-!
# The read-only guard

The guard refuses text that mentions a command which changes data.  It looks at the text and not at
its meaning, so a mention inside a literal or a longer word counts as well.

The denylist is searched in order, and the first entry that occurs anywhere is reported.  Text that
passes is handed on without its outer blanks.
-/

namespace AskTables.Guard

open Pattern (literal opt plus)

/-- The commands of the denylist. -/
inductive Command where
  | dropTable
  | deleteFrom
  | insertInto
  | update
  | createTable
  | alterTable
  | truncate
deriving DecidableEq, Inhabited

namespace Command

/-- The denylist, in the order it is searched. -/
def all : List Command :=
  [.dropTable, .deleteFrom, .insertInto, .update, .createTable, .alterTable, .truncate]

/-- The command as messages write it. -/
def text : Command → String
  | .dropTable => "DROP TABLE"
  | .deleteFrom => "DELETE FROM"
  | .insertInto => "INSERT INTO"
  | .update => "UPDATE"
  | .createTable => "CREATE TABLE"
  | .alterTable => "ALTER TABLE"
  | .truncate => "TRUNCATE"

end Command

/-- One letter of a command.  Besides its two ASCII cases, `S` has a third form, the long `ſ`. -/
def letter (c : Char) : Pattern :=
  if c = 'S' then .char (.ranges [('S', 'S'), ('ſ', 'ſ')]) else .char (.single c)

/-- The letters of a word one after another. -/
def word (s : List Char) : Pattern := s.foldr (fun c p => .seq (letter c) p) .empty

/-- Blanks, at least one. -/
def blanks : Pattern := plus (.char .blank)

/-- Two words with blanks between them. -/
def twoWords (first second : List Char) : Pattern := .seq (word first) (.seq blanks (word second))

/-- What the mention of a command looks like.  One more word may stand between `UPDATE` and `SET`. -/
def Command.pattern : Command → Pattern
  | .dropTable => twoWords ['D', 'R', 'O', 'P'] ['T', 'A', 'B', 'L', 'E']
  | .deleteFrom => twoWords ['D', 'E', 'L', 'E', 'T', 'E'] ['F', 'R', 'O', 'M']
  | .insertInto => twoWords ['I', 'N', 'S', 'E', 'R', 'T'] ['I', 'N', 'T', 'O']
  | .update =>
    .seq (word ['U', 'P', 'D', 'A', 'T', 'E']) (.seq blanks
      (.seq (opt (.seq (plus (.char .ink)) blanks)) (word ['S', 'E', 'T'])))
  | .createTable => twoWords ['C', 'R', 'E', 'A', 'T', 'E'] ['T', 'A', 'B', 'L', 'E']
  | .alterTable => twoWords ['A', 'L', 'T', 'E', 'R'] ['T', 'A', 'B', 'L', 'E']
  | .truncate => word ['T', 'R', 'U', 'N', 'C', 'A', 'T', 'E']

/-- The first command of the denylist that a text mentions. -/
def mentioned? (s : List Char) : Option Command :=
  Command.all.find? fun command => command.pattern.occursIn s

/-- The text without its outer blanks, or the command it mentions. -/
def check (sql : String) : Except Command String :=
  match mentioned? sql.toList with
  | some command => .error command
  | none => .ok (Text.trim sql)

/-- A text is refused for the first command it mentions. -/
theorem check_eq_error_iff {s : String} {command : Command} :
    check s = .error command ↔ mentioned? s.toList = some command := by
  unfold check
  cases mentioned? s.toList with
  | none => simp
  | some other => simp

/-- A text that passes is handed on without its outer blanks. -/
theorem check_eq_ok_iff {s r : String} :
    check s = .ok r ↔ mentioned? s.toList = none ∧ r = Text.trim s := by
  unfold check
  cases mentioned? s.toList with
  | none => simp [eq_comm]
  | some other => simp

/-- The message for a text that mentions a command. -/
def message (command : Command) : String :=
  "Only SELECT queries are allowed (found " ++ command.text ++ ")"

end AskTables.Guard
