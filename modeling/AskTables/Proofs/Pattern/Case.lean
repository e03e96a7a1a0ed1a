import AskTables.Phrase.Rule
import AskTables.Proofs.Pattern.Language

/-!
# Searching in another letter case

A set accepts a letter in both ASCII cases or in none, so the search of a text takes the same steps
on every text that differs from it in the case of letters only.  An attempt remembers positions and
not characters.  So the marks of the two searches are the same, and what they capture differs in the
case of letters only.
-/

namespace AskTables

/-- Reading a letter in the other case makes no difference to the attempts. -/
theorem Attempt.advance_of_toLower (position : Nat) {c d : Char} (h : d.toLower = c.toLower)
    (as : List Attempt) (seen : List Plan) :
    Attempt.advance position d as seen = Attempt.advance position c as seen := by
  induction as generalizing seen with
  | nil => rfl
  | cons a as ih =>
      cases a with
      | complete m => exact ih seen
      | reading set plan m =>
          have hrest : Attempt.advance position d as = Attempt.advance position c as := funext ih
          simp only [advance, CharSet.accepts_of_toLower h, hrest]

namespace Pattern

variable {p : Pattern} {s t : List Char}

/-- The search takes the same course in texts that differ in case only. -/
theorem searchFrom_of_toLower (h : t.map Char.toLower = s.map Char.toLower) (position : Nat)
    (v : Survey) (found : Option Marks) :
    p.searchFrom position v found t = p.searchFrom position v found s := by
  induction s generalizing t position v found with
  | nil => rw [List.map_eq_nil_iff.1 h]
  | cons c s ih =>
      obtain ⟨d, t, rfl, hd, ht⟩ := List.map_eq_cons_iff.1 h
      rw [searchFrom, searchFrom, Attempt.advance_of_toLower (position + 1) hd]
      exact ih ht _ _ _

/-- The preferred match has the same marks in every letter case. -/
theorem search?_of_toLower (h : t.map Char.toLower = s.map Char.toLower) :
    p.search? t = p.search? s :=
  searchFrom_of_toLower h 0 (Survey.none []) none

theorem occursIn_of_toLower (h : t.map Char.toLower = s.map Char.toLower) :
    p.occursIn t = p.occursIn s := by
  rw [occursIn, occursIn, search?_of_toLower h]

end Pattern

namespace Marks

variable {s t : List Char}

/-- The same marks stand around the same letters. -/
theorem textOf_of_toLower (h : t.map Char.toLower = s.map Char.toLower) (m : Marks) (g : Nat) :
    (m.textOf t g).toLower = (m.textOf s g).toLower := by
  unfold textOf
  split
  · rename_i start stop _ _
    simp only [← String.toList_inj, Text.toList_toLower, String.toList_ofList, List.map_take,
      List.map_drop, h]
  · rfl

/-- Captures of such texts differ in case only. -/
theorem texts_of_toLower (h : t.map Char.toLower = s.map Char.toLower) (m : Marks) (groups : Nat) :
    (m.texts t groups).map String.toLower = (m.texts s groups).map String.toLower := by
  simp only [texts, List.map_map]
  exact List.map_congr_left fun i _ => m.textOf_of_toLower h (i + 1)

end Marks

/-- A recogniser recognises a text in every letter case or in none, and its captures differ in the
case of letters only. -/
theorem Recognizer.recognize?_of_toLower (r : Recognizer) {s t : String}
    (h : t.toLower = s.toLower) : (r.recognize? t).map (List.map String.toLower) =
      (r.recognize? s).map (List.map String.toLower) := by
  have hchars : t.toList.map Char.toLower = s.toList.map Char.toLower := by
    rw [← Text.toList_toLower, ← Text.toList_toLower, h]
  rw [recognize?, recognize?, Pattern.search?_of_toLower hchars, Option.map_map, Option.map_map]
  refine congrArg (Option.map · _) (funext fun m => ?_)
  exact m.texts_of_toLower hchars r.groups

end AskTables
