import AskTables.Proofs.Grammar.Complete

/-!
# Where a text stops being a statement

A text that is no statement is answered with a place and with what was expected there.  The place
lies on a front of the text that some statement begins with, so it is never beyond the first place
where the text can no longer be completed.  `Reader.statement_sound` gives the viable front; what is
left is to count its lines, and to read its completion.
-/

namespace AskTables

open Grammar

/-! ## Lines and columns -/

/-- The line and the column of the place after a text, from one: the line counts the line ends
before the place, and the column the characters after the last of them. -/
def IsPlaceAfter (passed : List Char) (line column : Nat) : Prop :=
  line = 1 + passed.count '\n' ∧
    ∃ lines last, passed = lines ++ last ∧ (lines = [] ∨ ∃ init, lines = init ++ ['\n']) ∧
      '\n' ∉ last ∧ column = 1 + last.length

/-- A text is cut after its last line end. -/
theorem isPlaceAfter (s : List Char) :
    IsPlaceAfter s (ParseError.lineAfter s) (ParseError.columnAfter s) := by
  refine ⟨rfl, (s.reverse.dropWhile (· != '\n')).reverse,
    (s.reverse.takeWhile (· != '\n')).reverse, ?_, ?_, ?_, ?_⟩
  · rw [← List.reverse_append, List.takeWhile_append_dropWhile, List.reverse_reverse]
  · cases hd : s.reverse.dropWhile (· != '\n') with
    | nil => exact .inl rfl
    | cons c rest =>
        have hc := List.head?_dropWhile_not (· != '\n') s.reverse
        rw [hd] at hc
        have hc' : c = '\n' := by simpa using hc
        exact .inr ⟨rest.reverse, by rw [hc', List.reverse_cons]⟩
  · intro hm
    have h := List.all_eq_true.1 List.all_takeWhile _ (List.mem_reverse.1 hm)
    simp at h
  · rw [List.length_reverse]
    rfl

/-- The message names what was expected and where. -/
theorem ParseError.message_of_expected {e : ParseError} (h : e.expected ≠ []) :
    e.message = "Invalid SELECT query: expected " ++
      " or ".intercalate (e.expected.map Symbol.text) ++ " at line " ++ toString e.line ++
      ", column " ++ toString e.column := by
  have hfront : "Invalid SELECT query: expected " = "Invalid SELECT query: " ++ "expected " := rfl
  have hassoc (a b c d f g k : String) :
      a ++ (b ++ c) ++ d ++ f ++ g ++ k = a ++ b ++ c ++ d ++ f ++ g ++ k := by
    simp only [String.append_assoc]
  obtain ⟨expected, line, column⟩ := e
  cases expected with
  | nil => exact absurd rfl h
  | cons x symbols =>
      rw [hfront]
      exact hassoc _ _ _ _ _ _ _

/-! ## The attempts on a text that is no statement -/

/-- Some statement is read off a text that begins like this. -/
def Statement.Completable (s : List Char) : Prop :=
  ∃ more st, Statement.parse (String.ofList (s ++ more)) = .ok st

/-- What a rendering can begin with, some text that is read begins with. -/
theorem Statement.completable_of_viable {s : List Char}
    (h : Viable (fun st ts => Statement.WellFormed st ∧ st.HasTokens ts) s) : Completable s := by
  obtain ⟨more, st, ts, ⟨hwf, hts⟩, hm⟩ := h
  have hnil : ¬ StartsWord [] := by
    rintro ⟨c, rest, he, _⟩
    cases he
  have hw := (hm [] hnil).1
  rw [List.append_nil] at hw
  refine ⟨more, st, parse_of_rendering hwf ⟨ts, hts, ?_⟩⟩
  rwa [String.toList_ofList]

/-- What can be completed can be completed from any earlier place. -/
theorem Statement.Completable.of_prefix {s t : List Char} (h : Completable t) (hs : s <+: t) :
    Completable s := by
  obtain ⟨rest, rfl⟩ := hs
  obtain ⟨more, st, hp⟩ := h
  exact ⟨rest ++ more, st, by rwa [← List.append_assoc]⟩

/-- Attempts on a text that is no statement are made after a front that can be completed. -/
theorem Grammar.Reader.statement_attempts {s : List Char} (h : statement.read s = none) :
    (statement.trace s (.start s)).symbols ≠ [] ∧
      ∃ w, s = w ++ (statement.trace s (.start s)).rest ∧ Statement.Completable w := by
  rcases statement_sound.tries s (.start s) with he | ⟨hne, w, hs, hw⟩
  · exact absurd he (trace_named_ne_start h)
  · exact ⟨hne, w, hs, Statement.completable_of_viable hw⟩

namespace Statement

/-- An error comes from the attempts that were noted while the text was not read. -/
theorem parse_eq_error {text : String} {e : ParseError} (h : Statement.parse text = .error e) :
    Reader.statement.read text.toList = none ∧
      e = .ofAttempts text.toList (Reader.statement.trace text.toList (.start text.toList)) := by
  unfold Statement.parse Statement.parseChars at h
  split at h
  · cases h
  · rename_i hread
    cases h
    exact ⟨hread, rfl⟩

/-- The error for a text that is no statement names something that was expected, and a place up to
which the text can be completed.  Where the text can no longer be completed, that place has already
been passed. -/
theorem parse_error_place {text : String} {e : ParseError} (h : Statement.parse text = .error e) :
    e.expected ≠ [] ∧
      e.message = "Invalid SELECT query: expected " ++
        " or ".intercalate (e.expected.map Symbol.text) ++ " at line " ++ toString e.line ++
        ", column " ++ toString e.column ∧
      ∃ passed rest, text.toList = passed ++ rest ∧ IsPlaceAfter passed e.line e.column ∧
        Completable passed ∧
        ∀ stuck, stuck <+: text.toList → ¬ Completable stuck → passed.length < stuck.length := by
  obtain ⟨hread, rfl⟩ := parse_eq_error h
  obtain ⟨hne, passed, hs, hpassed⟩ := Reader.statement_attempts hread
  generalize Reader.statement.trace text.toList (.start text.toList) = a at hne hs
  have hexpected : (ParseError.ofAttempts text.toList a).expected ≠ [] := by
    obtain ⟨x, hx⟩ := List.exists_mem_of_ne_nil _ hne
    refine List.ne_nil_of_mem (a := x) (List.mem_filter.2 ⟨x.mem_all, ?_⟩)
    simpa using hx
  have htake : text.toList.take (text.toList.length - a.rest.length) = passed := by
    rw [hs, List.length_append, Nat.add_sub_cancel, List.take_left]
  refine ⟨hexpected, ?_, passed, a.rest, hs, ?_, hpassed, ?_⟩
  · exact ParseError.message_of_expected hexpected
  · have hplace := isPlaceAfter passed
    rwa [← htake] at hplace ⊢
  · intro stuck hstuck hno
    refine Nat.lt_of_not_le ?_
    intro hle
    have hprefix : stuck <+: passed :=
      List.prefix_of_prefix_length_le hstuck ⟨a.rest, hs.symm⟩ hle
    exact hno (hpassed.of_prefix hprefix)

/-- Without `FROM`, the place is that of the name after the star. -/
theorem parse_error_place_star : ∃ passed rest, "SELECT * customers".toList = passed ++ rest ∧
    IsPlaceAfter passed 1 10 ∧ Completable passed := by
  have h : Statement.parse "SELECT * customers" = .error ⟨[.keyword .fromWord], 1, 10⟩ := rfl
  obtain ⟨-, -, passed, rest, hs, hplace, hpassed, -⟩ := parse_error_place h
  exact ⟨passed, rest, hs, hplace, hpassed⟩

end Statement

end AskTables
