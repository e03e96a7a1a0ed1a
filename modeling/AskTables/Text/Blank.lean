/-!
# Blank characters

A character is *blank* when it has the Unicode property `White_Space`.  Trimming drops the
blanks at the two ends of a text and nothing else.

`trimStart_append_blanks` and `trimEnd_append_blanks` say that blanks put at an end of a text are
dropped again, `trimEnd_append_of_not_blank` that trimming stops at the first other character.
-/

namespace AskTables.Text

/-- Whether the code point of a character lies in one of some inclusive ranges.  The ranges have to
be in ascending order, so that the first one which does not end before the character decides. -/
def inRanges : List (Nat × Nat) → Char → Bool
  | [], _ => false
  | (first, last) :: rest, c => if c.toNat ≤ last then first ≤ c.toNat else inRanges rest c

/-- The code points with the property `White_Space`, as inclusive ranges. -/
def blankRanges : List (Nat × Nat) :=
  [(0x09, 0x0D), (0x20, 0x20), (0x85, 0x85), (0xA0, 0xA0), (0x1680, 0x1680), (0x2000, 0x200A),
    (0x2028, 0x2029), (0x202F, 0x202F), (0x205F, 0x205F), (0x3000, 0x3000)]

/-- Whether a character is blank. -/
def isBlank (c : Char) : Bool := inRanges blankRanges c

/-- The text after its leading blanks. -/
def trimStart (s : List Char) : List Char := s.dropWhile isBlank

/-- The text before its trailing blanks. -/
def trimEnd (s : List Char) : List Char := (s.reverse.dropWhile isBlank).reverse

/-- The text without the blanks at its two ends. -/
def trimChars (s : List Char) : List Char := trimEnd (trimStart s)

/-- A string without the blanks at its two ends. -/
def trim (s : String) : String := String.ofList (trimChars s.toList)

/-! ## What trimming keeps -/

/-- Blanks before a text make no difference to what is left of it. -/
theorem trimStart_append_blanks {b : List Char} (hb : ∀ c ∈ b, isBlank c = true) (s : List Char) :
    trimStart (b ++ s) = trimStart s := by
  unfold trimStart
  induction b with
  | nil => rfl
  | cons c b ih =>
    simp only [List.mem_cons, forall_eq_or_imp] at hb
    simp [hb.1, ih hb.2]

theorem trimEnd_append_blanks {b : List Char} (hb : ∀ c ∈ b, isBlank c = true) (s : List Char) :
    trimEnd (s ++ b) = trimEnd s := by
  unfold trimEnd
  rw [List.reverse_append]
  exact congrArg List.reverse
    (trimStart_append_blanks (fun c hc => hb c (List.mem_reverse.1 hc)) s.reverse)

/-- Trimming goes no further than the last character that is no blank. -/
theorem trimEnd_append_of_not_blank {c : Char} (hc : isBlank c = false) (s t : List Char) :
    trimEnd (s ++ c :: t) = s ++ c :: trimEnd t := by
  unfold trimEnd
  have h : ∀ u : List Char, (u ++ c :: s.reverse).dropWhile isBlank
      = u.dropWhile isBlank ++ c :: s.reverse := by
    intro u
    induction u with
    | nil => simp [hc]
    | cons d u ih => by_cases hd : isBlank d <;> simp [hd, ih]
  simp [h]

/-- A run of characters ends where another kind of character stands, or nothing. -/
theorem span_run {p : Char → Bool} {w m : List Char} (hw : ∀ c ∈ w, p c = true)
    (hm : ∀ c ∈ m.head?, p c = false) :
    (w ++ m).takeWhile p = w ∧ (w ++ m).dropWhile p = m := by
  rw [List.takeWhile_append_of_pos hw, List.dropWhile_append_of_pos hw]
  cases m with
  | nil => simp
  | cons c m => simp [hm c rfl]

end AskTables.Text
