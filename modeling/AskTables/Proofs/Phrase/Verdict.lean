import AskTables.Proofs.Guard.Framed
import AskTables.Proofs.Phrase.Translation

/-!
# The guard on made texts

The text that a built-in rule makes is a frame with the captures in it.  No mention of a command
lies across their edges, and the frames mention none.  So a captured word makes the guard refuse the
text exactly if it has the one command in it that is a single word, `TRUNCATE`, and any other text
comes out of the guard as it went in.
-/

namespace AskTables

open Grammar

/-! ## Outer blanks -/

/-- A text with other characters at its two ends stays. -/
theorem Text.trim_ofList {c d : Char} (hc : Text.isBlank c = false) (hd : Text.isBlank d = false)
    (s : List Char) :
    Text.trim (String.ofList (c :: (s ++ [d]))) = String.ofList (c :: (s ++ [d])) := by
  rw [Text.trim, String.toList_ofList, Text.trimChars, Text.trimStart,
    List.dropWhile_cons_of_neg (by simp [hc])]
  have hend := Text.trimEnd_append_of_not_blank hd (c :: s) []
  rw [List.cons_append] at hend
  rw [hend]
  rfl

/-- What passes the guard is the text without its outer blanks. -/
theorem Guard.check_eq_ok {sql text : String} (h : Guard.check sql = .ok text) :
    text = Text.trim sql :=
  (Guard.check_eq_ok_iff.1 h).2

theorem Slot.Fits.isWordChar {slot : Slot} {w : List Char} (h : slot.Fits w) :
    ∀ c ∈ w, Grammar.isWordChar c := by
  cases slot with
  | word => exact h.2
  | part => exact h.2
  | number =>
      intro c hc
      simp [Grammar.isWordChar, Char.isAlphanum, h.2 c hc]

namespace Form

/-- What a rule makes has no outer blanks. -/
theorem trim_fill {f : Form} {r : Rule} (hf : f.Suits r) {ws : List String} {st : Statement}
    (h : f.Gives ws st) : Text.trim (r.template.fill ws) = r.template.fill ws := by
  have hends : ∀ s, Text.trim (String.ofList ('S' :: (s ++ [';']))) =
      String.ofList ('S' :: (s ++ [';'])) := Text.trim_ofList (by decide) (by decide)
  cases f with
  | fixed st' =>
      obtain ⟨rfl, _⟩ := h
      exact hf.2.2
  | condition st' column op slot =>
      obtain ⟨w, rfl, _, _⟩ := h
      have hfront : ∃ s, front st' column op = 'S' :: s := ⟨_, rfl⟩
      obtain ⟨s, hs⟩ := hfront
      rw [fill_condition hf, hs]
      simpa using hends (s ++ ' ' :: (slot.before.toList ++ (w.toList ++ slot.after.toList)))
  | sorted =>
      obtain ⟨table, column, direction, rfl, _⟩ := h
      have hsorted : ∀ a b c, sortedText a b c =
          'S' :: ("ELECT * FROM ".toList ++ (a ++ (" ORDER BY ".toList ++ (b ++ c))) ++ [';']) := by
        intro a b c
        unfold sortedText
        simp
      rw [fill_sorted hf, hsorted]
      exact hends _

/-! ## Frames -/

/-- The word that a rule takes over from the question: a city, a product or a column to sort by. -/
def word? : Form → List String → Option String
  | .fixed _, _ | .condition _ _ _ .number, _ => none
  | .condition _ _ _ .word, ws | .condition _ _ _ .part, ws => some (captureAt ws 0)
  | .sorted, ws => some (captureAt ws 1)

/-- The word that a rule takes over has `TRUNCATE` in it, in some ASCII case. -/
def Mentions (f : Form) (ws : List String) : Prop :=
  ∃ w ∈ f.word? ws, Guard.truncateWord <:+: w.toList.map Char.toLower

/-- What a rule puts around a literal is a frame, and a fixed text mentions no command. -/
def Framed : Form → Template → Prop
  | .fixed _, .parts pieces => Guard.IsQuiet (pieces.flatMap fun p => (p.fill []).toList)
  | .fixed _, .holes _ => False
  | .condition st column op slot, _ => Guard.IsFrame
      (front st column op ++ ' ' :: slot.before.toList) (slot.after.toList ++ [';'])
  | .sorted, _ => True

instance : (f : Form) → (t : Template) → Decidable (f.Framed t)
  | .fixed _, .parts _ => inferInstanceAs (Decidable (Guard.IsQuiet _))
  | .fixed _, .holes _ => inferInstanceAs (Decidable False)
  | .condition .., _ => inferInstanceAs (Decidable (Guard.IsFrame _ _))
  | .sorted, _ => inferInstanceAs (Decidable True)

/-- What stands around the column of a sorted table is a frame. -/
theorem isFrame_sorted : ∀ table ∈ ["customers", "orders"], ∀ direction ∈ ["", " ASC", " DESC"],
    Guard.IsFrame ("SELECT * FROM ".toList ++ (table.toList ++ " ORDER BY ".toList))
      (direction.toList ++ [';']) := by
  decide +kernel

theorem directionText_mem {direction : String}
    (h : direction.toLower ∈ ["", "ascending", "asc", "descending", "desc"]) :
    directionText direction ∈ ["", " ASC", " DESC"] := by
  obtain ⟨full, hfull⟩ := directionText_eq h
  rw [hfull]
  cases isDescending direction <;> cases full <;> simp

/-- A captured number has no letters, so it does not count. -/
theorem mentions_condition_iff {st : Statement} {column : Column} {op : CompareOp} {slot : Slot}
    {w : String} (hw : slot.Fits w.toList) : (condition st column op slot).Mentions [w] ↔
      Guard.truncateWord <:+: w.toList.map Char.toLower := by
  have hword : (∃ v ∈ some w, Guard.truncateWord <:+: v.toList.map Char.toLower) ↔
      Guard.truncateWord <:+: w.toList.map Char.toLower := by simp
  cases slot with
  | word => exact hword
  | part => exact hword
  | number =>
      constructor
      · rintro ⟨v, hv, _⟩
        cases hv
      · intro ht
        obtain ⟨c, hc, hlower⟩ := List.mem_map.1 (ht.subset (by decide : 't' ∈ Guard.truncateWord))
        have hdigit := hw.2 c hc
        rw [← Text.isDigit_toLower, hlower] at hdigit
        cases hdigit

/-- A text without a slot mentions nothing. -/
theorem mentioned?_fill_fixed {st : Statement} {r : Rule} (hframe : (fixed st).Framed r.template) :
    Guard.mentioned? (r.template.fill []).toList = none := by
  cases htemplate : r.template with
  | holes s =>
      rw [htemplate] at hframe
      cases hframe
  | parts pieces =>
      rw [htemplate] at hframe
      rw [Template.toList_fill_parts]
      exact Guard.mentioned?_of_isQuiet hframe

/-- A text with a slot mentions something if the word in the slot does, and that is a truncation. -/
theorem mentioned?_fill_condition {st : Statement} {column : Column} {op : CompareOp} {slot : Slot}
    {r : Rule} (hf : (condition st column op slot).Suits r)
    (hframe : (condition st column op slot).Framed r.template) {w : String}
    (hw : slot.Fits w.toList) : Guard.mentioned? (r.template.fill [w]).toList =
      if Guard.truncateWord <:+: w.toList.map Char.toLower then some .truncate else none := by
  have hfill : (r.template.fill [w]).toList =
      (front st column op ++ ' ' :: slot.before.toList) ++
        (w.toList ++ (slot.after.toList ++ [';'])) := by
    rw [fill_condition hf, String.toList_ofList]
    simp
  rw [hfill]
  exact Guard.mentioned?_framed hframe fun c hc => isBlank_of_isWordChar (hw.isWordChar c hc)

/-- The column is written in lower case, which changes no mention. -/
theorem mentioned?_fill_sorted {r : Rule} (hf : sorted.Suits r) {table column direction : String}
    (htable : table.toLower ∈ ["customers", "orders"]) (hcolumn : IsName column.toList)
    (hdir : direction.toLower ∈ ["", "ascending", "asc", "descending", "desc"]) :
    Guard.mentioned? (r.template.fill [table, column, direction]).toList =
      if Guard.truncateWord <:+: column.toList.map Char.toLower then some .truncate else none := by
  have hfill : (r.template.fill [table, column, direction]).toList =
      ("SELECT * FROM ".toList ++ (table.toLower.toList ++ " ORDER BY ".toList)) ++
        (column.toLower.toList ++ ((directionText direction).toList ++ [';'])) := by
    rw [fill_sorted hf, String.toList_ofList]
    unfold sortedText
    simp only [List.append_assoc]
  have hlower : column.toLower.toList.map Char.toLower = column.toList.map Char.toLower := by
    simp
  rw [hfill, ← hlower]
  exact Guard.mentioned?_framed (isFrame_sorted _ htable _ (directionText_mem hdir)) fun c hc =>
    isBlank_of_isWordChar ((isName_map_toLower hcolumn).all_isWordChar c
      (Text.toList_toLower column ▸ hc))

/-- What a rule makes mentions a command exactly if the word it takes over does. -/
theorem mentioned?_fill {f : Form} {r : Rule} (hf : f.Suits r) (hframe : f.Framed r.template)
    {ws : List String} {st : Statement} (h : f.Gives ws st) :
    (f.Mentions ws → Guard.mentioned? (r.template.fill ws).toList = some .truncate) ∧
      (¬ f.Mentions ws → Guard.mentioned? (r.template.fill ws).toList = none) := by
  cases f with
  | fixed st' =>
      obtain ⟨rfl, _⟩ := h
      refine ⟨?_, fun _ => mentioned?_fill_fixed hframe⟩
      rintro ⟨w, hw, _⟩
      cases hw
  | condition st' column op slot =>
      obtain ⟨w, rfl, hw, _⟩ := h
      rw [mentioned?_fill_condition hf hframe hw, mentions_condition_iff hw]
      exact ⟨fun h => if_pos h, fun h => if_neg h⟩
  | sorted =>
      obtain ⟨table, column, direction, rfl, htable, hcolumn, hdir, _⟩ := h
      rw [mentioned?_fill_sorted hf htable hcolumn hdir]
      refine ⟨?_, fun hno => if_neg fun ht => hno ⟨column, rfl, ht⟩⟩
      rintro ⟨w, hw, ht⟩
      cases hw
      exact if_pos ht

/-- A text with such a word is refused. -/
theorem check_fill_of_mentions {f : Form} {r : Rule} (hf : f.Suits r) (hframe : f.Framed r.template)
    {ws : List String} {st : Statement} (h : f.Gives ws st) (hws : f.Mentions ws) :
    Guard.check (r.template.fill ws) = .error .truncate :=
  Guard.check_eq_error_iff.2 ((mentioned?_fill hf hframe h).1 hws)

/-- Any other text is handed on as it is. -/
theorem check_fill_of_not_mentions {f : Form} {r : Rule} (hf : f.Suits r)
    (hframe : f.Framed r.template) {ws : List String} {st : Statement} (h : f.Gives ws st)
    (hws : ¬ f.Mentions ws) :
    Guard.check (r.template.fill ws) = .ok (r.template.fill ws) :=
  Guard.check_eq_ok_iff.2 ⟨(mentioned?_fill hf hframe h).2 hws, (trim_fill hf h).symm⟩

end Form

/-- Every built-in rule puts a frame around what it captures. -/
theorem framed_of_mem {r : Rule} (hr : r ∈ Library.builtin.rules) {f : Form}
    (hf : formOf? r.name = some f) : f.Framed r.template := by
  have h : ∀ e ∈ Library.builtinEntries, ∀ f ∈ formOf? e.1, f.Framed e.2.2 := by
    decide +kernel
  obtain ⟨source, he⟩ := Library.exists_entry hr
  exact h _ he f hf

namespace Library

/-- The guard refuses the text made for a question exactly if the word that the winning rule takes
over has `TRUNCATE` in it, and reports that command.  It hands on every other text as it is. -/
theorem check_of_interpret {text : String} {t : Interpretation}
    (ht : builtin.interpret text = .ok t) :
    ∃ r ws f, builtin.Wins text r ws ∧ t = ⟨r.name, r.template.fill ws⟩ ∧
      formOf? r.name = some f ∧
      (f.Mentions ws → Guard.check t.sql = .error .truncate) ∧
      (¬ f.Mentions ws → Guard.check t.sql = .ok t.sql) := by
  obtain ⟨r, ws, hwins, rfl⟩ := interpret_eq_ok_iff.1 ht
  obtain ⟨f, hf, hs⟩ := suits_of_mem hwins.mem
  obtain ⟨st, hgives⟩ := Form.gives_of_recognize? hs hwins.recognizes
  have hframe := framed_of_mem hwins.mem hf
  exact ⟨r, ws, f, hwins, rfl, hf, Form.check_fill_of_mentions hs hframe hgives,
    Form.check_fill_of_not_mentions hs hframe hgives⟩

/-- A city may have the command in its name. -/
theorem check_of_interpret_city :
    let t : Interpretation :=
      ⟨"customers_by_city", "SELECT * FROM customers WHERE city = 'Truncated';"⟩
    builtin.interpret "customers in Truncated" = .ok t ∧
      Guard.check t.sql = .error .truncate ∧
      ∃ r ws f, builtin.Wins "customers in Truncated" r ws ∧ t = ⟨r.name, r.template.fill ws⟩ ∧
        formOf? r.name = some f ∧
        (f.Mentions ws → Guard.check t.sql = .error .truncate) ∧
        (¬ f.Mentions ws → Guard.check t.sql = .ok t.sql) := by
  intro t
  have ht : builtin.interpret "customers in Truncated" = .ok t :=
    eq_ok_of_toOption (by decide +kernel)
  have hcheck : Guard.check t.sql = .error .truncate :=
    Guard.check_eq_error_iff.2 (by decide +kernel)
  exact ⟨ht, hcheck, check_of_interpret ht⟩

end Library

end AskTables
