import AskTables.Proofs.Pattern.Case
import AskTables.Proofs.Pattern.Complete
import AskTables.Proofs.Phrase.Translation
import AskTables.Proofs.Text.Respaced
import Mathlib.Data.List.Basic

/-!
# Which rule wins

`Library.WinsAt` says at which position of the library the rule stands that answers a question.  The
position tells what becomes of an answer when the question is put in other words.

More words around a question never take its answer away.  A pattern that occurs in the question
occurs in the longer text, so the winner stands no later: `interpret_append`.

The case of the letters plays no part.  The same rule wins with the same captures up to case, and
the built-in templates keep that: `interpret_of_toLower`.
-/

namespace AskTables

/-! ## Outer blanks -/

namespace Text

/-- No letter is blank, so trimming goes by the lower case. -/
theorem trimChars_map_toLower (s : List Char) :
    trimChars (s.map Char.toLower) = (trimChars s).map Char.toLower := by
  have hblank : isBlank ∘ Char.toLower = isBlank := by
    funext c
    exact @CharSet.accepts_of_toLower .blank _ _ (toLower_toLower c)
  simp only [trimChars, trimStart, trimEnd, List.dropWhile_map, ← List.map_reverse, hblank]

theorem toLower_trim {s t : String} (h : t.toLower = s.toLower) :
    (trim t).toLower = (trim s).toLower := by
  rw [← String.toList_inj, toList_toLower, toList_toLower] at h ⊢
  rw [trim, trim, String.toList_ofList, String.toList_ofList, ← trimChars_map_toLower,
    ← trimChars_map_toLower, h]

end Text

namespace Library

/-! ## The position of the winner -/

/-- The rule at a position recognises a question with some captures, and no rule before it does. -/
def WinsAt (l : Library) (text : String) (i : Nat) (r : Rule) (ws : List String) : Prop :=
  l.rules[i]? = some r ∧ r.recognizer.recognize? (Text.trim text) = some ws ∧
    ∀ j < i, ∀ b ∈ l.rules[j]?, b.recognizer.recognize? (Text.trim text) = none

/-- The rule that wins stands in some place. -/
theorem wins_iff_winsAt {l : Library} {text : String} {r : Rule} {ws : List String} :
    l.Wins text r ws ↔ ∃ i, l.WinsAt text i r ws := by
  constructor
  · rintro ⟨before, after, hl, hbefore, hws⟩
    refine ⟨before.length, by simp [hl], hws, ?_⟩
    intro j hj b hb
    rw [hl, List.getElem?_append_left hj] at hb
    exact hbefore b (List.mem_of_getElem? hb)
  · rintro ⟨i, hr, hws, hbefore⟩
    obtain ⟨hi, rfl⟩ := List.getElem?_eq_some_iff.1 hr
    refine ⟨l.rules.take i, l.rules.drop (i + 1), ?_, ?_, hws⟩
    · rw [← List.drop_eq_getElem_cons hi, List.take_append_drop]
    · intro b hb
      obtain ⟨j, hj, rfl⟩ := List.mem_take_iff_getElem.1 hb
      exact hbefore j (by omega) _ (List.getElem?_eq_getElem _)

theorem WinsAt.interpret {l : Library} {text : String} {i : Nat} {r : Rule} {ws : List String}
    (h : l.WinsAt text i r ws) : l.interpret text = .ok ⟨r.name, r.template.fill ws⟩ :=
  interpret_eq_ok_iff.2 ⟨r, ws, wins_iff_winsAt.2 ⟨i, h⟩, rfl⟩

/-- If some rule recognises a question, then a rule that stands no later wins. -/
theorem exists_winsAt {l : Library} {text : String} {i : Nat} {r : Rule} (hr : l.rules[i]? = some r)
    (h : (r.recognizer.recognize? (Text.trim text)).isSome) :
    ∃ j ≤ i, ∃ r' ws, l.WinsAt text j r' ws := by
  induction i using Nat.strongRecOn generalizing r with
  | ind i ih =>
      by_cases hbefore : ∃ j < i, ∃ b ∈ l.rules[j]?,
          (b.recognizer.recognize? (Text.trim text)).isSome
      · obtain ⟨j, hj, b, hb, hsome⟩ := hbefore
        obtain ⟨k, hk, hwins⟩ := ih j hj hb hsome
        exact ⟨k, by omega, hwins⟩
      · obtain ⟨ws, hws⟩ := Option.isSome_iff_exists.1 h
        refine ⟨i, Nat.le_refl i, r, ws, hr, hws, fun j hj b hb => ?_⟩
        rw [← Option.not_isSome_iff_eq_none]
        exact fun hsome => hbefore ⟨j, hj, b, hb, hsome⟩

/-- Either some rule wins, or none recognises the question. -/
theorem exists_winsAt_or (l : Library) (text : String) : (∃ i r ws, l.WinsAt text i r ws) ∨
    l.interpret text = .error ⟨Text.trim text⟩ ∧
      ∀ r ∈ l.rules, r.recognizer.recognize? (Text.trim text) = none := by
  by_cases h : ∃ r ∈ l.rules, (r.recognizer.recognize? (Text.trim text)).isSome
  · obtain ⟨r, hr, hsome⟩ := h
    obtain ⟨i, hi⟩ := List.mem_iff_getElem?.1 hr
    obtain ⟨j, _, r', ws, hwins⟩ := exists_winsAt hi hsome
    exact .inl ⟨j, r', ws, hwins⟩
  · have hnone : ∀ r ∈ l.rules, r.recognizer.recognize? (Text.trim text) = none := by
      intro r hr
      rw [← Option.not_isSome_iff_eq_none]
      exact fun hsome => h ⟨r, hr, hsome⟩
    refine .inr ⟨?_, hnone⟩
    have hfind : (l.rules.findSome? fun r => (r.interpret? (Text.trim text)).map
        (Interpretation.mk r.name)) = none :=
      List.findSome?_eq_none_iff.2 fun r hr => by rw [Rule.interpret?, hnone r hr]; rfl
    simp only [interpret, hfind]

/-! ## More words -/

/-- Text around a question takes nothing from what is recognised in it. -/
theorem recognize?_isSome_append {r : Recognizer} {text : String}
    (h : (r.recognize? (Text.trim text)).isSome) (a b : String) :
    (r.recognize? (Text.trim (a ++ text ++ b))).isSome := by
  simp only [Recognizer.recognize?, Option.isSome_map] at h ⊢
  refine Pattern.occursIn_of_infix h ?_
  simp only [Text.trim, String.toList_ofList, String.toList_append]
  exact Text.trimChars_infix_append a.toList text.toList b.toList

/-- Words around a question that has an answer do not take it out of reach.  Some rule still
answers, and it stands no later in the library. -/
theorem interpret_append {l : Library} {text : String} {t : Interpretation}
    (ht : l.interpret text = .ok t) (a b : String) :
    ∃ i r ws, l.WinsAt text i r ws ∧ t = ⟨r.name, r.template.fill ws⟩ ∧
      ∃ j ≤ i, ∃ r' ws', l.WinsAt (a ++ text ++ b) j r' ws' ∧
        l.interpret (a ++ text ++ b) = .ok ⟨r'.name, r'.template.fill ws'⟩ := by
  obtain ⟨r, ws, hwins, rfl⟩ := interpret_eq_ok_iff.1 ht
  obtain ⟨i, hwins⟩ := wins_iff_winsAt.1 hwins
  have hsome : (r.recognizer.recognize? (Text.trim text)).isSome := by
    rw [hwins.2.1]
    rfl
  obtain ⟨j, hj, r', ws', hwins'⟩ := exists_winsAt hwins.1 (recognize?_isSome_append hsome a b)
  exact ⟨i, r, ws, hwins, rfl, j, hj, r', ws', hwins', hwins'.interpret⟩

/-- With the verb in front, the rule before answers. -/
theorem interpret_append_rome :
    let t : Interpretation :=
      ⟨"customers_by_city", "SELECT * FROM customers WHERE city = 'Rome';"⟩
    builtin.interpret "customers in Rome" = .ok t ∧
      ∃ i r ws, builtin.WinsAt "customers in Rome" i r ws ∧ t = ⟨r.name, r.template.fill ws⟩ ∧
        ∃ j ≤ i, ∃ r' ws', builtin.WinsAt ("List " ++ "customers in Rome" ++ "?") j r' ws' ∧
          builtin.interpret ("List " ++ "customers in Rome" ++ "?") =
            .ok ⟨r'.name, r'.template.fill ws'⟩ := by
  intro t
  have ht : builtin.interpret "customers in Rome" = .ok t := eq_ok_of_toOption (by decide +kernel)
  exact ⟨ht, interpret_append ht "List " "?"⟩

end Library

/-! ## Letter case -/

/-- A capture that does not exist is empty in every letter case. -/
theorem captureAt_of_toLower {ws vs : List String}
    (h : vs.map String.toLower = ws.map String.toLower) (i : Nat) :
    (captureAt vs i).toLower = (captureAt ws i).toLower := by
  have hempty : "".toLower = "" := by
    rw [← String.toList_inj, Text.toList_toLower]
    rfl
  have hmap (us : List String) :
      (captureAt us i).toLower = captureAt (us.map String.toLower) i := by
    rw [captureAt, captureAt, List.getD_eq_getElem?_getD, List.getD_eq_getElem?_getD,
      List.getElem?_map]
    cases us[i]? with
    | none => exact hempty
    | some w => rfl
  rw [hmap, hmap, h]

namespace Part

/-- Whether a piece makes the same of a capture in every letter case. -/
def foldsCase : Part → Bool
  | .capture _ => false
  | _ => true

variable {ws vs : List String}

/-- A part that folds the case makes the same text of both. -/
theorem fill_of_foldsCase {p : Part} (hp : p.foldsCase = true)
    (h : vs.map String.toLower = ws.map String.toLower) : p.fill vs = p.fill ws := by
  cases p with
  | text s => rfl
  | capture i => cases hp
  | lowered i => exact captureAt_of_toLower h i
  | direction i => rw [fill, fill, directionText, directionText, captureAt_of_toLower h i]

/-- Any part makes texts that differ in case only. -/
theorem toLower_fill (p : Part) (h : vs.map String.toLower = ws.map String.toLower) :
    (p.fill vs).toLower = (p.fill ws).toLower := by
  cases p with
  | capture i => exact captureAt_of_toLower h i
  | _ => rw [fill_of_foldsCase rfl h]

end Part

namespace Template

variable {ws vs : List String}

theorem toLower_fill_parts (pieces : List Part)
    (h : vs.map String.toLower = ws.map String.toLower) :
    ((Template.parts pieces).fill vs).toLower = ((Template.parts pieces).fill ws).toLower := by
  rw [← String.toList_inj, Text.toList_toLower, Text.toList_toLower, toList_fill_parts,
    toList_fill_parts, List.map_flatMap, List.map_flatMap]
  refine List.flatMap_congr fun p _ => ?_
  rw [← Text.toList_toLower, ← Text.toList_toLower, p.toLower_fill h]

theorem fill_parts_of_foldsCase {pieces : List Part} (hp : pieces.all Part.foldsCase = true)
    (h : vs.map String.toLower = ws.map String.toLower) :
    (Template.parts pieces).fill vs = (Template.parts pieces).fill ws := by
  rw [← String.toList_inj, toList_fill_parts, toList_fill_parts]
  refine List.flatMap_congr fun p hmem => ?_
  rw [p.fill_of_foldsCase (List.all_eq_true.1 hp p hmem) h]

/-- The pieces of a template that has pieces. -/
def pieces? : Template → Option (List Part)
  | .parts pieces => some pieces
  | .holes _ => none

end Template

namespace Library

/-- The built-in templates are made of pieces, and the one of the sorted listing folds all it takes
over. -/
theorem exists_pieces {r : Rule} (hr : r ∈ builtin.rules) : ∃ pieces, r.template = .parts pieces ∧
    (r.name = "sorted_listing" → pieces.all Part.foldsCase = true) := by
  have h : ∀ e ∈ builtinEntries, ∃ pieces ∈ e.2.2.pieces?,
      e.1 = "sorted_listing" → pieces.all Part.foldsCase = true := by
    decide +kernel
  obtain ⟨source, he⟩ := exists_entry hr
  obtain ⟨pieces, hpieces, hfolds⟩ := h _ he
  refine ⟨pieces, ?_, hfolds⟩
  cases htemplate : r.template with
  | parts ps =>
      rw [htemplate] at hpieces
      cases hpieces
      rfl
  | holes s =>
      rw [htemplate] at hpieces
      cases hpieces

/-- In another letter case the same rule wins. -/
theorem WinsAt.of_toLower {l : Library} {s t : String} {i : Nat} {r : Rule} {ws : List String}
    (hwins : l.WinsAt s i r ws) (h : t.toLower = s.toLower) :
    ∃ vs, l.WinsAt t i r vs ∧ vs.map String.toLower = ws.map String.toLower := by
  have hcase (b : Rule) := b.recognizer.recognize?_of_toLower (Text.toLower_trim h)
  obtain ⟨hr, hws, hbefore⟩ := hwins
  have hvs := hcase r
  rw [hws, Option.map_some, Option.map_eq_some_iff] at hvs
  obtain ⟨vs, hvs, hlower⟩ := hvs
  refine ⟨vs, ⟨hr, hvs, fun j hj b hb => ?_⟩, hlower⟩
  have hb' := hcase b
  rwa [hbefore j hj b hb, Option.map_none, Option.map_eq_none_iff] at hb'

/-- The letter case of a question plays no part: either it has no answer in any case, or the same
rule answers, with captures that are equal up to case.  The built-in rules then make texts that are
equal up to case, and for a sorted listing the same text. -/
theorem interpret_of_toLower (l : Library) {s t : String} (h : t.toLower = s.toLower) :
    (∀ r ∈ l.rules, r.recognizer.recognize? (Text.trim s) = none ∧
        r.recognizer.recognize? (Text.trim t) = none) ∧
      l.interpret s = .error ⟨Text.trim s⟩ ∧ l.interpret t = .error ⟨Text.trim t⟩ ∨
    ∃ i r ws vs, l.WinsAt s i r ws ∧ l.WinsAt t i r vs ∧
      vs.map String.toLower = ws.map String.toLower ∧
      l.interpret s = .ok ⟨r.name, r.template.fill ws⟩ ∧
      l.interpret t = .ok ⟨r.name, r.template.fill vs⟩ ∧
      (l = builtin → (r.template.fill vs).toLower = (r.template.fill ws).toLower ∧
        (r.name = "sorted_listing" → r.template.fill vs = r.template.fill ws)) := by
  rcases l.exists_winsAt_or s with ⟨i, r, ws, hwins⟩ | ⟨hs, hnone⟩
  · obtain ⟨vs, hwins', hlower⟩ := hwins.of_toLower h
    refine .inr ⟨i, r, ws, vs, hwins, hwins', hlower, hwins.interpret, hwins'.interpret, ?_⟩
    rintro rfl
    obtain ⟨pieces, htemplate, hfolds⟩ := exists_pieces (List.mem_of_getElem? hwins.1)
    rw [htemplate]
    exact ⟨Template.toLower_fill_parts pieces hlower, fun hname =>
      Template.fill_parts_of_foldsCase (hfolds hname) hlower⟩
  · rcases l.exists_winsAt_or t with ⟨i, r, ws, hwins⟩ | ⟨ht, hnone'⟩
    · obtain ⟨vs, hwins', _⟩ := hwins.of_toLower h.symm
      have hfound := hwins'.2.1
      rw [hnone r (List.mem_of_getElem? hwins.1)] at hfound
      cases hfound
    · exact .inl ⟨fun r hr => ⟨hnone r hr, hnone' r hr⟩, hs, ht⟩

theorem interpret_of_toLower_rome :
    let s := "List customers in Rome"
    let t := "LIST Customers IN rOME"
    t.toLower = s.toLower ∧ ∃ i r ws vs, builtin.WinsAt s i r ws ∧ builtin.WinsAt t i r vs ∧
      vs.map String.toLower = ws.map String.toLower ∧
      (r.template.fill vs).toLower = (r.template.fill ws).toLower := by
  intro s t
  have h : t.toLower = s.toLower := by
    rw [← String.toList_inj, Text.toList_toLower, Text.toList_toLower]
    decide +kernel
  have hanswer : builtin.interpret s =
      .ok ⟨"customers_by_city_verb", "SELECT * FROM customers WHERE city = 'Rome';"⟩ :=
    eq_ok_of_toOption (by decide +kernel)
  rcases builtin.interpret_of_toLower h with ⟨_, hs, _⟩ | ⟨i, r, ws, vs, hs, ht, hlower, _, _, hsql⟩
  · rw [hanswer] at hs
    cases hs
  · exact ⟨h, i, r, ws, vs, hs, ht, hlower, (hsql rfl).1⟩

end Library

end AskTables
