import AskTables.Text.Blank
import Mathlib.Data.List.DropRight

/-!
# Replacing blanks

`Text.Respaced s t` says that `t` is `s` with some runs of blanks replaced by other runs.  The
characters that are not blank stay where they are, so a part of the text that begins and ends with
such characters can be followed into the other text.
-/

namespace AskTables

namespace Text

/-- Blanks, at least one. -/
def IsBlankRun (g : List Char) : Prop := g ≠ [] ∧ ∀ c ∈ g, isBlank c

theorem isBlankRun_iff {g : List Char} : IsBlankRun g ↔ g ≠ [] ∧ g.all isBlank = true := by
  rw [IsBlankRun, List.all_eq_true]

/-- The second text is the first with some of its runs of blanks replaced by other runs. -/
inductive Respaced : List Char → List Char → Prop where
  | nil : Respaced [] []
  | keep {c s t} : Respaced s t → Respaced (c :: s) (c :: t)
  | blanks {g h s t} : IsBlankRun g → IsBlankRun h → Respaced s t → Respaced (g ++ s) (h ++ t)

namespace Respaced

variable {s t : List Char}

theorem refl (s : List Char) : Respaced s s := by
  induction s with
  | nil => exact .nil
  | cons c s ih => exact .keep ih

theorem symm (h : Respaced s t) : Respaced t s := by
  induction h with
  | nil => exact .nil
  | keep _ ih => exact .keep ih
  | blanks hg hh _ ih => exact .blanks hh hg ih

theorem append {u v : List Char} (h : Respaced s t) (h' : Respaced u v) :
    Respaced (s ++ u) (t ++ v) := by
  induction h with
  | nil => exact h'
  | keep _ ih => exact .keep ih
  | blanks hg hh _ ih =>
      rw [List.append_assoc, List.append_assoc]
      exact .blanks hg hh ih

theorem of_isBlankRun (hs : IsBlankRun s) (ht : IsBlankRun t) : Respaced s t := by
  have h := Respaced.blanks hs ht .nil
  rwa [List.append_nil, List.append_nil] at h

theorem eq_nil (h : Respaced [] t) : t = [] := by
  generalize hs : [] = s at h
  cases h with
  | nil => rfl
  | keep _ => cases hs
  | blanks hg _ _ => exact absurd (List.nil_eq_append_iff.1 hs).1 hg.1

/-- A character that is not blank stays, with what stands on its two sides. -/
theorem split {c : Char} {x y : List Char} (hc : isBlank c = false)
    (h : Respaced (x ++ c :: y) t) :
    ∃ x' y', t = x' ++ c :: y' ∧ Respaced x x' ∧ Respaced y y' := by
  generalize hs : x ++ c :: y = s at h
  induction h generalizing x with
  | nil => cases x <;> cases hs
  | @keep d s t h ih =>
      cases x with
      | nil =>
          cases hs
          exact ⟨[], t, rfl, .nil, h⟩
      | cons e x =>
          cases hs
          obtain ⟨x', y', rfl, hx, hy⟩ := ih rfl
          exact ⟨d :: x', y', rfl, .keep hx, hy⟩
  | @blanks g k s t hg hk h ih =>
      rcases List.append_eq_append_iff.1 hs with ⟨u, rfl, hu⟩ | ⟨u, rfl, hu⟩
      · -- The character itself is no part of the blanks.
        cases u with
        | nil =>
            obtain ⟨x', y', rfl, hx, hy⟩ := ih (x := []) hu
            rw [eq_nil hx]
            exact ⟨k, y', rfl, by simpa using of_isBlankRun hg hk, hy⟩
        | cons d u =>
            cases hu
            have hblank := hg.2 c (by simp)
            rw [hc] at hblank
            cases hblank
      · obtain ⟨x', y', rfl, hx, hy⟩ := ih hu.symm
        exact ⟨k ++ x', y', by rw [List.append_assoc], .blanks hg hk hx, hy⟩

/-- Blanks become blanks. -/
theorem isBlankRun (h : Respaced s t) (hs : IsBlankRun s) : IsBlankRun t := by
  have hall : (∀ c ∈ s, isBlank c) → ∀ c ∈ t, isBlank c := by
    clear hs
    induction h with
    | nil => exact fun h => h
    | keep _ ih =>
        intro hs c hc
        rcases List.mem_cons.1 hc with rfl | hc
        · exact hs c (by simp)
        · exact ih (fun d hd => hs d (by simp [hd])) c hc
    | blanks _ hk _ ih =>
        intro hs c hc
        rcases List.mem_append.1 hc with hc | hc
        · exact hk.2 c hc
        · exact ih (fun d hd => hs d (by simp [hd])) c hc
  refine ⟨?_, hall hs.2⟩
  rintro rfl
  exact hs.1 (eq_nil h.symm)

/-- Without blanks nothing is replaced. -/
theorem eq_of_ink (h : Respaced s t) (hs : ∀ c ∈ s, isBlank c = false) : t = s := by
  induction h with
  | nil => rfl
  | keep _ ih => rw [ih fun c hc => hs c (by simp [hc])]
  | @blanks g k s t hg _ _ _ =>
      obtain ⟨c, hc⟩ := List.exists_mem_of_ne_nil g hg.1
      have hblank := hg.2 c hc
      rw [hs c (by simp [hc])] at hblank
      cases hblank

end Respaced

/-- A text that begins and ends with a character that is not blank. -/
structure IsBounded (t : List Char) : Prop where
  first : ∃ c u, t = c :: u ∧ isBlank c = false
  last : ∃ u c, t = u ++ [c] ∧ isBlank c = false

theorem isBounded_of_ink {t : List Char} (hne : t ≠ []) (ht : ∀ c ∈ t, isBlank c = false) :
    IsBounded t := by
  constructor
  · cases t with
    | nil => exact absurd rfl hne
    | cons c u => exact ⟨c, u, rfl, ht c (by simp)⟩
  · exact ⟨t.dropLast, t.getLast hne, (List.dropLast_concat_getLast hne).symm,
      ht _ (List.getLast_mem hne)⟩

theorem IsBounded.append {s t : List Char} (hs : IsBounded s) (ht : IsBounded t)
    (m : List Char) : IsBounded (s ++ (m ++ t)) := by
  obtain ⟨c, u, rfl, hc⟩ := hs.first
  obtain ⟨v, d, rfl, hd⟩ := ht.last
  exact ⟨⟨c, u ++ (m ++ (v ++ [d])), rfl, hc⟩, c :: u ++ (m ++ v), d, by simp, hd⟩

/-- A bounded part of a text stays together. -/
theorem Respaced.split_bounded {x t y s : List Char} (ht : IsBounded t)
    (h : Respaced (x ++ (t ++ y)) s) :
    ∃ x' t' y', s = x' ++ (t' ++ y') ∧ Respaced x x' ∧ Respaced t t' ∧ Respaced y y' := by
  obtain ⟨u, d, rfl, hd⟩ := ht.last
  obtain ⟨c, v, hv, hc⟩ := ht.first
  have hs : x ++ (u ++ [d] ++ y) = x ++ u ++ d :: y := by simp
  rw [hs] at h
  obtain ⟨z, y', rfl, hz, hy⟩ := h.split hd
  cases u with
  | nil => exact ⟨z, [d], y', by simp, by simpa using hz, .refl [d], hy⟩
  | cons e u =>
      cases hv
      obtain ⟨x', u', rfl, hx, hu⟩ := hz.split hc
      exact ⟨x', c :: u' ++ [d], y', by simp, hx, (Respaced.keep hu).append (.refl [d]), hy⟩

/-- Without blanks there is nothing to trim. -/
theorem trimChars_of_forall {s : List Char} (h : ∀ c ∈ s, isBlank c = false) :
    trimChars s = s := by
  have hdrop : ∀ t : List Char, (∀ c ∈ t, isBlank c = false) → t.dropWhile isBlank = t := by
    intro t ht
    cases t with
    | nil => rfl
    | cons c t => simp [ht c (by simp)]
  rw [trimChars, trimStart, hdrop s h, trimEnd, hdrop _ (by simpa using h), List.reverse_reverse]

theorem isBlank_of_mem_takeWhile {s : List Char} {c : Char} (hc : c ∈ s.takeWhile isBlank) :
    isBlank c :=
  List.all_eq_true.1 List.all_takeWhile c hc

/-- Trimming at the end takes blanks away. -/
theorem exists_blanks_trimEnd (s : List Char) :
    ∃ r, (∀ c ∈ r, isBlank c) ∧ s = trimEnd s ++ r := by
  refine ⟨(s.reverse.takeWhile isBlank).reverse,
    fun c hc => isBlank_of_mem_takeWhile (List.mem_reverse.1 hc), ?_⟩
  rw [trimEnd, ← List.reverse_append, List.takeWhile_append_dropWhile, List.reverse_reverse]

/-- Trimming takes blanks away at both ends. -/
theorem exists_blanks_trimChars (s : List Char) : ∃ l r, (∀ c ∈ l, isBlank c) ∧
    (∀ c ∈ r, isBlank c) ∧ s = l ++ (trimChars s ++ r) := by
  obtain ⟨r, hr, hend⟩ := exists_blanks_trimEnd (trimStart s)
  refine ⟨s.takeWhile isBlank, r, fun _ => isBlank_of_mem_takeWhile, hr, ?_⟩
  rw [trimChars, ← hend, trimStart, List.takeWhile_append_dropWhile]

/-- A text that was trimmed has no outer blanks left. -/
theorem trimChars_trimChars (s : List Char) : trimChars (trimChars s) = trimChars s := by
  rw [trimChars, trimChars]
  cases h : trimStart s with
  | nil => rfl
  | cons c u =>
      have hc : isBlank c = false := by
        have hhead := List.head?_dropWhile_not isBlank s
        rw [← trimStart, h] at hhead
        simpa using hhead
      have hend : trimEnd (c :: u) = c :: trimEnd u := trimEnd_append_of_not_blank hc [] u
      have hstart : trimStart (c :: trimEnd u) = c :: trimEnd u := by simp [trimStart, hc]
      rw [hend, hstart, ← hend, trimEnd, trimEnd, List.reverse_reverse, List.dropWhile_idempotent]

/-- Without its outer blanks a text begins and ends with other characters. -/
theorem isBounded_trimChars {s : List Char} (h : trimChars s ≠ []) : IsBounded (trimChars s) := by
  have hhead {u v : List Char} {c : Char} (he : u.dropWhile isBlank = c :: v) :
      isBlank c = false := by
    have hnot := List.head?_dropWhile_not isBlank u
    rw [he] at hnot
    simpa using hnot
  constructor
  · cases hstart : trimStart s with
    | nil => exact absurd (by rw [trimChars, hstart]; rfl) h
    | cons c u =>
        have hc : isBlank c = false := hhead hstart
        refine ⟨c, trimEnd u, ?_, hc⟩
        rw [trimChars, hstart]
        exact trimEnd_append_of_not_blank hc [] u
  · cases hend : (trimStart s).reverse.dropWhile isBlank with
    | nil => exact absurd (by rw [trimChars, trimEnd, hend]; rfl) h
    | cons c v =>
        refine ⟨v.reverse, c, ?_, hhead hend⟩
        rw [trimChars, trimEnd, hend, List.reverse_cons]

/-- A bounded text that stands among blanks and something else stands in the latter. -/
theorem IsBounded.infix_of_blanks {t l m r : List Char} (ht : IsBounded t)
    (hl : ∀ c ∈ l, isBlank c) (hr : ∀ c ∈ r, isBlank c) (h : t <:+: l ++ (m ++ r)) : t <:+: m := by
  obtain ⟨c, u, hu, hc⟩ := ht.first
  obtain ⟨v, d, hv, hd⟩ := ht.last
  obtain ⟨x, y, he⟩ := h
  have hleft : t <:+: m ++ r := by
    rw [List.append_assoc] at he
    rcases List.append_eq_append_iff.1 he with ⟨w, rfl, hw⟩ | ⟨w, rfl, hw⟩
    · cases w with
      | nil => exact ⟨[], y, by simpa using hw⟩
      | cons e w =>
          rw [hu, List.cons_append, List.cons_append] at hw
          have hblank := hl c (by simp [(List.cons.inj hw).1])
          rw [hc] at hblank
          cases hblank
    · exact ⟨w, y, by rw [List.append_assoc, hw]⟩
  obtain ⟨x, y, he⟩ := hleft
  rcases List.append_eq_append_iff.1 he with ⟨w, rfl, rfl⟩ | ⟨w, hw, hr'⟩
  · exact ⟨x, w, rfl⟩
  · cases List.eq_nil_or_concat w with
    | inl hw' =>
        subst hw'
        exact ⟨x, [], by simpa using hw⟩
    | inr hw' =>
        obtain ⟨w', e, rfl⟩ := hw'
        rw [hv, ← List.append_assoc, List.concat_eq_append, ← List.append_assoc] at hw
        cases (List.append_inj' hw rfl).2
        have hblank := hr d (by simp [hr'])
        rw [hd] at hblank
        cases hblank

/-- What is left of a text after trimming stands in what is left of every text around it. -/
theorem trimChars_infix_append (a s b : List Char) : trimChars s <:+: trimChars (a ++ s ++ b) := by
  by_cases h : trimChars s = []
  · rw [h]
    exact List.nil_infix
  · obtain ⟨l, r, hl, hr, he⟩ := exists_blanks_trimChars (a ++ s ++ b)
    obtain ⟨l', r', _, _, he'⟩ := exists_blanks_trimChars s
    refine (isBounded_trimChars h).infix_of_blanks hl hr ?_
    rw [← he]
    refine List.IsInfix.trans ⟨l', r', ?_⟩ ⟨a, b, rfl⟩
    rw [List.append_assoc, ← he']

end Text

end AskTables
