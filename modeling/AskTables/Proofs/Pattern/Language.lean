import AskTables.Proofs.Pattern.Match
import AskTables.Proofs.Text.Ascii

/-!
# The texts of a pattern

`Pattern.Spells p t` says that `t` is one of the texts that a pattern describes.  A match stands
exactly over such a text, and the rest of the text it is found in does not matter.

For the patterns that captures are made of, the texts are described further: by the characters that
a repeated set accepts, and, for a pattern without repetition, by the list of its words.
-/

namespace AskTables

namespace Pattern

/-- A text is one that a pattern describes. -/
inductive Spells : Pattern → List Char → Prop where
  | empty : Spells .empty []
  | char {set c} : set.accepts c → Spells (.char set) [c]
  | seq {p q t u} : Spells p t → Spells q u → Spells (.seq p q) (t ++ u)
  | first {p q t} : Spells p t → Spells (.alt p q) t
  | second {p q t} : Spells q t → Spells (.alt p q) t
  | skip {count p} : count ≠ .positive → Spells (.rep count p) []
  | once {p t} : Spells p t → Spells (.rep .optional p) t
  | round {count p t u} : count ≠ .optional → Spells p t → Spells (.rep .any p) u →
      Spells (.rep count p) (t ++ u)
  | group {g p t} : Spells p t → Spells (.group g p) t

/-- A text stands in another one between two positions. -/
def StandsAt (s : List Char) (i : Nat) (t : List Char) (j : Nat) : Prop :=
  j = i + t.length ∧ s.drop i = t ++ s.drop j

theorem StandsAt.nil (s : List Char) (i : Nat) : StandsAt s i [] i := ⟨rfl, rfl⟩

/-- Texts stand in a row if one begins where the other ends. -/
theorem StandsAt.append {s t u : List Char} {i j k : Nat} (ht : StandsAt s i t j)
    (hu : StandsAt s j u k) : StandsAt s i (t ++ u) k := by
  obtain ⟨rfl, ht⟩ := ht
  obtain ⟨rfl, hu⟩ := hu
  refine ⟨by simp [Nat.add_assoc], ?_⟩
  rw [ht, hu, List.append_assoc]

/-- The text between two positions. -/
theorem StandsAt.eq_take {s t : List Char} {i j : Nat} (h : StandsAt s i t j) :
    (s.drop i).take (j - i) = t := by
  obtain ⟨rfl, h⟩ := h
  rw [h, Nat.add_sub_cancel_left, List.take_left']
  rfl

/-- What a pattern matches is one of its texts. -/
theorem Matches.exists_spells {s : List Char} {p : Pattern} {i j : Nat} {m m' : Marks}
    (h : p.Matches s i m j m') : ∃ t, p.Spells t ∧ StandsAt s i t j := by
  induction h with
  | @empty i m => exact ⟨[], .empty, .nil s i⟩
  | @char set c i m hc hset =>
      refine ⟨[c], .char hset, rfl, ?_⟩
      obtain ⟨hi, rfl⟩ := List.getElem?_eq_some_iff.1 hc
      exact List.drop_eq_getElem_cons hi
  | seq _ _ ihp ihq =>
      obtain ⟨t, hp, ht⟩ := ihp
      obtain ⟨u, hq, hu⟩ := ihq
      exact ⟨t ++ u, .seq hp hq, ht.append hu⟩
  | first _ ih =>
      obtain ⟨t, hp, ht⟩ := ih
      exact ⟨t, .first hp, ht⟩
  | second _ ih =>
      obtain ⟨t, hq, ht⟩ := ih
      exact ⟨t, .second hq, ht⟩
  | @skip count p i m hne => exact ⟨[], .skip hne, .nil s i⟩
  | once _ ih =>
      obtain ⟨t, hp, ht⟩ := ih
      exact ⟨t, .once hp, ht⟩
  | round hne _ _ ihp ihr =>
      obtain ⟨t, hp, ht⟩ := ihp
      obtain ⟨u, hr, hu⟩ := ihr
      exact ⟨t ++ u, .round hne hp hr, ht.append hu⟩
  | group _ ih =>
      obtain ⟨t, hp, ht⟩ := ih
      exact ⟨t, .group hp, ht⟩

end Pattern

/-! ## Characters that a set accepts -/

namespace CharSet

open Text

/-- Swapping the case moves an ASCII letter by 32 and leaves everything else. -/
theorem toNat_swapCase (c : Char) : (swapCase c).toNat =
    if 65 ≤ c.toNat ∧ c.toNat ≤ 90 then c.toNat + 32
    else if 97 ≤ c.toNat ∧ c.toNat ≤ 122 then c.toNat - 32 else c.toNat := by
  unfold swapCase
  split
  · rename_i h
    rw [isUpper_iff] at h
    rw [toNat_toLower, if_pos h, if_pos h]
  · rename_i h
    rw [isUpper_iff] at h
    rw [toNat_toUpper, if_neg h]

/-- A character is within ranges if one of them holds it. -/
theorem within_iff (rs : List (Char × Char)) (c : Char) :
    within rs c = true ↔ ∃ r ∈ rs, r.1.toNat ≤ c.toNat ∧ c.toNat ≤ r.2.toNat := by
  simp only [within, List.any_eq_true, Bool.and_eq_true, decide_eq_true_eq]
  exact Iff.rfl

/-- A set accepts a character if the code point of one of its two cases lies in a range. -/
theorem accepts_ranges_iff (rs : List (Char × Char)) (c : Char) :
    (ranges rs).accepts c = true ↔ ∃ r ∈ rs, (r.1.toNat ≤ c.toNat ∧ c.toNat ≤ r.2.toNat) ∨
      (r.1.toNat ≤ (swapCase c).toNat ∧ (swapCase c).toNat ≤ r.2.toNat) := by
  simp only [accepts, Bool.or_eq_true, within_iff]
  constructor
  · rintro (⟨r, hr, h⟩ | ⟨r, hr, h⟩)
    · exact ⟨r, hr, .inl h⟩
    · exact ⟨r, hr, .inr h⟩
  · rintro ⟨r, hr, h | h⟩
    · exact .inl ⟨r, hr, h⟩
    · exact .inr ⟨r, hr, h⟩

/-- The code point of a character that a set accepts lies in a range, or a letter's other case
does. -/
theorem code_of_accepts {rs : List (Char × Char)} {c : Char} (h : (ranges rs).accepts c) :
    ∃ r ∈ rs, (r.1.toNat ≤ c.toNat ∧ c.toNat ≤ r.2.toNat) ∨
      (97 ≤ c.toNat ∧ c.toNat ≤ 122 ∧ r.1.toNat + 32 ≤ c.toNat ∧ c.toNat ≤ r.2.toNat + 32) ∨
      (65 ≤ c.toNat ∧ c.toNat ≤ 90 ∧ r.1.toNat ≤ c.toNat + 32 ∧ c.toNat + 32 ≤ r.2.toNat) := by
  obtain ⟨r, hr, h | h⟩ := (accepts_ranges_iff rs c).1 h
  · exact ⟨r, hr, .inl h⟩
  · refine ⟨r, hr, ?_⟩
    rw [toNat_swapCase] at h
    split at h
    · omega
    · split at h <;> omega

/-- What a pattern takes for a part of a word is one in the grammar. -/
theorem isWordChar_of_word {c : Char} (h : word.accepts c) : Grammar.isWordChar c := by
  have hcode := code_of_accepts h
  simp only [List.mem_cons, List.not_mem_nil, or_false, exists_eq_or_imp, exists_eq_left,
    Char.reduceToNat] at hcode
  rw [Grammar.isWordChar_iff]
  omega

theorem isDigit_of_digit {c : Char} (h : digit.accepts c) : c.isDigit := by
  have hcode := code_of_accepts h
  simp only [List.mem_cons, List.not_mem_nil, or_false, exists_eq_left, Char.reduceToNat] at hcode
  rw [isDigit_iff]
  omega

/-- The two cases of a letter have the same lower case. -/
theorem toLower_swapCase (c : Char) : (swapCase c).toLower = c.toLower := by
  rw [eq_iff_toNat, toNat_toLower, toNat_toLower, toNat_swapCase]
  split
  · rw [if_neg (by omega)]
  · split
    · rw [if_pos (by omega)]
      omega
    · rfl

/-- The set of one character accepts it in its two cases. -/
theorem toLower_of_single {c d : Char} (h : (single c).accepts d) : d.toLower = c.toLower := by
  rw [single, accepts_ranges_iff] at h
  simp only [List.mem_cons, List.not_mem_nil, or_false, exists_eq_left] at h
  rcases h with ⟨h1, h2⟩ | ⟨h1, h2⟩
  · rw [(eq_iff_toNat d c).2 (Nat.le_antisymm h2 h1)]
  · rw [← toLower_swapCase d, (eq_iff_toNat (swapCase d) c).2 (Nat.le_antisymm h2 h1)]

theorem swapCase_swapCase (c : Char) : swapCase (swapCase c) = c := by
  have h := toNat_swapCase c
  rw [eq_iff_toNat, toNat_swapCase]
  split at h
  · rw [if_neg (by omega), if_pos (by omega)]
    omega
  · split at h
    · rw [if_pos (by omega)]
      omega
    · rw [if_neg (by omega), if_neg (by omega), h]

/-- A character with the same lower case is the same or the other case of the letter. -/
theorem eq_or_eq_swapCase {c d : Char} (h : d.toLower = c.toLower) : d = c ∨ d = swapCase c := by
  simp only [eq_iff_toNat, toNat_toLower] at h
  rw [eq_iff_toNat, eq_iff_toNat, toNat_swapCase]
  split at h
  · split at h
    · exact .inl (by omega)
    · rw [if_neg (by omega)]
      by_cases hc : d.toNat = c.toNat
      · exact .inl hc
      · exact .inr (by rw [if_pos (by omega)]; omega)
  · split at h
    · exact .inr (by rw [if_pos (by omega)]; omega)
    · exact .inl h

/-- No letter is blank, so being blank does not depend on the case. -/
theorem isBlank_swapCase (c : Char) : isBlank (swapCase c) = isBlank c := by
  have h := toNat_swapCase c
  simp only [isBlank, blankRanges, inRanges]
  split at h
  · grind
  · split at h
    · grind
    · rw [h]

/-- A set accepts both cases of a letter or none. -/
theorem accepts_swapCase (set : CharSet) (c : Char) :
    set.accepts (swapCase c) = set.accepts c := by
  cases set with
  | ranges rs => simp only [accepts, swapCase_swapCase, Bool.or_comm]
  | blank => exact isBlank_swapCase c
  | ink => exact congrArg (! ·) (isBlank_swapCase c)

/-- A set accepts a letter in both cases or in none. -/
theorem accepts_of_toLower {set : CharSet} {c d : Char} (h : d.toLower = c.toLower) :
    set.accepts d = set.accepts c := by
  rcases eq_or_eq_swapCase h with rfl | rfl
  · rfl
  · exact accepts_swapCase set c

end CharSet

namespace Pattern

/-! ## Repeated characters -/

/-- A repeated set spells characters that it accepts. -/
theorem Spells.of_star_char {set : CharSet} {t : List Char} (h : (star (.char set)).Spells t) :
    ∀ c ∈ t, set.accepts c := by
  generalize hp : star (.char set) = p at h
  induction h with
  | skip _ =>
      intro c hc
      cases hc
  | round _ hc _ _ ih =>
      cases hp
      cases hc with
      | char hset =>
          intro d hd
          rcases List.mem_cons.1 hd with rfl | hd
          · exact hset
          · exact ih rfl d hd
  | _ => cases hp

theorem Spells.of_plus_char {set : CharSet} {t : List Char} (h : (plus (.char set)).Spells t) :
    t ≠ [] ∧ ∀ c ∈ t, set.accepts c := by
  cases h with
  | skip hne => exact absurd rfl hne
  | round _ hc hr =>
      cases hc with
      | char hset =>
          refine ⟨List.cons_ne_nil _ _, ?_⟩
          intro d hd
          rcases List.mem_cons.1 hd with rfl | hd
          · exact hset
          · exact hr.of_star_char d hd

theorem spells_star_char {set : CharSet} {t : List Char} (h : ∀ c ∈ t, set.accepts c) :
    (star (.char set)).Spells t := by
  induction t with
  | nil => exact .skip (by decide)
  | cons c t ih =>
      exact .round (by decide) (.char (h c (by simp))) (ih fun d hd => h d (by simp [hd]))

theorem spells_plus_char_iff {set : CharSet} {t : List Char} :
    (plus (.char set)).Spells t ↔ t ≠ [] ∧ ∀ c ∈ t, set.accepts c := by
  constructor
  · exact Spells.of_plus_char
  · rintro ⟨hne, h⟩
    cases t with
    | nil => exact absurd rfl hne
    | cons c t =>
        exact .round (by decide) (.char (h c (by simp)))
          (spells_star_char fun d hd => h d (by simp [hd]))

/-! ## Patterns of finitely many words -/

end Pattern

/-- The character that a set accepts in its two cases, if it is the set of one, in lower case. -/
def CharSet.letter? : CharSet → Option Char
  | .ranges [(c, d)] => if c = d then some c.toLower else none
  | _ => none

/-- A set made for a letter accepts characters only that are lower-cased to it. -/
theorem CharSet.toLower_of_letter? {set : CharSet} {c d : Char} (hset : set.letter? = some c)
    (h : set.accepts d) : d.toLower = c := by
  unfold letter? at hset
  split at hset
  · split at hset
    · rename_i hc
      cases hc
      cases hset
      exact toLower_of_single h
    · cases hset
  · cases hset

namespace Pattern

/-- The words of a pattern in lower case, if it is made of single characters without repetition. -/
def words? : Pattern → Option (List (List Char))
  | .empty => some [[]]
  | .char set => set.letter?.map fun c => [[c]]
  | .seq p q => do
    let ts ← p.words?
    let us ← q.words?
    return ts.flatMap fun t => us.map fun u => t ++ u
  | .alt p q => do
    let ts ← p.words?
    let us ← q.words?
    return ts ++ us
  | .rep _ _ => none
  | .group _ p => p.words?

/-- The words of a pattern are all its texts, up to ASCII case. -/
theorem Spells.mem_words {p : Pattern} {t : List Char} (h : p.Spells t) {ts : List (List Char)}
    (hts : p.words? = some ts) : t.map Char.toLower ∈ ts := by
  induction h generalizing ts with
  | empty =>
      cases hts
      simp
  | @char set c hset =>
      obtain ⟨d, hd, rfl⟩ := Option.map_eq_some_iff.1 hts
      simp [CharSet.toLower_of_letter? hd hset]
  | seq _ _ ihp ihq =>
      simp only [words?, Option.bind_eq_bind, Option.bind_eq_some_iff] at hts
      obtain ⟨tp, hp, tq, hq, hts⟩ := hts
      cases hts
      rw [List.map_append]
      exact List.mem_flatMap.2 ⟨_, ihp hp, List.mem_map.2 ⟨_, ihq hq, rfl⟩⟩
  | first _ ih =>
      simp only [words?, Option.bind_eq_bind, Option.bind_eq_some_iff] at hts
      obtain ⟨tp, hp, tq, hq, hts⟩ := hts
      cases hts
      exact List.mem_append_left _ (ih hp)
  | second _ ih =>
      simp only [words?, Option.bind_eq_bind, Option.bind_eq_some_iff] at hts
      obtain ⟨tp, hp, tq, hq, hts⟩ := hts
      cases hts
      exact List.mem_append_right _ (ih hq)
  | group _ ih => exact ih hts
  | _ => cases hts

end Pattern

end AskTables
