import AskTables.Proofs.Decimal.Scan
import Mathlib.Data.List.DropRight

/-!
# The longest numeral in front of a text

`Numeral.IsLongest s p n` says that the text `s` begins with `p`, that `p` writes the numeral `n`,
and that no longer front of `s` writes one.  Scanning finds it, and fails only where no front of the
text is a numeral at all.

Two facts about the scanner carry this.  What it takes was written (`writes_of_scan?`), so it never
runs into text that is no part of a numeral.  And from any numeral in front of a text it gets at
least as far (`exists_scan?_append`), so it never stops short: digits go on as far as they can, a
point that stands behind digits is taken with them, and an exponent is left behind only if it is
none.

All characters of a numeral are single bytes, so its length is also the place where it ends in the
bytes of the text, and this place never lies inside a character.
-/

namespace AskTables.Decimal

open Json.NumberParts (EndsDigits scanDigits_append)
open Text (trimStart)

namespace Numeral

variable {s p u : List Char} {n : Numeral}

/-! ## What is scanned was written -/

/-- What is taken off as a sign is one. -/
theorem writesSign_scanSign (s : List Char) :
    ∃ sign, s = sign ++ (scanSign s).2 ∧ WritesSign sign (scanSign s).1 := by
  unfold scanSign
  split
  · exact ⟨['+'], rfl, .plus⟩
  · exact ⟨['-'], rfl, .minus⟩
  · exact ⟨[], rfl, .none⟩

theorem scanDigits_eq (s : List Char) : s = (scanDigits s).1 ++ (scanDigits s).2 :=
  List.takeWhile_append_dropWhile.symm

theorem isDigit_of_mem_scanDigits {c : Char} (hc : c ∈ (scanDigits s).1) : c.isDigit :=
  List.all_eq_true.1 List.all_takeWhile c hc

/-- A fraction is a point with the digits behind it, or nothing. -/
theorem scanFraction_eq (s : List Char) :
    (∀ c ∈ (scanFraction s).1, c.isDigit) ∧
      (s = '.' :: ((scanFraction s).1 ++ (scanFraction s).2) ∨
        (scanFraction s).1 = [] ∧ s = (scanFraction s).2) := by
  unfold scanFraction
  split
  · rename_i rest
    exact ⟨fun _ => isDigit_of_mem_scanDigits, .inl (congrArg _ (scanDigits_eq rest))⟩
  · exact ⟨by simp, .inr ⟨rfl, rfl⟩⟩

/-- What is taken off as an exponent is one. -/
theorem writesExponent_of_scanExponent? {exponent : Int} {rest : List Char}
    (h : scanExponent? s = some (exponent, rest)) :
    ∃ power, s = power ++ rest ∧ WritesExponent power exponent := by
  cases s with
  | nil => cases h
  | cons mark after =>
      rw [scanExponent?] at h
      split at h
      · rename_i hmark
        obtain ⟨sign, hafter, hsign⟩ := writesSign_scanSign after
        have hdigits := scanDigits_eq (scanSign after).2
        dsimp only at h
        split at h
        · cases h
        · rename_i ds left hne hscan
          cases h
          have hds : ∀ c ∈ ds, c.isDigit := by
            intro c hc
            have hmem : c ∈ (scanDigits (scanSign after).2).1 := by rwa [hscan]
            exact isDigit_of_mem_scanDigits hmem
          rw [hscan] at hdigits
          refine ⟨mark :: (sign ++ ds), ?_, .some hmark hsign hne hds⟩
          rw [List.cons_append, List.append_assoc, ← hdigits, ← hafter]
      · cases h

/-- Some digit stands before or behind the point, and the exponent was written. -/
theorem writesExponent_of_withExponent {negative : Bool} {whole fraction rest : List Char}
    (h : withExponent negative whole fraction s = some (n, rest)) :
    (whole ≠ [] ∨ fraction ≠ []) ∧ ∃ power exponent, s = power ++ rest ∧
      WritesExponent power exponent ∧ n = ⟨negative, whole, fraction, exponent⟩ := by
  rw [withExponent] at h
  split at h
  · cases h
  · rename_i hempty
    refine ⟨by simpa [← not_and_or] using hempty, ?_⟩
    split at h
    · rename_i exponent _ hscan
      cases h
      obtain ⟨power, hs, hpower⟩ := writesExponent_of_scanExponent? hscan
      exact ⟨power, exponent, hs, hpower, rfl⟩
    · cases h
      exact ⟨[], 0, rfl, .none, rfl⟩

/-- What is scanned is a numeral in front of the text. -/
theorem writes_of_scan? {rest : List Char} (h : scan? s = some (n, rest)) :
    ∃ p, s = p ++ rest ∧ Writes p n := by
  rw [scan?_eq_withExponent] at h
  obtain ⟨sign, hs, hsign⟩ := writesSign_scanSign s
  have hwhole := scanDigits_eq (scanSign s).2
  have hds : ∀ c ∈ (scanDigits (scanSign s).2).1, c.isDigit := fun _ => isDigit_of_mem_scanDigits
  obtain ⟨hfs, hfraction⟩ := scanFraction_eq (scanDigits (scanSign s).2).2
  obtain ⟨hne, power, exponent, hrest, hpower, rfl⟩ := writesExponent_of_withExponent h
  -- The digits on both sides of the point, in the three ways to write them.
  obtain ⟨digits, hdigits, htext⟩ : ∃ digits,
      WritesDigits digits (scanDigits (scanSign s).2).1
        (scanFraction (scanDigits (scanSign s).2).2).1 ∧
      (scanSign s).2 = digits ++ (scanFraction (scanDigits (scanSign s).2).2).2 := by
    rcases hfraction with hpoint | ⟨hnone, hpoint⟩
    · by_cases hempty : (scanDigits (scanSign s).2).1 = []
      · rw [hempty] at hwhole hne ⊢
        refine ⟨_, .fraction (hne.resolve_left fun h => h rfl) hfs, ?_⟩
        rw [List.cons_append, ← hpoint]
        exact hwhole
      · refine ⟨_, .point hempty hds hfs, ?_⟩
        rw [List.append_assoc, List.cons_append, ← hpoint, ← hwhole]
    · rw [hnone] at hne ⊢
      refine ⟨_, .whole (hne.resolve_right fun h => h rfl) hds, ?_⟩
      rw [← hpoint, ← hwhole]
  refine ⟨sign ++ (digits ++ power), ?_, .parts hsign hdigits hpower⟩
  rw [List.append_assoc, List.append_assoc, ← hrest, ← htext, ← hs]

/-! ## What is written is scanned -/

/-- Digits before a text are taken off with those that it begins with. -/
theorem scanDigits_append_digits {ds : List Char} (hds : ∀ c ∈ ds, c.isDigit) (s : List Char) :
    scanDigits (ds ++ s) = (ds ++ (scanDigits s).1, (scanDigits s).2) := by
  simp only [scanDigits, List.takeWhile_append_of_pos hds, List.dropWhile_append_of_pos hds]

theorem length_scanDigits_le (s : List Char) : (scanDigits s).2.length ≤ s.length :=
  List.length_dropWhile_le _ s

theorem length_scanFraction_le (s : List Char) : (scanFraction s).2.length ≤ s.length := by
  rcases (scanFraction_eq s).2 with h | ⟨-, h⟩
  · conv_rhs => rw [h]
    simp only [List.length_cons, List.length_append]
    omega
  · rw [← h]

variable {whole fraction power : List Char} {exponent : Int}

/-- With a digit, there is a numeral, and at most the exponent is taken for it. -/
theorem exists_withExponent (hne : whole ≠ [] ∨ fraction ≠ []) (negative : Bool)
    (s : List Char) : ∃ n rest, withExponent negative whole fraction s = some (n, rest) ∧
      rest.length ≤ s.length := by
  have hempty : ¬ (whole.isEmpty && fraction.isEmpty) = true := by
    simpa [← not_and_or] using hne
  rw [withExponent, if_neg hempty]
  split
  · rename_i hscan
    obtain ⟨power, rfl, -⟩ := writesExponent_of_scanExponent? hscan
    exact ⟨_, _, rfl, by simp⟩
  · exact ⟨_, _, rfl, Nat.le_refl _⟩

/-- An exponent is taken in full. -/
theorem exists_withExponent_power (hne : whole ≠ [] ∨ fraction ≠ [])
    (hpower : WritesExponent power exponent) (hpower' : power ≠ []) (negative : Bool)
    (u : List Char) : ∃ n rest, withExponent negative whole fraction (power ++ u) =
      some (n, rest) ∧ rest.length ≤ u.length := by
  have hempty : ¬ (whole.isEmpty && fraction.isEmpty) = true := by
    simpa [← not_and_or] using hne
  cases hpower with
  | none => exact absurd rfl hpower'
  | @some mark sign ds minus hmark hsign hds hdigits =>
      obtain ⟨d, ds, rfl⟩ := List.exists_cons_of_ne_nil hds
      have hscan : scanExponent? (mark :: (sign ++ (d :: ds)) ++ u) =
          some (if minus then -(natOfDigits (d :: ds ++ (scanDigits u).1) : Int)
            else natOfDigits (d :: ds ++ (scanDigits u).1), (scanDigits u).2) := by
        rw [List.cons_append, List.append_assoc, scanExponent?, if_pos hmark]
        simp only [scanSign_of_writesSign hsign (lacksSign_of_digits hds hdigits),
          scanDigits_append_digits hdigits]
        rfl
      rw [withExponent, if_neg hempty, hscan]
      exact ⟨_, _, rfl, length_scanDigits_le u⟩

/-- Behind the digits of a numeral come more digits or its exponent. -/
theorem exists_withExponent_scanDigits (hne : whole ≠ [] ∨ fraction ≠ [])
    (hpower : WritesExponent power exponent) (negative : Bool) (u : List Char) :
    ∃ n rest, withExponent negative whole fraction (scanDigits (power ++ u)).2 = some (n, rest) ∧
      rest.length ≤ u.length := by
  by_cases hnil : power = []
  · subst hnil
    obtain ⟨n, rest, h, hle⟩ := exists_withExponent hne negative (scanDigits u).2
    exact ⟨n, rest, h, hle.trans (length_scanDigits_le u)⟩
  · have hends : EndsDigits (power ++ u) := by
      obtain ⟨c, power, rfl⟩ := List.exists_cons_of_ne_nil hnil
      exact fun d hd => endsDigits_of_writesExponent hpower d hd
    have hnone : ∀ c ∈ ([] : List Char), c.isDigit := by simp
    have hscan : scanDigits (power ++ u) = ([], power ++ u) := scanDigits_append hnone hends
    rw [hscan]
    exact exists_withExponent_power hne hpower hnil negative u

/-- Behind the digits before a point come more digits, a point with digits or an exponent. -/
theorem exists_withExponent_scanFraction (hne : whole ≠ [])
    (hpower : WritesExponent power exponent) (negative : Bool) (u : List Char) :
    ∃ n rest, withExponent negative whole (scanFraction (scanDigits (power ++ u)).2).1
      (scanFraction (scanDigits (power ++ u)).2).2 = some (n, rest) ∧ rest.length ≤ u.length := by
  cases hpower with
  | none =>
      have hparts : whole ≠ [] ∨ (scanFraction (scanDigits u).2).1 ≠ [] := .inl hne
      obtain ⟨n, rest, h, hle⟩ :=
        exists_withExponent hparts negative (scanFraction (scanDigits u).2).2
      exact ⟨n, rest, h, hle.trans ((length_scanFraction_le _).trans (length_scanDigits_le u))⟩
  | some hmark hsign hds hdigits =>
      have hpower := WritesExponent.some hmark hsign hds hdigits
      have hparts : whole ≠ [] ∨ ([] : List Char) ≠ [] := .inl hne
      obtain ⟨n, rest, h, hle⟩ := exists_withExponent_power hparts hpower
        (List.cons_ne_nil _ _) negative u
      refine ⟨n, rest, ?_, hle⟩
      rcases hmark with rfl | rfl <;> exact h

/-- From a numeral in front of a text, scanning gets at least to its end. -/
theorem exists_scan?_append (h : Writes p n) (u : List Char) :
    ∃ m rest, scan? (p ++ u) = some (m, rest) ∧ rest.length ≤ u.length := by
  cases h with
  | @parts sign _ power whole fraction negative exponent hsign hdigits hpower =>
      rw [scan?_eq_withExponent, List.append_assoc, List.append_assoc]
      cases hdigits with
      | whole hne hds =>
          rw [scanSign_of_writesSign hsign (lacksSign_of_digits hne hds),
            scanDigits_append_digits hds]
          exact exists_withExponent_scanFraction (List.append_ne_nil_of_left_ne_nil hne _) hpower
            negative u
      | point hne hds hfs =>
          have hpoint : EndsDigits ('.' :: (fraction ++ (power ++ u))) := by
            intro c hc
            cases hc
            rfl
          rw [List.append_assoc, List.cons_append,
            scanSign_of_writesSign hsign (lacksSign_of_digits hne hds),
            scanDigits_append hds hpoint, scanFraction, scanDigits_append_digits hfs]
          exact exists_withExponent_scanDigits (.inl hne) hpower negative u
      | fraction hne hfs =>
          have hlacks : LacksSign ('.' :: (fraction ++ (power ++ u))) := by
            intro c hc
            cases hc
            decide
          have hwhole : scanDigits ('.' :: (fraction ++ (power ++ u))) =
              ([], '.' :: (fraction ++ (power ++ u))) := rfl
          rw [List.cons_append, scanSign_of_writesSign hsign hlacks, hwhole, scanFraction,
            scanDigits_append_digits hfs]
          exact exists_withExponent_scanDigits (.inr (List.append_ne_nil_of_left_ne_nil hne _))
            hpower negative u

/-! ## The longest numeral -/

/-- A text begins with a numeral, and with no longer one. -/
structure IsLongest (s p : List Char) (n : Numeral) : Prop where
  front : p <+: s
  writes : Writes p n
  longest : ∀ q m, q <+: s → Writes q m → q.length ≤ p.length

/-- What is scanned is the longest numeral at the front. -/
theorem isLongest_of_scan? {rest : List Char} (h : scan? (p ++ rest) = some (n, rest)) :
    IsLongest (p ++ rest) p n := by
  obtain ⟨q, hpq, hq⟩ := writes_of_scan? h
  rw [← List.append_cancel_right hpq] at hq
  refine ⟨List.prefix_append p rest, hq, ?_⟩
  rintro q m ⟨u, hu⟩ hq
  obtain ⟨m', rest', hscan, hle⟩ := exists_scan?_append hq u
  rw [hu, h] at hscan
  cases hscan
  have hlength := congrArg List.length hu
  simp only [List.length_append] at hlength
  omega

/-- A numeral is told by the text that writes it. -/
theorem Writes.unique {m : Numeral} (h : Writes p n) (h' : Writes p m) : n = m := by
  have hscan := (scan?_of_writes h).symm.trans (scan?_of_writes h')
  cases hscan
  rfl

/-- The longest numeral is told by the text. -/
theorem IsLongest.unique {q : List Char} {m : Numeral} (h : IsLongest s p n)
    (h' : IsLongest s q m) : p = q ∧ n = m := by
  have hlength : p.length = q.length :=
    Nat.le_antisymm (h'.longest p n h.front h.writes) (h.longest q m h'.front h'.writes)
  have hpq : p = q :=
    (List.prefix_of_prefix_length_le h.front h'.front hlength.le).eq_of_length hlength
  exact ⟨hpq, h.writes.unique (hpq ▸ h'.writes)⟩

/-- Something is scanned whenever a numeral stands at the front. -/
theorem scan?_isSome_iff : (scan? s).isSome ↔ ∃ p n, p <+: s ∧ Writes p n := by
  constructor
  · intro h
    obtain ⟨⟨n, rest⟩, hscan⟩ := Option.isSome_iff_exists.1 h
    obtain ⟨p, rfl, hp⟩ := writes_of_scan? hscan
    exact ⟨p, n, List.prefix_append p rest, hp⟩
  · rintro ⟨p, n, ⟨u, rfl⟩, hp⟩
    obtain ⟨m, rest, hscan, -⟩ := exists_scan?_append hp u
    rw [hscan]
    rfl

theorem exists_scan?_iff : (∃ rest, scan? s = some (n, rest)) ↔ ∃ p, IsLongest s p n := by
  constructor
  · rintro ⟨rest, h⟩
    obtain ⟨p, rfl, -⟩ := writes_of_scan? h
    exact ⟨p, isLongest_of_scan? h⟩
  · rintro ⟨p, hp⟩
    have hsome : (scan? s).isSome := scan?_isSome_iff.2 ⟨p, n, hp.front, hp.writes⟩
    obtain ⟨⟨m, rest⟩, hscan⟩ := Option.isSome_iff_exists.1 hsome
    obtain ⟨q, rfl, -⟩ := writes_of_scan? hscan
    obtain ⟨-, rfl⟩ := hp.unique (isLongest_of_scan? hscan)
    exact ⟨rest, hscan⟩

/-! ## The characters of a numeral -/

/-- All characters of a numeral are single bytes. -/
theorem Writes.isAscii (h : Writes p n) : ∀ c ∈ p, c.toNat < 128 := by
  have hdigit : ∀ {ds : List Char}, (∀ c ∈ ds, c.isDigit) → ∀ c ∈ ds, c.toNat < 128 := by
    intro ds hds c hc
    have hrange := (Text.isDigit_iff c).1 (hds c hc)
    omega
  have hpoint : '.'.toNat < 128 := by decide
  have hmarks : ∀ {sign : List Char} {negative : Bool}, WritesSign sign negative →
      ∀ c ∈ sign, c.toNat < 128 := by
    intro sign negative hsign
    cases hsign <;> simp
  cases h with
  | @parts sign digits power _ _ _ _ hsign hdigits hpower =>
      have hmiddle : ∀ c ∈ digits, c.toNat < 128 := by
        cases hdigits with
        | whole hne hds => exact hdigit hds
        | point hne hds hfs =>
            simp only [List.forall_mem_append, List.forall_mem_cons]
            exact ⟨hdigit hds, hpoint, hdigit hfs⟩
        | fraction hne hfs =>
            rw [List.forall_mem_cons]
            exact ⟨hpoint, hdigit hfs⟩
      have hlast : ∀ c ∈ power, c.toNat < 128 := by
        cases hpower with
        | none => simp
        | some hmark hsign hne hds =>
            simp only [List.forall_mem_append, List.forall_mem_cons]
            refine ⟨?_, hmarks hsign, hdigit hds⟩
            rcases hmark with rfl | rfl <;> decide
      simp only [List.forall_mem_append]
      exact ⟨hmarks hsign, hmiddle, hlast⟩

/-- Digits stand at the end of a text. -/
def EndsWithDigits (s : List Char) : Prop :=
  ∃ front ds, s = front ++ ds ∧ ds ≠ [] ∧ ∀ c ∈ ds, c.isDigit

/-- A numeral ends with digits, or with a point behind a numeral that does. -/
theorem Writes.ends (h : Writes p n) :
    EndsWithDigits p ∨ ∃ q, p = q ++ ['.'] ∧ EndsWithDigits q ∧ Writes q n := by
  cases h with
  | @parts sign digits power whole fraction _ _ hsign hdigits hpower =>
      cases hpower with
      | @some mark sign' ds _ hmark hsign' hne hds =>
          exact .inl ⟨sign ++ (digits ++ mark :: sign'), ds, by simp, hne, hds⟩
      | none =>
          rw [List.append_nil]
          cases hdigits with
          | whole hne hds => exact .inl ⟨sign, _, rfl, hne, hds⟩
          | fraction hne hfs => exact .inl ⟨sign ++ ['.'], fraction, by simp, hne, hfs⟩
          | point hne hds hfs =>
              by_cases hnil : fraction = []
              · subst hnil
                have hfront := Writes.parts hsign (.whole hne hds) .none
                rw [List.append_nil] at hfront
                exact .inr ⟨sign ++ whole, by simp, ⟨sign, whole, rfl, hne, hds⟩, hfront⟩
              · exact .inl ⟨sign ++ whole ++ ['.'], fraction, by simp, hnil, hfs⟩

theorem EndsWithDigits.rdropWhile_point (h : EndsWithDigits s) :
    s.rdropWhile (· = '.') = s := by
  obtain ⟨front, ds, rfl, hne, hds⟩ := h
  refine List.rdropWhile_eq_self_iff.2 fun hne' hpoint => ?_
  have hlast := hds _ (List.getLast_mem hne)
  rw [List.getLast_append_of_ne_nil hne' hne, decide_eq_true_eq] at hpoint
  rw [hpoint] at hlast
  cases hlast

/-- Without the points at its end, a numeral is the same numeral. -/
theorem Writes.rdropWhile_point (h : Writes p n) : Writes (p.rdropWhile (· = '.')) n := by
  rcases h.ends with hends | ⟨q, rfl, hends, hq⟩
  · rwa [hends.rdropWhile_point]
  · rw [List.rdropWhile_concat_pos _ _ _ rfl, hends.rdropWhile_point]
    exact hq

end Numeral

/-! ## The number in front of a text -/

theorem utf8ByteSize_of_isAscii {s : List Char} (h : ∀ c ∈ s, c.toNat < 128) :
    (String.ofList s).utf8ByteSize = s.length := by
  induction s with
  | nil => rfl
  | cons c s ih =>
      rw [List.forall_mem_cons] at h
      have hsize : c.utf8Size = 1 := Char.utf8Size_eq_one_iff.2 (Nat.le_of_lt_succ h.1)
      rw [String.ofList_cons, String.utf8ByteSize_append, String.utf8ByteSize_singleton, hsize,
        ih h.2, List.length_cons, Nat.add_comm]

/-- In the bytes of a text, the place behind single bytes lies between two characters. -/
theorem isValid_of_isAscii {p r : List Char} (h : ∀ c ∈ p, c.toNat < 128) :
    (⟨p.length⟩ : String.Pos.Raw).IsValid (String.ofList (p ++ r)) := by
  refine String.Pos.Raw.isValid_iff_exists_append.2
    ⟨String.ofList p, String.ofList r, String.ofList_append, ?_⟩
  rw [← utf8ByteSize_of_isAscii h]
  rfl

open Numeral

/-- A text begins with the float of the longest numeral behind its leading blanks. -/
theorem leadingFloat?_eq_some_iff {s : List Char} {x : Float} : leadingFloat? s = some x ↔
    ∃ p n, IsLongest (trimStart s) p n ∧ x = n.toFloat := by
  rw [leadingFloat?, Option.map_eq_some_iff]
  constructor
  · rintro ⟨⟨n, rest⟩, hscan, rfl⟩
    obtain ⟨p, hp⟩ := exists_scan?_iff.1 ⟨rest, hscan⟩
    exact ⟨p, n, hp, rfl⟩
  · rintro ⟨p, n, hp, rfl⟩
    obtain ⟨rest, hscan⟩ := exists_scan?_iff.2 ⟨p, hp⟩
    exact ⟨(n, rest), hscan, rfl⟩

/-- A text reads as the longest numeral in front of it, and as no number exactly if no front of it
is a numeral.  The numeral is told by the text, its points at the end play no part in its value, and
it ends between two characters of the text. -/
theorem leadingFloat?_longest (text : String) :
    (leadingFloat? text.toList = none ↔
      ∀ p n, p <+: trimStart text.toList → ¬ Writes p n) ∧
    (∀ x, leadingFloat? text.toList = some x ↔
      ∃ p n, IsLongest (trimStart text.toList) p n ∧ x = n.toFloat) ∧
    ∀ p n, IsLongest (trimStart text.toList) p n →
      p ≠ [] ∧ readFloat? p = some n.toFloat ∧
        readFloat? (p.rdropWhile (· = '.')) = some n.toFloat ∧
        (⟨p.length⟩ : String.Pos.Raw).IsValid (String.ofList (trimStart text.toList)) := by
  refine ⟨?_, fun x => leadingFloat?_eq_some_iff, ?_⟩
  · rw [leadingFloat?, Option.map_eq_none_iff, ← Option.not_isSome_iff_eq_none, scan?_isSome_iff]
    simp only [not_exists, not_and]
  · intro p n h
    refine ⟨?_, readFloat?_of_writes h.writes, readFloat?_of_writes h.writes.rdropWhile_point, ?_⟩
    · rintro rfl
      have hscan := scan?_of_writes h.writes
      cases hscan
    · obtain ⟨r, hr⟩ := h.front
      rw [← hr]
      exact isValid_of_isAscii h.writes.isAscii

/-- Behind a point, an exponent without digits and a letter of two bytes are left. -/
theorem leadingFloat?_longest_point :
    IsLongest "+7.e+é".toList "+7.".toList ⟨false, ['7'], [], 0⟩ ∧
      leadingFloat? "\u00a0+7.e+é".toList = some (toFloat ⟨false, ['7'], [], 0⟩) ∧
      readFloat? "+7".toList = some (toFloat ⟨false, ['7'], [], 0⟩) ∧
      (⟨3⟩ : String.Pos.Raw).IsValid "+7.e+é" := by
  have hscan : scan? ("+7.".toList ++ "e+é".toList) =
      some (⟨false, ['7'], [], 0⟩, "e+é".toList) := by decide
  have hlongest : IsLongest "+7.e+é".toList "+7.".toList ⟨false, ['7'], [], 0⟩ :=
    isLongest_of_scan? hscan
  obtain ⟨-, hsome, hfacts⟩ := leadingFloat?_longest "\u00a0+7.e+é"
  obtain ⟨-, -, hparse, hvalid⟩ := hfacts "+7.".toList _ hlongest
  exact ⟨hlongest, (hsome _).2 ⟨_, _, hlongest, rfl⟩, hparse, hvalid⟩

end AskTables.Decimal
