import AskTables.Proofs.Grammar.Rendering

/-!
# What can still be written

The front of a text is *viable* for a phrase if it can be completed, whatever is written after the
phrase.  `Tries R s a b` says of the attempts `b` that they are the attempts `a`, or were made after
a front of the text `s` that is viable for `R`.  Parts of a phrase are tried one after the other, so
a viable front of a part, after what the parts before it have read, is one of the whole phrase.

Where a part has read nothing yet, a word may stand directly before it.  Its completion must not
run on from that word, which is why `Viable` speaks of the empty front.
-/

namespace AskTables.Grammar

/-! ## Going on with another text -/

/-- Whether a text begins with a word is settled by its first character. -/
theorem startsWord_append {w : List Char} (hw : w ≠ []) (r r' : List Char) :
    StartsWord (w ++ r) ↔ StartsWord (w ++ r') := by
  cases w with
  | nil => exact absurd rfl hw
  | cons c w => simp [StartsWord]

/-- The same tokens are written before any other text, unless a word runs on into it. -/
theorem Writes.follow {ts : List Token} {s r : List Char} (h : Writes ts s r) :
    ∃ w, s = w ++ r ∧ ∀ r', (¬ StartsWord r → ¬ StartsWord r') → Writes ts (w ++ r') r' := by
  induction h with
  | @done g r hg => exact ⟨g, rfl, fun r' _ => .done hg⟩
  | @token t ts g w m r hg hw hm _ ih =>
      obtain ⟨v, rfl, hv⟩ := ih
      refine ⟨g ++ (w ++ v), by simp only [List.append_assoc], ?_⟩
      intro r' hr
      simp only [List.append_assoc]
      refine .token hg hw ?_ (hv r' hr)
      intro ht
      cases v with
      | nil => exact hr (hm ht)
      | cons c v => exact mt (startsWord_append (List.cons_ne_nil c v) r' r).1 (hm ht)

/-! ## Viable fronts -/

/-- A text can go on from `w` such that it writes tokens of some value. -/
def Viable {α : Type} (R : α → List Token → Prop) (w : List Char) : Prop :=
  ∃ c x ts, R x ts ∧ ∀ m, ¬ StartsWord m →
    Writes ts (w ++ c ++ m) m ∧ (w = [] → ¬ StartsWord (c ++ m))

/-- A value with another after it, each with tokens of its own. -/
def Joined {α β : Type} (R : α → List Token → Prop) (R' : β → List Token → Prop) (xy : α × β)
    (ts : List Token) : Prop :=
  ∃ us vs, R xy.1 us ∧ R' xy.2 vs ∧ ts = us ++ vs

section
variable {α β : Type} {R : α → List Token → Prop} {R' : β → List Token → Prop} {w : List Char}

namespace Viable

/-- What can go on to a value can go on to what is made of it. -/
theorem map {S : β → List Token → Prop} {f : α → β} (h : Viable R w)
    (hf : ∀ x ts, R x ts → S (f x) ts) : Viable S w := by
  obtain ⟨c, x, ts, hx, hm⟩ := h
  exact ⟨c, f x, ts, hf x ts hx, hm⟩

theorem gap {g : List Char} (hg : IsGap g) (h : Viable R w) : Viable R (g ++ w) := by
  obtain ⟨c, x, ts, hx, hm⟩ := h
  refine ⟨c, x, ts, hx, fun m hword => ⟨?_, ?_⟩⟩
  · rw [List.append_assoc, List.append_assoc, ← List.append_assoc w]
    exact (hm m hword).1.gap hg
  · intro hnil
    exact (hm m hword).2 (List.append_eq_nil_iff.1 hnil).2

/-- A text that begins with a blank continues no word. -/
theorem not_startsWord_blank (s : List Char) : ¬ StartsWord (' ' :: s) := by
  rintro ⟨c, rest, he, hc⟩
  cases he
  exact absurd hc (by decide)

theorem isGap_blank : IsGap [' '] := by
  intro c hc
  cases List.mem_singleton.1 hc
  decide

/-- A token can be written after a blank. -/
theorem of_token {x : α} {t : Token} (hx : R x [t]) {u : List Char} (hu : t.Spells u) :
    Viable R [] := by
  refine ⟨' ' :: u, x, [t], hx, fun m hm => ⟨?_, fun _ => not_startsWord_blank _⟩⟩
  have htoken : Writes [t] (u ++ m) m := .single hu fun _ => hm
  have hblank : Writes [t] ([' '] ++ (u ++ m)) m := htoken.gap isGap_blank
  exact hblank

/-- To write nothing, only a blank is needed. -/
theorem of_nil {x : α} (hx : R x []) : Viable R [] := by
  refine ⟨[' '], x, [], hx, fun m _ => ⟨?_, fun _ => not_startsWord_blank m⟩⟩
  exact .done isGap_blank

/-- The first part can be completed and the second written after it. -/
theorem before (h : Viable R w) (h' : Viable R' []) : Viable (Joined R R') w := by
  obtain ⟨c, x, us, hx, hc⟩ := h
  obtain ⟨d, y, vs, hy, hd⟩ := h'
  refine ⟨c ++ d, (x, y), us ++ vs, ⟨us, vs, hx, hy, rfl⟩, fun m hm => ?_⟩
  obtain ⟨hvs, hword⟩ := hd m hm
  obtain ⟨hus, hword'⟩ := hc (d ++ m) (hword rfl)
  rw [List.nil_append] at hvs
  simp only [List.append_assoc] at hus ⊢
  exact ⟨hus.append hvs, hword'⟩

/-- After the first part has been written, the second can be completed. -/
theorem after {x : α} {us : List Token} {s z : List Char} (hx : R x us)
    (hw : Writes us s (w ++ z)) (h : Viable R' w) :
    ∃ v, s = v ++ z ∧ Viable (Joined R R') v := by
  obtain ⟨v, rfl, hv⟩ := hw.follow
  obtain ⟨c, y, vs, hy, hc⟩ := h
  refine ⟨v ++ w, by simp, c, (x, y), us ++ vs, ⟨us, vs, hx, hy, rfl⟩, fun m hm => ?_⟩
  obtain ⟨hvs, hword⟩ := hc m hm
  have hus : Writes us (v ++ (w ++ c ++ m)) (w ++ c ++ m) := by
    refine hv _ fun hz => ?_
    by_cases hnil : w = []
    · subst hnil
      exact hword rfl
    · rw [List.append_assoc]
      exact mt (startsWord_append hnil _ z).1 hz
  simp only [List.append_assoc] at hus hvs ⊢
  exact ⟨hus.append hvs, fun he => hword (List.append_eq_nil_iff.1 he).2⟩

end Viable

/-! ## Attempts after viable fronts -/

/-- A phrase that fails leaves the attempts of its parts, or is noted at its own start. -/
theorem Attempts.note_cases (symbol : Symbol) (s : List Char) (a b : Attempts) :
    note symbol s a b = b ∨ (note symbol s a b).symbols ≠ [] ∧ (note symbol s a b).rest = s := by
  simp only [note]
  split
  · exact .inl rfl
  · split
    · exact .inr ⟨by simp, rfl⟩
    · split
      · exact .inr ⟨by simp, rfl⟩
      · exact .inl rfl

/-- The first phrase of all that fails leaves an attempt. -/
theorem Attempts.note_start_ne (symbol : Symbol) (s : List Char) (b : Attempts) :
    note symbol s (start s) b ≠ start s := by
  intro he
  rcases note_cases symbol s (start s) b with hb | ⟨hne, _⟩
  · rw [hb] at he
    subst he
    simp [note, noted, start] at hb
  · rw [he] at hne
    exact hne rfl

/-- The attempts `b` are the attempts `a`, or were made after a viable front of `s`. -/
def Tries (R : α → List Token → Prop) (s : List Char) (a b : Attempts) : Prop :=
  b = a ∨ b.symbols ≠ [] ∧ ∃ w, s = w ++ b.rest ∧ Viable R w

namespace Tries

variable {s : List Char} {a b c : Attempts}

theorem refl (R : α → List Token → Prop) (s : List Char) (a : Attempts) : Tries R s a a := .inl rfl

theorem trans (h : Tries R s a b) (h' : Tries R s b c) : Tries R s a c := by
  rcases h' with rfl | h'
  · exact h
  · exact .inr h'

theorem mono (h : Tries R s a b) (hR : ∀ w, Viable R w → Viable R' w) : Tries R' s a b := by
  rcases h with rfl | ⟨hne, w, hs, hw⟩
  · exact .refl _ _ _
  · exact .inr ⟨hne, w, hs, hR w hw⟩

/-- White space before the attempts makes no difference. -/
theorem of_skipSpace (h : Tries R (skipSpace s) a b) : Tries R s a b := by
  rcases h with rfl | ⟨hne, w, hs, hw⟩
  · exact .refl _ _ _
  · refine .inr ⟨hne, s.takeWhile isSpace ++ w, ?_, hw.gap (isGap_takeWhile s)⟩
    rw [List.append_assoc, ← hs, skipSpace, List.takeWhile_append_dropWhile]

/-- A phrase that can begin anywhere can be noted at its front. -/
theorem note (h : Tries R s a b) (hR : Viable R []) (symbol : Symbol) :
    Tries R s a (.note symbol s a b) := by
  rcases Attempts.note_cases symbol s a b with he | ⟨hne, hs⟩
  · rw [he]
    exact h
  · exact .inr ⟨hne, [], hs.symm, hR⟩

theorem after {x : α} {us : List Token} {r : List Char} (hx : R x us) (hw : Writes us s r)
    (h : Tries R' r a b) : Tries (Joined R R') s a b := by
  rcases h with rfl | ⟨hne, w, rfl, hv⟩
  · exact .refl _ _ _
  · obtain ⟨v, hs, hv⟩ := Viable.after hx hw hv
    exact .inr ⟨hne, v, hs, hv⟩

end Tries

end

end AskTables.Grammar
