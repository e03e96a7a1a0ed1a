import AskTables.Proofs.Pattern.Language

/-!
# What a group captures

A group captures a text that its body describes.  A group that every way through the pattern passes
captures one in every match, and any other group may also capture nothing.

The newest marks of a group decide what it has captured.  A match that passes the group puts marks
in front that stand around a text of the body, and a match that does not pass it leaves the newest
marks as they are.  For this the groups of a pattern must bear different numbers.
-/

namespace AskTables

namespace Pattern

/-- The numbers of the groups in a pattern. -/
def groups : Pattern → List Nat
  | .empty | .char _ => []
  | .seq p q | .alt p q => p.groups ++ q.groups
  | .rep _ p => p.groups
  | .group g p => g :: p.groups

/-- The bodies of the groups with a given number. -/
def bodies (g : Nat) : Pattern → List Pattern
  | .empty | .char _ => []
  | .seq p q | .alt p q => p.bodies g ++ q.bodies g
  | .rep _ p => p.bodies g
  | .group h p => if h = g then [p] else p.bodies g

/-- Whether every match passes the group with a given number. -/
def requires (g : Nat) : Pattern → Bool
  | .empty | .char _ => false
  | .seq p q => p.requires g || q.requires g
  | .alt p q => p.requires g && q.requires g
  | .rep .positive p => p.requires g
  | .rep _ _ => false
  | .group h p => h = g || p.requires g

/-- A group that is not in a pattern captures nothing in it. -/
theorem bodies_eq_nil {g : Nat} {p : Pattern} (h : g ∉ p.groups) : p.bodies g = [] := by
  induction p with
  | empty => rfl
  | char _ => rfl
  | seq p q ihp ihq | alt p q ihp ihq =>
      simp only [groups, List.mem_append, not_or] at h
      rw [bodies, ihp h.1, ihq h.2, List.append_nil]
  | rep _ p ih => exact ih h
  | group i p ih =>
      simp only [groups, List.mem_cons, not_or] at h
      rw [bodies, if_neg (Ne.symm h.1), ih h.2]

end Pattern

namespace Marks

theorem position?_cons_self (g : Nat) (e : Edge) (i : Nat) (m : Marks) :
    Marks.position? (⟨g, e, i⟩ :: m) g e = some i := by
  simp [position?]

/-- A mark of another group or edge is looked past. -/
theorem position?_cons_of_ne {g h : Nat} {e e' : Edge} (hne : ¬ (h = g ∧ e' = e)) (i : Nat)
    (m : Marks) : Marks.position? (⟨h, e', i⟩ :: m) g e = m.position? g e := by
  simp [position?, hne]

/-- The newest marks of a group in `m'` are those in `m`. -/
def Keeps (g : Nat) (m m' : Marks) : Prop := ∀ e, m'.position? g e = m.position? g e

/-- The newest marks of a group stand around a text that a pattern describes. -/
def Captures (s : List Char) (m : Marks) (g : Nat) (b : Pattern) : Prop :=
  ∃ i j t, m.position? g .opening = some i ∧ m.position? g .closing = some j ∧
    Pattern.StandsAt s i t j ∧ b.Spells t

/-- A capture stays as long as the marks of its group do. -/
theorem Captures.of_keeps {s : List Char} {m m' : Marks} {g : Nat} {b : Pattern}
    (h : m.Captures s g b) (hk : Keeps g m m') : m'.Captures s g b := by
  obtain ⟨i, j, t, hi, hj, h⟩ := h
  exact ⟨i, j, t, (hk .opening).trans hi, (hk .closing).trans hj, h⟩

/-- A captured text is what the group gives. -/
theorem Captures.spells {s : List Char} {m : Marks} {g : Nat} {b : Pattern}
    (h : m.Captures s g b) : b.Spells (m.textOf s g).toList := by
  obtain ⟨i, j, t, hi, hj, hst, hb⟩ := h
  rw [textOf, hi, hj]
  simp only [hst.eq_take, String.toList_ofList]
  exact hb

end Marks

namespace Pattern

open Marks (Keeps position?_cons_self position?_cons_of_ne)

/-- A match passes a group, and then the group has captured a text of its body, or it does not pass
it, and then the marks of the group stay. -/
theorem Matches.keeps_or_captures {s : List Char} {p : Pattern} {i j : Nat} {m m' : Marks} {g : Nat}
    (h : p.Matches s i m j m') (hd : p.groups.Nodup) :
    (p.requires g = false ∧ Keeps g m m') ∨ ∃ b ∈ p.bodies g, m'.Captures s g b := by
  induction h with
  | empty => exact .inl ⟨rfl, fun _ => rfl⟩
  | char _ _ => exact .inl ⟨rfl, fun _ => rfl⟩
  | seq _ _ ihp ihq =>
      obtain ⟨hp, hq, _⟩ := List.nodup_append.1 hd
      rcases ihq hq with ⟨hrq, hkq⟩ | ⟨b, hb, hc⟩
      · rcases ihp hp with ⟨hrp, hkp⟩ | ⟨b, hb, hc⟩
        · exact .inl ⟨by simp [requires, hrp, hrq], fun e => (hkq e).trans (hkp e)⟩
        · exact .inr ⟨b, List.mem_append_left _ hb, hc.of_keeps hkq⟩
      · exact .inr ⟨b, List.mem_append_right _ hb, hc⟩
  | first _ ih =>
      rcases ih (List.nodup_append.1 hd).1 with ⟨hr, hk⟩ | ⟨b, hb, hc⟩
      · exact .inl ⟨by simp [requires, hr], hk⟩
      · exact .inr ⟨b, List.mem_append_left _ hb, hc⟩
  | second _ ih =>
      rcases ih (List.nodup_append.1 hd).2.1 with ⟨hr, hk⟩ | ⟨b, hb, hc⟩
      · exact .inl ⟨by simp [requires, hr], hk⟩
      · exact .inr ⟨b, List.mem_append_right _ hb, hc⟩
  | @skip count p _ _ hne =>
      refine .inl ⟨?_, fun _ => rfl⟩
      cases count with
      | positive => exact absurd rfl hne
      | optional => rfl
      | any => rfl
  | once _ ih =>
      rcases ih hd with ⟨_, hk⟩ | h
      · exact .inl ⟨rfl, hk⟩
      · exact .inr h
  | @round count _ _ _ _ _ _ _ hne _ _ ihp ihr =>
      rcases ihr hd with ⟨_, hkr⟩ | h
      · rcases ihp hd with ⟨hrp, hkp⟩ | ⟨b, hb, hc⟩
        · refine .inl ⟨?_, fun e => (hkr e).trans (hkp e)⟩
          cases count with
          | positive => exact hrp
          | optional => rfl
          | any => rfl
        · exact .inr ⟨b, hb, hc.of_keeps hkr⟩
      · exact .inr h
  | @group h p i m j m' hp ih =>
      obtain ⟨hnot, hd⟩ := List.nodup_cons.1 hd
      by_cases hg : h = g
      · -- The body does not pass the group again, so the mark at its beginning is the newest.
        subst hg
        have hkeep : Keeps h (⟨h, .opening, i⟩ :: m) m' := by
          rcases ih hd with ⟨_, hk⟩ | ⟨b, hb, _⟩
          · exact hk
          · rw [bodies_eq_nil hnot] at hb
            cases hb
        obtain ⟨t, ht, hst⟩ := hp.exists_spells
        refine .inr ⟨p, by simp [bodies], i, j, t, ?_, position?_cons_self .., hst, ht⟩
        rw [position?_cons_of_ne (by simp), hkeep, position?_cons_self]
      · have hother : ∀ (e : Edge) (k : Nat) (n : Marks), Keeps g n (⟨h, e, k⟩ :: n) :=
          fun e k n e' => position?_cons_of_ne (fun hh => hg hh.1) k n
        rcases ih hd with ⟨hr, hk⟩ | ⟨b, hb, hc⟩
        · refine .inl ⟨by simp [requires, hg, hr], fun e => ?_⟩
          rw [hother, hk, hother]
        · exact .inr ⟨b, by simp [bodies, hg, hb], hc.of_keeps (hother .closing j m')⟩

/-- What a group gives after a search is a text of its body.  It is empty only if the group may be
left out. -/
theorem textOf_of_search? {p : Pattern} {s : List Char} {m : Marks} (h : p.search? s = some m)
    (hd : p.groups.Nodup) (g : Nat) : (p.requires g = false ∧ m.textOf s g = "") ∨
      ∃ b ∈ p.bodies g, b.Spells (m.textOf s g).toList := by
  obtain ⟨start, j, hm⟩ := matches_of_search? h
  rcases hm.keeps_or_captures hd (g := g) with ⟨hr, hk⟩ | ⟨b, hb, hc⟩
  · have hopen : m.position? g .opening = none := hk .opening
    exact .inl ⟨hr, by simp [Marks.textOf, hopen]⟩
  · exact .inr ⟨b, hb, hc.spells⟩

end Pattern

end AskTables
