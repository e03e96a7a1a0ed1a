import AskTables.Service.Metrics

/-!
# What the counters say

The counters *tally* a list of outcomes if they say how often each outcome stands in it: an outcome
has a counter exactly if it has come up, and then one counter, in the order of the outcomes.
Counting one more outcome keeps this, so the counters of a run tally all its outcomes.
-/

namespace AskTables

namespace Metrics

/-- Each counter comes before the ones after it. -/
def Sorted (cs : List Counter) : Prop :=
  cs.Pairwise fun c d => compare c.outcome d.outcome = .lt

/-- The counters say how often each outcome stands in a list. -/
structure Tallies (m : Metrics) (os : List String) : Prop where
  sorted : Sorted m.counters
  mem : ∀ c, c ∈ m.counters ↔ 0 < c.count ∧ c.count = os.count c.outcome
  total : m.total = os.length

theorem count_nil (o : String) : count ⟨[]⟩ o = 0 := rfl

theorem count_cons_self (c : Counter) (cs : List Counter) :
    count ⟨c :: cs⟩ c.outcome = c.count := by
  simp [count]

theorem count_cons_of_ne {c : Counter} {o : String} (h : c.outcome ≠ o) (cs : List Counter) :
    count ⟨c :: cs⟩ o = count ⟨cs⟩ o := by
  simp [count, h]

/-- An outcome without a counter has not come up. -/
theorem count_eq_zero {cs : List Counter} {o : String} (h : ∀ c ∈ cs, c.outcome ≠ o) :
    count ⟨cs⟩ o = 0 := by
  induction cs with
  | nil => rfl
  | cons c cs ih =>
      rw [count_cons_of_ne (h c (by simp))]
      exact ih fun d hd => h d (by simp [hd])

theorem ne_of_lt {o p : String} (h : compare o p = .lt) : p ≠ o := by
  rintro rfl
  rw [Std.ReflOrd.compare_self] at h
  cases h

/-- Counting an outcome replaces its counter and leaves the others. -/
theorem mem_bump {o : String} {cs : List Counter} (hs : Sorted cs) (d : Counter) :
    d ∈ bump o cs ↔ (d ∈ cs ∧ d.outcome ≠ o) ∨ d = ⟨o, count ⟨cs⟩ o + 1⟩ := by
  induction cs with
  | nil => simp [bump, count_nil]
  | cons c cs ih =>
      obtain ⟨hc, hcs⟩ := List.pairwise_cons.1 hs
      cases hcmp : compare o c.outcome with
      | lt =>
          have hne : ∀ d ∈ c :: cs, d.outcome ≠ o := by
            intro d hd
            rcases List.mem_cons.1 hd with rfl | hd
            · exact ne_of_lt hcmp
            · exact ne_of_lt (Std.TransCmp.lt_trans hcmp (hc d hd))
          rw [bump, hcmp, count_eq_zero hne, List.mem_cons]
          constructor
          · rintro (h | h)
            · exact .inr h
            · exact .inl ⟨h, hne d h⟩
          · rintro (⟨h, _⟩ | h)
            · exact .inr h
            · exact .inl h
      | eq =>
          obtain rfl := Std.LawfulEqOrd.compare_eq_iff_eq.1 hcmp
          rw [bump, hcmp, count_cons_self, List.mem_cons, List.mem_cons]
          constructor
          · rintro (h | h)
            · exact .inr h
            · exact .inl ⟨.inr h, ne_of_lt (hc d h)⟩
          · rintro (⟨rfl | h, hne⟩ | h)
            · exact absurd rfl hne
            · exact .inr h
            · exact .inl h
      | gt =>
          have hne : c.outcome ≠ o := fun he => ne_of_lt (Std.OrientedCmp.gt_iff_lt.1 hcmp) he.symm
          rw [bump, hcmp, count_cons_of_ne hne, List.mem_cons, List.mem_cons, ih hcs]
          constructor
          · rintro (rfl | ⟨h, hd⟩ | h)
            · exact .inl ⟨.inl rfl, hne⟩
            · exact .inl ⟨.inr h, hd⟩
            · exact .inr h
          · rintro (⟨h | h, hd⟩ | h)
            · exact .inl h
            · exact .inr (.inl ⟨h, hd⟩)
            · exact .inr (.inr h)

theorem sorted_bump {o : String} {cs : List Counter} (hs : Sorted cs) : Sorted (bump o cs) := by
  induction cs with
  | nil => exact List.pairwise_singleton _ _
  | cons c cs ih =>
      obtain ⟨hc, hcs⟩ := List.pairwise_cons.1 hs
      cases hcmp : compare o c.outcome with
      | lt =>
          rw [bump, hcmp]
          refine List.pairwise_cons.2 ⟨?_, hs⟩
          intro d hd
          rcases List.mem_cons.1 hd with rfl | hd
          · exact hcmp
          · exact Std.TransCmp.lt_trans hcmp (hc d hd)
      | eq =>
          obtain rfl := Std.LawfulEqOrd.compare_eq_iff_eq.1 hcmp
          rw [bump, hcmp]
          exact List.pairwise_cons.2 ⟨hc, hcs⟩
      | gt =>
          rw [bump, hcmp]
          refine List.pairwise_cons.2 ⟨?_, ih hcs⟩
          intro d hd
          rcases (mem_bump hcs d).1 hd with ⟨hd, _⟩ | rfl
          · exact hc d hd
          · exact Std.OrientedCmp.gt_iff_lt.1 hcmp

theorem total_bump (o : String) (cs : List Counter) : total ⟨bump o cs⟩ = total ⟨cs⟩ + 1 := by
  induction cs with
  | nil => rfl
  | cons c cs ih =>
      simp only [total] at ih ⊢
      cases hcmp : compare o c.outcome with
      | lt =>
          rw [bump, hcmp]
          simp [Nat.add_comm]
      | eq =>
          rw [bump, hcmp]
          simp only [List.map_cons, List.foldr_cons]
          omega
      | gt =>
          rw [bump, hcmp]
          simp only [List.map_cons, List.foldr_cons, ih]
          omega

/-- The count of an outcome is its number in the list. -/
theorem Tallies.count_eq {m : Metrics} {os : List String} (h : m.Tallies os) (o : String) :
    m.count o = os.count o := by
  unfold count
  split
  · rename_i c hc
    have ho : c.outcome = o := by simpa using List.find?_some hc
    have hmem := (h.mem c).1 (List.mem_of_find?_eq_some hc)
    rw [hmem.2, ho]
  · rename_i hnone
    refine (Nat.eq_zero_of_not_pos fun hpos => ?_).symm
    have hmem := (h.mem ⟨o, os.count o⟩).2 ⟨hpos, rfl⟩
    simpa using List.find?_eq_none.1 hnone _ hmem

/-- Counting an outcome tallies it as well. -/
theorem Tallies.record {m : Metrics} {os : List String} (h : m.Tallies os) (o : String) :
    (m.record o).Tallies (o :: os) where
  sorted := sorted_bump h.sorted
  mem c := by
    have hcount : count ⟨m.counters⟩ o = os.count o := h.count_eq o
    rw [Metrics.record, mem_bump h.sorted, hcount, h.mem]
    by_cases ho : c.outcome = o
    · subst ho
      obtain ⟨outcome, n⟩ := c
      simp only [ne_eq, not_true_eq_false, and_false, false_or, List.count_cons_self,
        Counter.mk.injEq, true_and]
      omega
    · rw [List.count_cons_of_ne (Ne.symm ho)]
      constructor
      · rintro (⟨hc, _⟩ | rfl)
        · exact hc
        · exact absurd rfl ho
      · exact fun hc => .inl ⟨hc, ho⟩
  total := by
    have htotal := total_bump o m.counters
    have hm : Metrics.total ⟨m.counters⟩ = os.length := h.total
    rw [Metrics.record, htotal, hm]
    rfl

end Metrics

end AskTables
