import AskTables.Proofs.Pattern.Language

/-!
# A search finds every match

`Pattern.occursIn_iff` says that a search succeeds exactly on the texts that hold one of the texts
of the pattern.

A plan that forks is taken up once at a position, so a survey of it may come out empty, and the
attempts that stand for the plan are among those found earlier, or are found only later.  What can
be said of a survey at any time is that it is *closed*: for each plan it has seen on its own, both
ways of the plan are *resolved*, that is, they lead to attempts and to seen plans that are there.
Closure says nothing about texts, and rounds that read nothing do no harm to it.  That the attempts
cover all texts of the plan follows from closure at the end, by one induction over the steps that
the plan takes on a text.
-/

namespace AskTables

/-! ## Carrying out a plan step by step -/

/-- The plans that a plan can go on with before it reads a character. -/
def Plan.ways : Plan → List Plan
  | [] => []
  | .part _ .empty :: rest => [rest]
  | .part _ (.char _) :: _ => []
  | .part place (.seq p q) :: rest => [.part (2 * place) p :: .part (2 * place + 1) q :: rest]
  | .part place (.alt p q) :: rest =>
    [.part (2 * place) p :: rest, .part (2 * place + 1) q :: rest]
  | .part place (.rep .optional p) :: rest => [.part (2 * place) p :: rest, rest]
  | .part place (.rep .any p) :: rest => [.part (2 * place) p :: .again place p :: rest, rest]
  | .part place (.rep .positive p) :: rest => [.part (2 * place) p :: .again place p :: rest]
  | .part place (.group i p) :: rest => [.part (2 * place) p :: .close i :: rest]
  | .again place p :: rest => [.part (2 * place) p :: .again place p :: rest, rest]
  | .close _ :: rest => [rest]

/-- A plan can be carried out on the front of a text. -/
inductive Plan.Accepts : Plan → List Char → Prop where
  | done {s} : Accepts [] s
  | char {place set rest c s} : set.accepts c → Accepts rest s →
      Accepts (.part place (.char set) :: rest) (c :: s)
  | way {plan w s} : w ∈ Plan.ways plan → Accepts w s → Accepts plan s

/-- An attempt can be completed on the front of a text. -/
inductive Attempt.Accepts : Attempt → List Char → Prop where
  | reading {set plan m c s} : set.accepts c → plan.Accepts s →
      Accepts (.reading set plan m) (c :: s)
  | complete {m s} : Accepts (.complete m) s

namespace Plan

/-- After a round a repetition goes on as if it began. -/
theorem accepts_again {place : Nat} {p : Pattern} {rest : Plan} {s : List Char}
    (h : Accepts (.part place (.rep .any p) :: rest) s) : Accepts (.again place p :: rest) s := by
  cases h with
  | way hw h => exact .way hw h

/-- A text of a pattern can be read, and then what follows it. -/
theorem accepts_of_spells {p : Pattern} {t u : List Char} (h : p.Spells t) (place : Nat)
    {rest : Plan} (hrest : rest.Accepts u) : Accepts (.part place p :: rest) (t ++ u) := by
  induction h generalizing place rest u with
  | empty => exact .way (by simp [ways]) hrest
  | char hc => exact .char hc hrest
  | seq _ _ ihp ihq =>
      rw [List.append_assoc]
      exact .way (List.mem_singleton.2 rfl) (ihp (2 * place) (ihq (2 * place + 1) hrest))
  | first _ ih => exact .way (by simp [ways]) (ih (2 * place) hrest)
  | second _ ih => exact .way (by simp [ways]) (ih (2 * place + 1) hrest)
  | @skip count p hcount =>
      cases count with
      | optional => exact .way (by simp [ways]) hrest
      | any => exact .way (by simp [ways]) hrest
      | positive => exact absurd rfl hcount
  | once _ ih => exact .way (by simp [ways]) (ih (2 * place) hrest)
  | @round count p t u hcount _ _ ihp ihr =>
      rw [List.append_assoc]
      have hagain := ihp (2 * place) (accepts_again (ihr place hrest))
      cases count with
      | optional => exact absurd rfl hcount
      | any => exact .way (by simp [ways]) hagain
      | positive => exact .way (by simp [ways]) hagain
  | @group g p t _ ih =>
      have hclose : Accepts (.close g :: rest) u := .way (List.mem_singleton.2 rfl) hrest
      exact .way (List.mem_singleton.2 rfl) (ih (2 * place) hclose)

/-! ## Closed surveys -/

/-- Following a plan up to the next character or the next fork leads to an attempt or to a seen
plan. -/
inductive Resolved (attempts : List Attempt) (seen : List Plan) : Plan → Prop where
  | done {m} : .complete m ∈ attempts → Resolved attempts seen []
  | char {place set rest m} : .reading set rest m ∈ attempts →
      Resolved attempts seen (.part place (.char set) :: rest)
  | single {plan w} : ways plan = [w] → Resolved attempts seen w → Resolved attempts seen plan
  | fork {plan} : plan ∈ seen → Resolved attempts seen plan

theorem Resolved.mono {as bs : List Attempt} {ps qs : List Plan} {plan : Plan}
    (h : plan.Resolved as ps) (has : as ⊆ bs) (hps : ps ⊆ qs) : plan.Resolved bs qs := by
  induction h with
  | done hm => exact .done (has hm)
  | char hm => exact .char (has hm)
  | single hw _ ih => exact .single hw ih
  | fork hp => exact .fork (hps hp)

end Plan

namespace Survey

/-- What a survey has seen on its own forks in two ways, and both are resolved. -/
structure Closed (seen : List Plan) (v : Survey) : Prop where
  grows : seen ⊆ v.seen
  resolves : ∀ plan ∈ v.seen, plan ∈ seen ∨ ∃ x y, plan.ways = [x, y] ∧
    x.Resolved v.attempts v.seen ∧ y.Resolved v.attempts v.seen

/-- A survey that looks at nothing leaves nothing open. -/
theorem closed_none (seen : List Plan) : (Survey.none seen).Closed seen :=
  ⟨fun _ h => h, fun _ h => .inl h⟩

/-- What an earlier survey has resolved stays so. -/
theorem Closed.andThen {seen : List Plan} {v : Survey} {g : List Plan → Survey}
    (hv : v.Closed seen) (hg : (g v.seen).Closed v.seen) : (v.andThen g).Closed seen := by
  have hleft : v.attempts ⊆ (v.andThen g).attempts := List.subset_append_left _ _
  have hright : (g v.seen).attempts ⊆ (v.andThen g).attempts := List.subset_append_right _ _
  refine ⟨fun _ h => hg.grows (hv.grows h), ?_⟩
  intro plan hplan
  rcases hg.resolves plan hplan with hplan | ⟨x, y, hw, hx, hy⟩
  · rcases hv.resolves plan hplan with hplan | ⟨x, y, hw, hx, hy⟩
    · exact .inl hplan
    · exact .inr ⟨x, y, hw, hx.mono hleft hg.grows, hy.mono hleft hg.grows⟩
  · exact .inr ⟨x, y, hw, hx.mono hright (List.Subset.refl _),
      hy.mono hright (List.Subset.refl _)⟩

/-- A way to take up a plan that resolves it, whatever has been seen besides `base`. -/
def Settles (base : List Plan) (plan : Plan) (f : List Plan → Survey) : Prop :=
  ∀ seen, base ⊆ seen → (f seen).Closed seen ∧ plan.Resolved (f seen).attempts (f seen).seen

theorem Settles.mono {base base' : List Plan} {plan : Plan} {f : List Plan → Survey}
    (h : Settles base plan f) (hb : base ⊆ base') : Settles base' plan f :=
  fun seen hs => h seen fun _ hx => hs (hb hx)

/-- A plan with one way on is settled with it. -/
theorem Settles.single {base : List Plan} {plan w : Plan} {f : List Plan → Survey}
    (h : Settles base w f) (hw : plan.ways = [w]) : Settles base plan f := by
  intro seen hs
  obtain ⟨hclosed, hr⟩ := h seen hs
  exact ⟨hclosed, .single hw hr⟩

/-- A plan that has been seen needs no attempt. -/
theorem settles_none {base : List Plan} {plan : Plan} (h : plan ∈ base) :
    Settles base plan Survey.none :=
  fun seen hs => ⟨closed_none seen, .fork (hs h)⟩

/-- While its two ways are taken up, a plan that forks counts as seen. -/
theorem settles_fork {base : List Plan} {plan x y : Plan} {f g : List Plan → Survey}
    (hw : plan.ways = [x, y]) (hf : Settles (plan :: base) x f) (hg : Settles (plan :: base) y g) :
    Settles base plan (Survey.fork plan f g) := by
  intro seen hs
  by_cases hmem : plan ∈ seen
  · rw [Survey.fork, if_pos hmem]
    exact settles_none (List.mem_cons_self ..) seen (List.cons_subset.2 ⟨hmem, hs⟩)
  · rw [Survey.fork, if_neg hmem]
    have hbase : plan :: base ⊆ plan :: seen := List.cons_subset_cons _ hs
    obtain ⟨hfirst, hx⟩ := hf _ hbase
    obtain ⟨hsecond, hy⟩ := hg _ fun _ h => hfirst.grows (hbase h)
    have hboth := hfirst.andThen hsecond
    have hplan : plan ∈ ((f (plan :: seen)).andThen g).seen :=
      hboth.grows (List.mem_cons_self ..)
    refine ⟨⟨fun _ h => hboth.grows (List.mem_cons_of_mem _ h), ?_⟩, .fork hplan⟩
    intro q hq
    rcases hboth.resolves q hq with hq | hq
    · rcases List.mem_cons.1 hq with rfl | hq
      · exact .inr ⟨x, y, hw, hx.mono (List.subset_append_left _ _) hsecond.grows,
          hy.mono (List.subset_append_right _ _) (List.Subset.refl _)⟩
      · exact .inl hq
    · exact .inr hq

end Survey

open Survey (Settles settles_fork settles_none)

/-! ## Taking up a plan -/

/-- Taking up a pattern resolves the pattern and what follows it. -/
theorem Pattern.survey_settles {position : Nat} (p : Pattern) (place : Nat) {base : List Plan}
    {after : Plan} {next : Marks → List Plan → Survey}
    (hnext : ∀ m, Settles base after (next m)) (m : Marks) :
    Settles base (.part place p :: after) (p.survey position place after next m) := by
  induction p generalizing base place after next m with
  | empty => exact (hnext m).single rfl
  | char set =>
      intro seen _
      exact ⟨⟨fun _ h => h, fun _ h => .inl h⟩, .char (List.mem_singleton.2 rfl)⟩
  | seq p q ihp ihq => exact (ihp _ (fun m => ihq _ hnext m) m).single rfl
  | alt p q ihp ihq =>
      have hnext' := fun m => (hnext m).mono
        (List.subset_cons_self (.part place (.alt p q) :: after) base)
      exact settles_fork rfl (ihp _ hnext' m) (ihq _ hnext' m)
  | rep count p ih =>
      -- Once it is being repeated, a round that reads nothing ends at a plan that has been seen.
      have hagain : ∀ {base}, (∀ m, Settles base after (next m)) → ∀ m,
          Settles base (.again place p :: after) (Survey.fork (.again place p :: after)
            (p.survey position (2 * place) (.again place p :: after) (fun _ => Survey.none) m)
              (next m)) := by
        intro base hnext m
        exact settles_fork rfl (ih _ (fun _ => settles_none (List.mem_cons_self ..)) m)
          ((hnext m).mono (List.subset_cons_self _ _))
      have hnext' := fun m => (hnext m).mono
        (List.subset_cons_self (.part place (.rep count p) :: after) base)
      cases count with
      | optional => exact settles_fork rfl (ih _ hnext' m) (hnext' m)
      | any => exact settles_fork rfl (ih _ (hagain hnext') m) (hnext' m)
      | positive => exact (ih _ (hagain hnext) m).single rfl
  | group i p ih => exact (ih _ (fun m => (hnext _).single rfl) _).single rfl

/-- Every survey settles its plan. -/
theorem Plan.survey_settles (position : Nat) (plan : Plan) (base : List Plan) (m : Marks) :
    Settles base plan (plan.survey position m) := by
  induction plan generalizing base m with
  | nil =>
      intro seen _
      exact ⟨⟨fun _ h => h, fun _ h => .inl h⟩, .done (List.mem_singleton.2 rfl)⟩
  | cons step rest ih =>
      cases step with
      | part place p => exact p.survey_settles place (ih base) m
      | again place p =>
          exact settles_fork rfl
            (p.survey_settles _ (fun _ => settles_none (List.mem_cons_self ..)) m) (ih _ m)
      | close i => exact (ih base _).single rfl

/-- After a character, every attempt that could read it has its plan resolved. -/
theorem Attempt.advance_resolves (position : Nat) (c : Char) (as : List Attempt)
    (seen : List Plan) : (advance position c as seen).Closed seen ∧
      ∀ set plan m, .reading set plan m ∈ as → set.accepts c →
        plan.Resolved (advance position c as seen).attempts (advance position c as seen).seen := by
  induction as generalizing seen with
  | nil => exact ⟨Survey.closed_none seen, fun _ _ _ h => by cases h⟩
  | cons a as ih =>
      cases a with
      | complete m =>
          refine ⟨(ih seen).1, ?_⟩
          intro set plan m' hmem hset
          exact (ih seen).2 set plan m' (by simpa using hmem) hset
      | reading set plan m =>
          simp only [advance]
          split
          · obtain ⟨hclosed, hplan⟩ := plan.survey_settles position [] m seen (by simp)
            obtain ⟨hrest, hresolved⟩ := ih (plan.survey position m seen).seen
            refine ⟨hclosed.andThen hrest, ?_⟩
            intro set' plan' m' hmem hset'
            rcases List.mem_cons.1 hmem with he | hmem
            · cases he
              exact hplan.mono (List.subset_append_left _ _) hrest.grows
            · exact (hresolved set' plan' m' hmem hset').mono (List.subset_append_right _ _)
                (List.Subset.refl _)
          · rename_i hset
            refine ⟨(ih seen).1, ?_⟩
            intro set' plan' m' hmem hset'
            rcases List.mem_cons.1 hmem with he | hmem
            · cases he
              exact absurd hset' hset
            · exact (ih seen).2 set' plan' m' hmem hset'

/-- In a closed survey the attempts cover every resolved plan. -/
theorem Survey.Closed.exists_accepts {v : Survey} (hv : v.Closed []) {plan : Plan} {s : List Char}
    (h : plan.Accepts s) (hr : plan.Resolved v.attempts v.seen) :
    ∃ a ∈ v.attempts, a.Accepts s := by
  -- A seen plan is no dead end, since both its ways are resolved.
  have hfork : ∀ {q}, q ∈ v.seen → ∃ x y, Plan.ways q = [x, y] ∧
      x.Resolved v.attempts v.seen ∧ y.Resolved v.attempts v.seen := by
    intro q hq
    rcases hv.resolves q hq with hq | hq
    · cases hq
    · exact hq
  induction h with
  | done =>
      cases hr with
      | done hm => exact ⟨_, hm, .complete⟩
      | single hw _ => cases hw
      | fork hq =>
          obtain ⟨x, y, hw, _⟩ := hfork hq
          cases hw
  | char hset hrest _ =>
      cases hr with
      | char hm => exact ⟨_, hm, .reading hset hrest⟩
      | single hw _ => cases hw
      | fork hq =>
          obtain ⟨x, y, hw, _⟩ := hfork hq
          cases hw
  | way hmem _ ih =>
      cases hr with
      | done _ => cases hmem
      | char _ => cases hmem
      | single hw hr =>
          rw [hw, List.mem_singleton] at hmem
          exact ih (hmem ▸ hr)
      | fork hq =>
          obtain ⟨x, y, hw, hx, hy⟩ := hfork hq
          rw [hw] at hmem
          rcases List.mem_cons.1 hmem with rfl | hmem
          · exact ih hx
          · exact ih (List.mem_singleton.1 hmem ▸ hy)

/-! ## The search -/

namespace Pattern

variable {p : Pattern}

/-- What has been found is kept. -/
theorem searchFrom_isSome (position : Nat) (v : Survey) (m : Marks) (s : List Char) :
    (p.searchFrom position v (some m) s).isSome := by
  induction s generalizing position v m with
  | nil => simp [searchFrom]
  | cons c s ih =>
      rw [searchFrom]
      cases h : ((p.attemptsAt position (some m) v).findSome? Attempt.complete?).or (some m) with
      | none => simp at h
      | some m' => exact ih _ _ _

/-- As long as nothing has been found, no attempt is complete. -/
theorem takeWhile_isReading {as : List Attempt} (h : as.findSome? Attempt.complete? = none) :
    as.takeWhile Attempt.isReading = as := by
  induction as with
  | nil => rfl
  | cons a as ih =>
      cases a with
      | reading set plan m => exact congrArg _ (ih h)
      | complete m => cases h

/-- At a position stand the attempts that reach it and those that begin there. -/
theorem exists_accepts_attemptsAt (position : Nat) {v : Survey} (hv : v.Closed []) {s : List Char}
    (h : (∃ a ∈ v.attempts, a.Accepts s) ∨ Plan.Accepts [.part 1 p] s) :
    ∃ a ∈ p.attemptsAt position none v, a.Accepts s := by
  obtain ⟨hnew, hplan⟩ := Plan.survey_settles position [.part 1 p] [] [] v.seen (by simp)
  rcases h with ⟨a, ha, hacc⟩ | hacc
  · exact ⟨a, List.mem_append_left _ ha, hacc⟩
  · exact (hv.andThen hnew).exists_accepts hacc
      (hplan.mono (List.subset_append_right _ _) (List.Subset.refl _))

/-- A search succeeds if one of its attempts can be completed, or one that begins later. -/
theorem searchFrom_isSome_of_accepts {s : List Char} {position : Nat} {v : Survey}
    (hv : v.Closed []) (h : (∃ a ∈ v.attempts, a.Accepts s) ∨
      ∃ front rest, s = front ++ rest ∧ Plan.Accepts [.part 1 p] rest) :
    (p.searchFrom position v none s).isSome := by
  induction s generalizing position v with
  | nil =>
      have hhere : (∃ a ∈ v.attempts, a.Accepts []) ∨ Plan.Accepts [.part 1 p] [] := by
        refine h.imp_right ?_
        rintro ⟨front, rest, he, hacc⟩
        exact (List.nil_eq_append_iff.1 he).2 ▸ hacc
      obtain ⟨a, ha, hacc⟩ := exists_accepts_attemptsAt position hv hhere
      rw [searchFrom, Option.or_none, List.findSome?_isSome_iff]
      refine ⟨a, ha, ?_⟩
      cases hacc with
      | complete => rfl
  | cons c s ih =>
      rw [searchFrom, Option.or_none]
      cases hfound : (p.attemptsAt position none v).findSome? Attempt.complete? with
      | some m => exact searchFrom_isSome _ _ m s
      | none =>
          rw [takeWhile_isReading hfound]
          obtain ⟨hadvance, hresolved⟩ :=
            Attempt.advance_resolves (position + 1) c (p.attemptsAt position none v) []
          -- An attempt that can be completed here reads the character, since none is complete.
          have hread : (∃ a ∈ p.attemptsAt position none v, a.Accepts (c :: s)) →
              ∃ a ∈ (Attempt.advance (position + 1) c (p.attemptsAt position none v)
                []).attempts, a.Accepts s := by
            rintro ⟨a, ha, hacc⟩
            cases hacc with
            | reading hset hplan => exact hadvance.exists_accepts hplan (hresolved _ _ _ ha hset)
            | complete => cases List.findSome?_eq_none_iff.1 hfound _ ha
          refine ih hadvance ?_
          rcases h with h | ⟨front, rest, he, hacc⟩
          · exact .inl (hread (exists_accepts_attemptsAt position hv (.inl h)))
          · cases front with
            | nil =>
                cases he
                exact .inl (hread (exists_accepts_attemptsAt position hv (.inr hacc)))
            | cons d front =>
                cases he
                exact .inr ⟨front, rest, rfl, hacc⟩

/-- A pattern occurs in the texts that hold one of its texts, and in no others. -/
theorem occursIn_iff (p : Pattern) (s : List Char) :
    p.occursIn s = true ↔ ∃ t, p.Spells t ∧ t <:+: s := by
  constructor
  · intro h
    obtain ⟨m, hm⟩ := Option.isSome_iff_exists.1 h
    obtain ⟨start, j, hmatch⟩ := matches_of_search? hm
    obtain ⟨t, ht, _, hst⟩ := hmatch.exists_spells
    exact ⟨t, ht, s.take start, s.drop j, by rw [List.append_assoc, ← hst, List.take_append_drop]⟩
  · rintro ⟨t, ht, front, rest, rfl⟩
    refine searchFrom_isSome_of_accepts (Survey.closed_none []) (.inr ⟨front, t ++ rest, ?_, ?_⟩)
    · rw [List.append_assoc]
    · exact Plan.accepts_of_spells ht 1 .done

/-- A pattern that occurs in a text occurs in every text around it. -/
theorem occursIn_of_infix {s t : List Char} (h : p.occursIn s = true) (hst : s <:+: t) :
    p.occursIn t = true := by
  obtain ⟨u, hu, hsub⟩ := (occursIn_iff p s).1 h
  exact (occursIn_iff p t).2 ⟨u, hu, hsub.trans hst⟩

end Pattern

end AskTables
