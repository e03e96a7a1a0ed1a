import AskTables.Pattern.Search

/-!
# What a search finds is a match

`Pattern.Matches s p i m j m'` says when a pattern matches the characters of a text from position
`i` up to position `j`, and how it adds to the marks: by the structure of the pattern alone, without
plans, preferences or places.  `matches_of_search?` says that the marks a search gives are those of
some match.

The search holds a list of attempts.  An attempt is *sound* if every way to complete it completes a
match of the whole pattern.  Taking up a plan gives attempts that complete that plan, whatever has
been seen before: plans that were seen only take attempts away.  So every attempt stays sound from
one position to the next.
-/

namespace AskTables

/-! ## Matches -/

/-- The pattern matches the text from position `i` to position `j`.  The marks on the way are put in
front of those there were. -/
inductive Pattern.Matches (s : List Char) : Pattern → Nat → Marks → Nat → Marks → Prop where
  | empty {i m} : Matches s .empty i m i m
  | char {set c i m} : s[i]? = some c → set.accepts c → Matches s (.char set) i m (i + 1) m
  | seq {p q i m j m' k m''} : Matches s p i m j m' → Matches s q j m' k m'' →
      Matches s (.seq p q) i m k m''
  | first {p q i m j m'} : Matches s p i m j m' → Matches s (.alt p q) i m j m'
  | second {p q i m j m'} : Matches s q i m j m' → Matches s (.alt p q) i m j m'
  | skip {count p i m} : count ≠ .positive → Matches s (.rep count p) i m i m
  | once {p i m j m'} : Matches s p i m j m' → Matches s (.rep .optional p) i m j m'
  | round {count p i m j m' k m''} : count ≠ .optional → Matches s p i m j m' →
      Matches s (.rep .any p) j m' k m'' → Matches s (.rep count p) i m k m''
  | group {g p i m j m'} : Matches s p i (⟨g, .opening, i⟩ :: m) j m' →
      Matches s (.group g p) i m j (⟨g, .closing, j⟩ :: m')

/-- A plan is carried out from position `i` to position `j`. -/
def Plan.Carries (s : List Char) : Plan → Nat → Marks → Nat → Marks → Prop
  | [], i, m, j, m' => j = i ∧ m' = m
  | .part _ p :: rest, i, m, j, m' =>
    ∃ k n, p.Matches s i m k n ∧ Plan.Carries s rest k n j m'
  | .again _ p :: rest, i, m, j, m' =>
    ∃ k n, (Pattern.rep .any p).Matches s i m k n ∧ Plan.Carries s rest k n j m'
  | .close g :: rest, i, m, j, m' => Plan.Carries s rest i (⟨g, .closing, i⟩ :: m) j m'

/-- An attempt at position `i` is completed at position `j`. -/
def Attempt.Completes (s : List Char) (i : Nat) : Attempt → Nat → Marks → Prop
  | .reading set plan m, j, m' =>
    ∃ c, s[i]? = some c ∧ set.accepts c ∧ plan.Carries s (i + 1) m j m'
  | .complete m, j, m' => j = i ∧ m' = m

/-! ## Taking up a plan -/

/-- A way to take up a plan that gives only attempts at that plan. -/
def Survey.Sound (s : List Char) (i : Nat) (plan : Plan) (f : Marks → List Plan → Survey) : Prop :=
  ∀ m seen, ∀ a ∈ (f m seen).attempts, ∀ j m', a.Completes s i j m' → plan.Carries s i m j m'

namespace Survey

theorem mem_andThen {first : Survey} {second : List Plan → Survey} {a : Attempt}
    (h : a ∈ (first.andThen second).attempts) :
    a ∈ first.attempts ∨ a ∈ (second first.seen).attempts :=
  List.mem_append.1 h

/-- What a fork gives comes from one of its two ways. -/
theorem mem_fork {plan : Plan} {first second : List Plan → Survey} {seen : List Plan} {a : Attempt}
    (h : a ∈ (fork plan first second seen).attempts) :
    (∃ seen', a ∈ (first seen').attempts) ∨ ∃ seen', a ∈ (second seen').attempts := by
  unfold fork at h
  split at h
  · cases h
  · rcases mem_andThen h with h | h
    · exact .inl ⟨_, h⟩
    · exact .inr ⟨_, h⟩

variable {s : List Char} {i : Nat} {plan first second : Plan}
  {f g : Marks → List Plan → Survey}

theorem sound_none : Sound s i plan fun _ => Survey.none := by
  intro m seen a ha
  cases ha

/-- A survey that is sound for a plan is sound for any plan that carries what it does. -/
theorem Sound.imp (hf : Sound s i first f)
    (h : ∀ m j m', first.Carries s i m j m' → plan.Carries s i m j m') : Sound s i plan f :=
  fun m seen a ha j m' hc => h m j m' (hf m seen a ha j m' hc)

theorem Sound.fork (hf : Sound s i plan f) (hg : Sound s i plan g) (key : Plan) :
    Sound s i plan fun m => Survey.fork key (f m) (g m) := by
  intro m seen a ha j m' hc
  rcases mem_fork ha with ⟨seen', ha⟩ | ⟨seen', ha⟩
  · exact hf m seen' a ha j m' hc
  · exact hg m seen' a ha j m' hc

end Survey

/-- Taking up a pattern gives attempts at the pattern and what follows it. -/
theorem Pattern.survey_sound {s : List Char} {i : Nat} (p : Pattern) (place : Nat) (after : Plan)
    {next : Marks → List Plan → Survey} (hnext : Survey.Sound s i after next) :
    Survey.Sound s i (.part place p :: after) (p.survey i place after next) := by
  induction p generalizing place after next with
  | empty => exact hnext.imp fun m j m' h => ⟨i, m, .empty, h⟩
  | char set =>
      intro m seen a ha j m' hc
      cases List.mem_singleton.1 ha
      obtain ⟨c, hs, hset, hc⟩ := hc
      exact ⟨i + 1, m, .char hs hset, hc⟩
  | seq p q ihp ihq =>
      refine (ihp (2 * place) _ (ihq (2 * place + 1) after hnext)).imp ?_
      rintro m j m' ⟨k, n, hp, l, n', hq, hc⟩
      exact ⟨l, n', .seq hp hq, hc⟩
  | alt p q ihp ihq =>
      refine Survey.Sound.fork ((ihp (2 * place) after hnext).imp ?_)
        ((ihq (2 * place + 1) after hnext).imp ?_) _
      · rintro m j m' ⟨k, n, hp, hc⟩
        exact ⟨k, n, .first hp, hc⟩
      · rintro m j m' ⟨k, n, hq, hc⟩
        exact ⟨k, n, .second hq, hc⟩
  | rep count p ih =>
      -- Another round, for which it makes no difference what was read before.
      have hround : ∀ {next}, Survey.Sound s i (.again place p :: after) next →
          Survey.Sound s i (.again place p :: after)
            (p.survey i (2 * place) (.again place p :: after) next) := by
        intro next h
        refine (ih (2 * place) _ h).imp ?_
        rintro m j m' ⟨k, n, hp, l, n', hr, hc⟩
        exact ⟨l, n', .round (by decide) hp hr, hc⟩
      have hskip : ∀ {place'}, count ≠ .positive →
          Survey.Sound s i (.part place' (.rep count p) :: after) next := fun hne =>
        hnext.imp fun m j m' h => ⟨i, m, .skip hne, h⟩
      have hagain : Survey.Sound s i (.again place p :: after) fun m =>
          Survey.fork (.again place p :: after)
            (p.survey i (2 * place) (.again place p :: after) (fun _ => Survey.none) m) (next m) :=
        Survey.Sound.fork (hround Survey.sound_none)
          (hnext.imp fun m j m' h => ⟨i, m, .skip (by decide), h⟩) _
      have hrounds := ih (2 * place) _ hagain
      cases count with
      | optional =>
          refine Survey.Sound.fork ((ih (2 * place) after hnext).imp ?_) (hskip (by decide)) _
          rintro m j m' ⟨k, n, hp, hc⟩
          exact ⟨k, n, .once hp, hc⟩
      | any =>
          refine Survey.Sound.fork (hrounds.imp ?_) (hskip (by decide)) _
          rintro m j m' ⟨k, n, hp, l, n', hr, hc⟩
          exact ⟨l, n', .round (by decide) hp hr, hc⟩
      | positive =>
          refine hrounds.imp ?_
          rintro m j m' ⟨k, n, hp, l, n', hr, hc⟩
          exact ⟨l, n', .round (by decide) hp hr, hc⟩
  | group g p ih =>
      have hclose : Survey.Sound s i (.close g :: after) fun m => next (⟨g, .closing, i⟩ :: m) :=
        fun m seen a ha j m' hc => hnext _ seen a ha j m' hc
      intro m seen a ha j m' hc
      obtain ⟨k, n, hp, hc⟩ := ih (2 * place) _ hclose _ seen a ha j m' hc
      exact ⟨k, _, .group hp, hc⟩

/-- Taking up a plan gives attempts at that plan. -/
theorem Plan.survey_sound (s : List Char) (i : Nat) (plan : Plan) :
    Survey.Sound s i plan (plan.survey i) := by
  induction plan with
  | nil =>
      intro m seen a ha j m' hc
      cases List.mem_singleton.1 ha
      exact hc
  | cons step rest ih =>
      cases step with
      | part place p => exact p.survey_sound place rest ih
      | again place p =>
          refine Survey.Sound.fork ((p.survey_sound (2 * place) _ Survey.sound_none).imp ?_)
            (ih.imp ?_) _
          · rintro m j m' ⟨k, n, hp, l, n', hr, hc⟩
            exact ⟨l, n', .round (by decide) hp hr, hc⟩
          · exact fun m j m' h => ⟨i, m, .skip (by decide), h⟩
      | close g => exact fun m seen a ha j m' hc => ih _ seen a ha j m' hc

/-! ## The search -/

/-- Every way to complete an attempt at position `i` completes a match of the whole pattern. -/
def Attempt.Leads (p : Pattern) (s : List Char) (i : Nat) (a : Attempt) : Prop :=
  ∀ j m', a.Completes s i j m' → ∃ start, p.Matches s start [] j m'

/-- Reading a character keeps attempts sound. -/
theorem Attempt.leads_advance {p : Pattern} {s : List Char} {i : Nat} {c : Char}
    (hc : s[i]? = some c) (as : List Attempt) (has : ∀ a ∈ as, a.Leads p s i) (seen : List Plan) :
    ∀ a ∈ (Attempt.advance (i + 1) c as seen).attempts, a.Leads p s (i + 1) := by
  induction as generalizing seen with
  | nil =>
      intro a ha
      cases ha
  | cons b as ih =>
      have hrest := ih fun a ha => has a (by simp [ha])
      cases b with
      | complete m => exact hrest seen
      | reading set plan m =>
          have hb := has (.reading set plan m) (by simp)
          simp only [Attempt.advance]
          split
          · rename_i hset
            intro a ha
            rcases Survey.mem_andThen ha with ha | ha
            · intro j m' hcomp
              exact hb j m' ⟨c, hc, hset, plan.survey_sound s (i + 1) m seen a ha j m' hcomp⟩
            · exact hrest _ a ha
          · exact hrest seen

namespace Pattern

variable {p : Pattern} {s : List Char}

/-- The attempts that begin at a position are sound. -/
theorem leads_attemptsAt {i : Nat} {found : Option Marks} {v : Survey}
    (hv : ∀ a ∈ v.attempts, a.Leads p s i) : ∀ a ∈ p.attemptsAt i found v, a.Leads p s i := by
  intro a ha
  unfold attemptsAt at ha
  split at ha
  · exact hv a ha
  · rcases Survey.mem_andThen ha with ha | ha
    · exact hv a ha
    · intro j m' hcomp
      obtain ⟨k, n, hp, rfl, rfl⟩ := Plan.survey_sound s i [.part 1 p] [] _ a ha j m' hcomp
      exact ⟨i, hp⟩

/-- An attempt that is complete is a match. -/
theorem matches_of_complete {i : Nat} {as : List Attempt} {m : Marks}
    (has : ∀ a ∈ as, a.Leads p s i) (h : as.findSome? Attempt.complete? = some m) :
    ∃ start j, p.Matches s start [] j m := by
  obtain ⟨a, ha, hm⟩ := List.exists_of_findSome?_eq_some h
  cases a with
  | reading => cases hm
  | complete m' =>
      cases hm
      obtain ⟨start, hp⟩ := has _ ha i m ⟨rfl, rfl⟩
      exact ⟨start, i, hp⟩

/-- What the search finds is a match, by induction on what is left of the text. -/
theorem matches_of_searchFrom {m : Marks} (rest : List Char) (i : Nat) (hrest : s.drop i = rest)
    (v : Survey) (hv : ∀ a ∈ v.attempts, a.Leads p s i) (found : Option Marks)
    (hfound : ∀ m ∈ found, ∃ start j, p.Matches s start [] j m)
    (h : p.searchFrom i v found rest = some m) : ∃ start j, p.Matches s start [] j m := by
  induction rest generalizing i v found with
  | nil =>
      rcases Option.or_eq_some_iff.1 h with h | ⟨_, h⟩
      · exact matches_of_complete (leads_attemptsAt hv) h
      · exact hfound m h
  | cons c rest ih =>
      have has : ∀ a ∈ p.attemptsAt i found v, a.Leads p s i := leads_attemptsAt hv
      have hc : s[i]? = some c := by
        rw [← List.head?_drop, hrest]
        rfl
      refine ih (i + 1) ?_ _ (Attempt.leads_advance hc _ ?_ []) _ ?_ h
      · rw [← List.tail_drop, hrest]
        rfl
      · exact fun a ha => has a (List.takeWhile_subset _ ha)
      · intro m' hm'
        rcases Option.or_eq_some_iff.1 hm' with hm' | ⟨_, hm'⟩
        · exact matches_of_complete has hm'
        · exact hfound m' hm'

/-- The marks of a search are those of a match. -/
theorem matches_of_search? {m : Marks} (h : p.search? s = some m) :
    ∃ start j, p.Matches s start [] j m := by
  refine matches_of_searchFrom s 0 rfl _ ?_ none ?_ h
  · intro a ha
    cases ha
  · intro m' hm'
    cases hm'

end Pattern

end AskTables
