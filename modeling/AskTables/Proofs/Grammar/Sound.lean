import AskTables.Proofs.Grammar.Viable

/-!
# What is read was written

Every reader of the grammar reads only what a writer could have written: if it reads a value off the
front of a text, then the text writes tokens of that value and goes on with what the reader leaves.
Where a reader notes an attempt, a writer could have come to that place as well.  `Reader.Sound`
says both for one reader, and each combination of readers keeps it, so the grammar is gone through
phrase by phrase.  Names that are read are identifiers, so a value that is read is well formed.
-/

namespace AskTables.Grammar

/-! ## Words -/

/-- The test of the reader accepts the identifiers and nothing else. -/
theorem isIdentifier_iff (w : List Char) : isIdentifier w = true ↔ IsIdentifier w := by
  cases w with
  | nil => simp [isIdentifier, IsIdentifier, IsName]
  | cons c rest =>
      simp only [isIdentifier, IsIdentifier, IsName, isReserved, Keyword.spells, Bool.and_eq_true,
        List.all_eq_true, List.head?_cons, Option.any_some, isWordStart, isWordChar,
        Bool.or_eq_true, beq_iff_eq, Bool.not_eq_true', List.any_eq_false]
      constructor
      · rintro ⟨⟨hall, hstart⟩, hkey⟩
        exact ⟨⟨c, rest, rfl, hstart, fun d hd => hall d (by simp [hd])⟩, hkey⟩
      · rintro ⟨⟨d, tail, he, hstart, hall⟩, hkey⟩
        cases he
        refine ⟨⟨?_, hstart⟩, hkey⟩
        intro d hd
        rcases List.mem_cons.1 hd with rfl | hd
        · rcases hstart with h | h
          · exact .inl (by simp [Char.isAlphanum, h])
          · exact .inr h
        · exact hall d hd

theorem Keyword.spells_letters (k : Keyword) : (Token.keyword k).Spells k.letters := by
  cases k <;> rfl

/-- What is left after a word does not continue it. -/
theorem not_startsWord_dropWhile (s : List Char) : ¬ StartsWord (s.dropWhile isWordChar) := by
  rintro ⟨c, rest, he, hc⟩
  have h := List.head?_dropWhile_not isWordChar s
  rw [he] at h
  simp [hc] at h

namespace Reader

variable {α β : Type}

/-- A reader that reads only what was written, and tries nothing after text that no writer could
have begun with: `R x ts` says that `ts` may be the tokens of `x`. -/
structure Sound (p : Reader α) (R : α → List Token → Prop) : Prop where
  written : ∀ {s x r}, p.read s = some (x, r) → ∃ ts, R x ts ∧ Writes ts s r
  viable : Viable R []
  tries : ∀ s a, Tries R s a (p.trace s a)

/-! ## Combinations -/

section
variable {p : Reader α} {q : Reader β} {R : α → List Token → Prop} {R' : β → List Token → Prop}

/-- A reader that keeps no attempts tries nothing. -/
theorem Sound.silent {read : List Char → Option (α × List Char)} (hR : Viable R [])
    (h : ∀ {s x r}, read s = some (x, r) → ∃ ts, R x ts ∧ Writes ts s r) :
    (silent read).Sound R :=
  ⟨h, hR, fun _ _ => .refl _ _ _⟩

/-- A named phrase that fails at the start leaves an attempt. -/
theorem trace_named_ne_start {symbol : Symbol} {s : List Char}
    (h : (named symbol p).read s = none) : (named symbol p).trace s (.start s) ≠ .start s := by
  have hp : p.read s = none := h
  simp only [Reader.named, hp]
  exact Attempts.note_start_ne symbol s _

/-- A name for the phrase stands for the attempts at its front. -/
theorem tries_named {s : List Char} {a : Attempts} (h : Tries R s a (p.trace s a))
    (hR : Viable R []) (symbol : Symbol) : Tries R s a ((named symbol p).trace s a) := by
  simp only [Reader.named]
  split
  · exact h
  · exact h.note hR symbol

theorem Sound.named (h : p.Sound R) (symbol : Symbol) : (named symbol p).Sound R :=
  ⟨h.written, h.viable, fun s a => tries_named (h.tries s a) h.viable symbol⟩

theorem Sound.map {S : β → List Token → Prop} {f : α → β} (h : p.Sound R)
    (hf : ∀ x ts, R x ts → S (f x) ts) : (p.map f).Sound S := by
  refine ⟨?_, h.viable.map hf, fun s a => (h.tries s a).mono fun _ hw => hw.map hf⟩
  intro s y r hr
  obtain ⟨⟨x, r'⟩, hp, he⟩ := Option.map_eq_some_iff.1 hr
  cases he
  obtain ⟨ts, hx, hw⟩ := h.written hp
  exact ⟨ts, hf x ts hx, hw⟩

theorem Sound.imp {S : α → List Token → Prop} (h : p.Sound R) (hRS : ∀ x ts, R x ts → S x ts) :
    p.Sound S := by
  refine ⟨?_, h.viable.map hRS, fun s a => (h.tries s a).mono fun _ hw => hw.map hRS⟩
  intro s x r hr
  obtain ⟨ts, hx, hw⟩ := h.written hr
  exact ⟨ts, hRS x ts hx, hw⟩

theorem Sound.afterSpace (h : p.Sound R) : p.afterSpace.Sound R := by
  refine ⟨?_, h.viable, fun s a => (h.tries (skipSpace s) a).of_skipSpace⟩
  intro s x r hr
  obtain ⟨ts, hx, hw⟩ := h.written hr
  exact ⟨ts, hx, hw.of_skipSpace⟩

/-- Sound readers in a row read tokens in a row. -/
theorem Sound.seq (hp : p.Sound R) (hq : q.Sound R') : (p.seq q).Sound (Joined R R') := by
  refine ⟨?_, hp.viable.before hq.viable, fun s a => ?_⟩
  · intro s xy r hr
    simp only [Reader.seq] at hr
    split at hr
    · cases hr
    · rename_i x m hx
      obtain ⟨⟨y, r'⟩, hy, he⟩ := Option.map_eq_some_iff.1 hr
      cases he
      obtain ⟨us, hus, hw⟩ := hp.written hx
      obtain ⟨vs, hvs, hw'⟩ := hq.written hy
      exact ⟨us ++ vs, ⟨us, vs, hus, hvs, rfl⟩, hw.append hw'⟩
  · have hfirst : Tries (Joined R R') s a (p.trace s a) :=
      (hp.tries s a).mono fun _ hw => hw.before hq.viable
    simp only [Reader.seq]
    split
    · exact hfirst
    · rename_i x m hx
      obtain ⟨us, hus, hw⟩ := hp.written hx
      exact hfirst.trans ((hq.tries m (p.trace s a)).after hus hw)

theorem Sound.spaced (hp : p.Sound R) (hq : q.Sound R') : (p.spaced q).Sound (Joined R R') :=
  hp.seq hq.afterSpace

theorem Sound.spacedLeft {Q : List Token → Prop} (hp : p.Sound R) (hq : q.Sound fun _ ts => Q ts) :
    (p.spacedLeft q).Sound fun x ts => ∃ us vs, R x us ∧ Q vs ∧ ts = us ++ vs :=
  (hp.spaced hq).map fun _ _ h => h

theorem Sound.spacedRight {Q : List Token → Prop} (hp : p.Sound fun _ ts => Q ts)
    (hq : q.Sound R') :
    (p.spacedRight q).Sound fun y ts => ∃ us vs, Q us ∧ R' y vs ∧ ts = us ++ vs :=
  (hp.spaced hq).map fun _ _ h => h

/-- A choice of sound readers is sound, and so are the attempts of both. -/
theorem Sound.orElse {q : Reader α} (hp : p.Sound R) (hq : q.Sound R) : (p.orElse q).Sound R := by
  refine ⟨?_, hp.viable, fun s a => ?_⟩
  · intro s x r hr
    simp only [Reader.orElse] at hr
    split at hr
    · rename_i hx
      cases hr
      exact hp.written hx
    · exact hq.written hr
  · simp only [Reader.orElse]
    split
    · exact hp.tries s a
    · exact (hp.tries s a).trans (hq.tries s (p.trace s a))

/-- The tokens of a value that may be missing. -/
def Optionally (R : α → List Token → Prop) (o : Option α) (ts : List Token) : Prop :=
  match o with
  | some x => R x ts
  | none => ts = []

theorem Sound.optional (hp : p.Sound R) : (optional p).Sound (Optionally R) := by
  refine ⟨?_, .of_nil (x := none) rfl, fun s a => (hp.tries s a).mono fun _ hw =>
    hw.map (f := some) fun _ _ h => h⟩
  intro s o r hr
  simp only [Reader.optional] at hr
  split at hr
  · rename_i hx
    cases hr
    exact hp.written hx
  · cases hr
    exact ⟨[], rfl, .nil s⟩

/-! ## Rows -/

/-- The tokens of values that are written one after the other. -/
def InRow (V : α → Prop) (tokens : α → List Token) (xs : List α) (ts : List Token) : Prop :=
  (∀ x ∈ xs, V x) ∧ ts = xs.flatMap tokens

variable {V : α → Prop} {tokens : α → List Token}

theorem InRow.cons {x : α} {xs : List α} {us vs : List Token} (hx : V x ∧ us = tokens x)
    (hxs : InRow V tokens xs vs) : InRow V tokens (x :: xs) (us ++ vs) := by
  obtain ⟨hV, rfl⟩ := hx
  obtain ⟨hall, rfl⟩ := hxs
  refine ⟨?_, rfl⟩
  intro y hy
  rcases List.mem_cons.1 hy with rfl | hy
  · exact hV
  · exact hall y hy

theorem InRow.nil : InRow V tokens [] [] := ⟨by simp, rfl⟩

/-- The values of a row are read one after the other. -/
theorem Sound.readRow (hp : p.Sound fun x ts => V x ∧ ts = tokens x) (n : Nat) (s : List Char) :
    ∃ ts, InRow V tokens (Reader.readRow p n s).1 ts ∧ Writes ts s (Reader.readRow p n s).2 := by
  induction n generalizing s with
  | zero => exact ⟨[], .nil, .nil s⟩
  | succ n ih =>
      simp only [Reader.readRow]
      split
      · exact ⟨[], .nil, .nil s⟩
      · rename_i x rest hx
        obtain ⟨us, hus, hw⟩ := hp.written hx
        obtain ⟨vs, hvs, hw'⟩ := ih rest
        exact ⟨us ++ vs, InRow.cons hus hvs, hw.of_skipSpace.append hw'⟩

/-- Repeating a sound reader attempts only what can be written after the items so far. -/
theorem Sound.traceRow (hp : p.Sound fun x ts => V x ∧ ts = tokens x) (n : Nat) (s : List Char)
    (a : Attempts) : Tries (InRow V tokens) s a (Reader.traceRow p n s a) := by
  induction n generalizing s a with
  | zero => exact .refl _ _ _
  | succ n ih =>
      have hfirst : Tries (InRow V tokens) s a (p.trace (skipSpace s) a) := by
        refine (hp.tries (skipSpace s) a).of_skipSpace.mono fun _ hw => ?_
        refine hw.map (f := fun x => [x]) fun x ts hx => ?_
        rw [← List.append_nil ts]
        exact InRow.cons hx .nil
      simp only [Reader.traceRow]
      split
      · exact hfirst
      · rename_i x rest hx
        obtain ⟨us, hus, hw⟩ := hp.written hx
        have hrest := (ih rest (p.trace (skipSpace s) a)).after (R := fun x ts => V x ∧ ts = tokens x)
          hus hw.of_skipSpace
        refine hfirst.trans (hrest.mono fun _ hv => ?_)
        refine hv.map (f := fun xy => xy.1 :: xy.2) ?_
        rintro xy ts ⟨us, vs, hx, hxs, rfl⟩
        exact InRow.cons hx hxs

/-- A row of items is read soundly. -/
theorem Sound.many (hp : p.Sound fun x ts => V x ∧ ts = tokens x) :
    (many p).Sound (InRow V tokens) := by
  refine ⟨?_, .of_nil .nil, fun s a => Sound.traceRow hp (s.length + 1) s a⟩
  intro s xs r hr
  simp only [Reader.many, Option.some.injEq] at hr
  have h := Sound.readRow hp (s.length + 1) s
  rwa [hr] at h

end

/-! ## Tokens -/

/-- Only the word of the keyword is taken for it. -/
theorem keyword_sound (k : Keyword) : (keyword k).Sound fun _ ts => ts = [.keyword k] := by
  refine .named (.silent (.of_token (x := ()) (t := .keyword k) (u := k.letters) rfl
    k.spells_letters) ?_) _
  intro s x r hr
  refine ⟨_, rfl, ?_⟩
  split at hr
  · rename_i hk
    cases hr
    have hw : (Token.keyword k).Spells (wordOf s) := by
      simpa [Token.Spells, Keyword.spells] using hk
    have h := Writes.single hw fun _ => not_startsWord_dropWhile s
    rwa [wordOf, List.takeWhile_append_dropWhile] at h
  · cases hr

theorem token_sound (x : Sign) : (token x.char).Sound fun _ ts => ts = [.sign x] := by
  refine .silent (.of_token (x := ()) (u := [x.char]) rfl rfl) ?_
  intro s u r hr
  refine ⟨_, rfl, ?_⟩
  cases s with
  | nil => cases hr
  | cons d rest =>
      simp only at hr
      split at hr
      · rename_i hd
        cases hr
        subst hd
        exact .single (w := [x.char]) rfl (by simp [Token.isWord])
      · cases hr

/-- What an identifier leaves does not continue it. -/
theorem ident_read_eq_some {s r : List Char} {x : String} (h : ident.read s = some (x, r)) :
    IsIdentifier x.toList ∧ s = x.toList ++ r ∧ ¬ StartsWord r := by
  simp only [ident, named, silent] at h
  split at h
  · rename_i hi
    cases h
    rw [String.toList_ofList]
    exact ⟨(isIdentifier_iff _).1 hi, (List.takeWhile_append_dropWhile).symm,
      not_startsWord_dropWhile s⟩
  · cases h

/-- A letter is an identifier. -/
theorem isIdentifier_letter : IsIdentifier "a".toList :=
  (isIdentifier_iff _).1 (by decide)

/-- Only identifiers are read as names, so no reserved keyword is. -/
theorem ident_sound : ident.Sound fun x ts => IsIdentifier x.toList ∧ ts = [.name x] := by
  refine .named (.silent (.of_token (x := "a") (t := .name "a") ⟨isIdentifier_letter, rfl⟩ rfl) ?_) _
  intro s x r hr
  obtain ⟨hi, rfl, hn⟩ := ident_read_eq_some hr
  exact ⟨_, ⟨hi, rfl⟩, .single rfl fun _ => hn⟩

/-- The name after a point, if there is one. -/
theorem column_read (s : List Char) : column.read s =
    match ident.read s with
    | none => none
    | some (x, m) =>
      match ((token '.').seq ident).read m with
      | some (y, r) => some (⟨some x, y.2⟩, r)
      | none => some (⟨none, x⟩, m) := by
  simp only [column, named, map, seq, optional]
  cases ident.read s with
  | none => rfl
  | some xm =>
    obtain ⟨x, m⟩ := xm
    simp only []
    cases (token '.').read m with
    | none => rfl
    | some um =>
      obtain ⟨u, m'⟩ := um
      simp only []
      cases ident.read m' with
      | none => rfl
      | some yr => rfl

/-- Behind a point stands the identifier that is read. -/
theorem point_read_eq_some {s r : List Char} {y : Unit × String}
    (h : ((token '.').seq ident).read s = some (y, r)) :
    IsIdentifier y.2.toList ∧ s = '.' :: (y.2.toList ++ r) ∧ ¬ StartsWord r := by
  cases s with
  | nil => cases h
  | cons d rest =>
      simp only [seq, token, silent] at h
      split at h
      · cases h
      · rename_i hd
        split at hd
        · rename_i hd'
          cases hd
          subst hd'
          obtain ⟨⟨x, r'⟩, hx, he⟩ := Option.map_eq_some_iff.1 h
          cases he
          obtain ⟨hi, hs, hn⟩ := ident_read_eq_some hx
          exact ⟨hi, by rw [hs], hn⟩
        · cases hd

/-- A name alone is a column. -/
theorem viable_column : Viable (fun c ts => c.WellFormed ∧ ts = [.column c]) [] :=
  .of_token (x := ⟨none, "a"⟩) (u := ['a']) ⟨⟨by simp, isIdentifier_letter⟩, rfl⟩ rfl

/-- After a point a name can be written. -/
theorem viable_point {x : String} (hx : IsIdentifier x.toList) :
    Viable (fun c ts => c.WellFormed ∧ ts = [.column c]) (x.toList ++ ['.']) := by
  refine ⟨['a'], ⟨some x, "a"⟩, _, ⟨⟨by simpa using hx, isIdentifier_letter⟩, rfl⟩, ?_⟩
  intro m hm
  exact ⟨.single (by simp [Token.Spells, Column.text]) fun _ => hm, by simp⟩

/-- Names leave an attempt at their own place or none. -/
theorem ident_trace_cases (s : List Char) (a : Attempts) : ident.trace s a = a ∨
    (ident.trace s a).symbols ≠ [] ∧ (ident.trace s a).rest = s := by
  simp only [ident, named, silent]
  split
  · exact .inl rfl
  · exact Attempts.note_cases .ident s a a

/-- Where a name may follow a point, an attempt on it is made behind the point only. -/
theorem point_trace_cases (s : List Char) (a : Attempts) :
    ((token '.').seq ident).trace s a = a ∨
      (((token '.').seq ident).trace s a).symbols ≠ [] ∧
        s = '.' :: (((token '.').seq ident).trace s a).rest := by
  cases s with
  | nil => exact .inl rfl
  | cons d s =>
      by_cases hd : d = '.'
      · subst hd
        rcases ident_trace_cases s a with he | ⟨hne, hs⟩
        · exact .inl he
        · exact .inr ⟨hne, congrArg _ hs.symm⟩
      · have htoken : (token '.').read (d :: s) = none := if_neg hd
        refine .inl ?_
        simp only [seq, htoken]
        rfl

/-- Attempts on a column are made at its start or behind its point. -/
theorem column_tries (s : List Char) (a : Attempts) :
    Tries (fun c ts => c.WellFormed ∧ ts = [.column c]) s a (column.trace s a) := by
  have hname : Tries (fun c ts => Column.WellFormed c ∧ ts = [.column c]) s a
      (ident.trace s a) := by
    rcases ident_trace_cases s a with he | ⟨hne, hs⟩
    · exact .inl he
    · exact .inr ⟨hne, [], hs.symm, viable_column⟩
  refine tries_named ?_ viable_column .column
  simp only [map, seq, optional]
  cases hx : ident.read s with
  | none => exact hname
  | some xm =>
      obtain ⟨x, m⟩ := xm
      obtain ⟨hi, rfl, -⟩ := ident_read_eq_some hx
      refine hname.trans ?_
      rcases point_trace_cases m (ident.trace (x.toList ++ m) a) with he | ⟨hne, hm⟩
      · exact .inl he
      · refine .inr ⟨hne, x.toList ++ ['.'], ?_, viable_point hi⟩
        rw [List.append_assoc]
        exact congrArg _ hm

/-- A column is read with its table if a point and a name follow at once. -/
theorem column_sound : column.Sound fun c ts => c.WellFormed ∧ ts = [.column c] := by
  refine ⟨?_, viable_column, column_tries⟩
  intro s c r hr
  rw [column_read] at hr
  split at hr
  · cases hr
  · rename_i x m hx
    obtain ⟨hi, rfl, hn⟩ := ident_read_eq_some hx
    split at hr
    · rename_i y r' hy
      cases hr
      obtain ⟨hi', rfl, hn'⟩ := point_read_eq_some hy
      refine ⟨_, ⟨⟨by simpa using hi, hi'⟩, rfl⟩, ?_⟩
      have h := Writes.single (t := .column ⟨some x, y.2⟩) (w := x.toList ++ '.' :: y.2.toList)
        (by simp [Token.Spells, Column.text]) fun _ => hn'
      simpa using h
    · cases hr
      exact ⟨_, ⟨⟨by simp, hi⟩, rfl⟩, .single rfl fun _ => hn⟩

/-! ## Literals -/

theorem isDigits_of_digits? {s ds r : List Char} (h : digits? s = some (ds, r)) :
    IsDigits ds ∧ s = ds ++ r := by
  simp only [digits?] at h
  split at h
  · cases h
  · rename_i hne
    cases h
    refine ⟨⟨hne, fun c hc => List.all_eq_true.1 List.all_takeWhile c hc⟩, ?_⟩
    exact (List.takeWhile_append_dropWhile).symm

/-- What is taken as a fraction is empty or a point with digits. -/
theorem fraction_eq (s : List Char) : s = (fraction s).1 ++ (fraction s).2 ∧
    ((fraction s).1 = [] ∨ ∃ ds, (fraction s).1 = '.' :: ds ∧ IsDigits ds) := by
  unfold fraction
  split
  · split
    · rename_i h
      obtain ⟨hd, rfl⟩ := isDigits_of_digits? h
      exact ⟨rfl, .inr ⟨_, rfl, hd⟩⟩
    · exact ⟨rfl, .inl rfl⟩
  · exact ⟨rfl, .inl rfl⟩

theorem isNumeral_of_unsigned? {sign s w r : List Char} (hs : sign = [] ∨ sign = ['-'])
    (h : unsigned? s = some (w, r)) : IsNumeral (sign ++ w) ∧ s = w ++ r := by
  obtain ⟨⟨ds, m⟩, hd, he⟩ := Option.map_eq_some_iff.1 h
  cases he
  obtain ⟨hdig, rfl⟩ := isDigits_of_digits? hd
  obtain ⟨hm, hfrac⟩ := fraction_eq m
  refine ⟨⟨sign, ds, (fraction m).1, by simp, hs, hdig, hfrac⟩, ?_⟩
  rw [List.append_assoc, ← hm]

/-- Only numerals are read as numbers. -/
theorem isNumeral_of_numberText? {s w r : List Char} (h : numberText? s = some (w, r)) :
    IsNumeral w ∧ s = w ++ r := by
  unfold numberText? at h
  split at h
  · obtain ⟨⟨w', r'⟩, hu, he⟩ := Option.map_eq_some_iff.1 h
    cases he
    obtain ⟨hn, rfl⟩ := isNumeral_of_unsigned? (.inr rfl) hu
    exact ⟨hn, rfl⟩
  · obtain ⟨hn, rfl⟩ := isNumeral_of_unsigned? (.inl rfl) h
    exact ⟨hn, rfl⟩

theorem number_sound : number.Sound fun v ts => IsNumeral v.toList ∧ ts = [.number v] := by
  have hzero : IsNumeral "0".toList := ⟨[], ['0'], [], rfl, .inl rfl, ⟨by simp, by simp⟩, .inl rfl⟩
  refine .named (.silent (.of_token (x := "0") (t := .number "0") ⟨hzero, rfl⟩ rfl) ?_) _
  intro s v r hr
  obtain ⟨⟨w, r'⟩, hw, he⟩ := Option.map_eq_some_iff.1 hr
  cases he
  obtain ⟨hn, rfl⟩ := isNumeral_of_numberText? hw
  have hword : (Token.number (String.ofList w)).isWord → ¬ StartsWord r' := by simp [Token.isWord]
  exact ⟨_, ⟨by rwa [String.toList_ofList], rfl⟩, .single (by simp [Token.Spells]) hword⟩

/-- A quoted text is what stands before the next quote, if there is one. -/
theorem quoted_read (s : List Char) : quoted.read s =
    match s with
    | '\'' :: rest =>
      match rest.dropWhile isQuotable with
      | '\'' :: r => some (String.ofList (rest.takeWhile isQuotable), r)
      | _ => none
    | _ => none := by
  cases s with
  | nil => rfl
  | cons d rest =>
      by_cases hd : d = '\''
      · subst hd
        simp only [quoted, named, map, seq, token, silent, stringInner, if_true]
        cases rest.dropWhile isQuotable with
        | nil => rfl
        | cons e r =>
            by_cases he : e = '\''
            · simp [he]
            · simp [he]
      · simp [quoted, named, map, seq, token, silent, hd]

/-- Between its quotes a string holds what it may, so nothing is tried there. -/
theorem quoted_tries {R : String → List Token → Prop} (hR : Viable R []) (s : List Char)
    (a : Attempts) : Tries R s a (quoted.trace s a) := by
  refine tries_named (.inl ?_) hR .string
  simp only [map, seq, token, silent, stringInner, named]
  split
  · split <;> rfl
  · split <;> rfl

theorem quoted_sound : quoted.Sound fun v ts => '\'' ∉ v.toList ∧ ts = [.quoted v] := by
  have hempty : Viable (fun v ts => '\'' ∉ String.toList v ∧ ts = [.quoted v]) [] :=
    .of_token (x := "") (u := ['\'', '\'']) ⟨by simp, rfl⟩ rfl
  refine ⟨?_, hempty, quoted_tries hempty⟩
  intro s v r hr
  rw [quoted_read] at hr
  split at hr
  · rename_i rest
    split at hr
    · rename_i r' hd
      cases hr
      have hq : '\'' ∉ rest.takeWhile isQuotable := by
        intro hm
        have h := List.all_eq_true.1 (List.all_takeWhile (p := isQuotable)) _ hm
        simp [isQuotable] at h
      refine ⟨_, ⟨by rwa [String.toList_ofList], rfl⟩, ?_⟩
      have h := Writes.single (t := .quoted (String.ofList (rest.takeWhile isQuotable)))
        (m := r) rfl (by simp [Token.isWord])
      have he : rest = rest.takeWhile isQuotable ++ '\'' :: r := by
        rw [← hd, List.takeWhile_append_dropWhile]
      rw [String.toList_ofList, List.cons_append, List.append_assoc, List.singleton_append,
        ← he] at h
      exact h
    · cases hr
  · cases hr

theorem quote_not_mem_of_isNumeral {w : List Char} (h : IsNumeral w) : '\'' ∉ w := by
  obtain ⟨sign, whole, fraction, rfl, hs, ⟨_, hw⟩, hf⟩ := h
  have hsign : '\'' ∉ sign := by rcases hs with rfl | rfl <;> decide
  have hwhole : '\'' ∉ whole := fun hm => absurd (hw _ hm) (by decide)
  have hfraction : '\'' ∉ fraction := by
    rcases hf with rfl | ⟨ds, rfl, _, hd⟩
    · simp
    · intro hm
      rcases List.mem_cons.1 hm with he | hm
      · exact absurd he (by decide)
      · exact absurd (hd _ hm) (by decide)
  simp [hsign, hwhole, hfraction]

theorem literal_sound :
    literal.Sound fun v ts => '\'' ∉ v.toList ∧ ∃ t, IsLiteral v t ∧ ts = [t] := by
  refine .named (.orElse (quoted_sound.imp ?_) (number_sound.imp ?_)) _
  · rintro v ts ⟨hq, rfl⟩
    exact ⟨hq, _, .inl rfl, rfl⟩
  · rintro v ts ⟨hn, rfl⟩
    exact ⟨quote_not_mem_of_isNumeral hn, _, .inr ⟨rfl, hn⟩, rfl⟩

/-! ## Selections -/

theorem commas_cons (ts : List Token) (tss : List (List Token)) :
    commas (ts :: tss) = ts ++ tss.flatMap fun us => .sign .comma :: us := by
  induction tss generalizing ts with
  | nil => simp [commas]
  | cons us tss ih =>
      rw [commas, List.intercalate_cons_cons, ← commas, ih us]
      simp

/-- A list is read soundly if its items are, and it has one at least. -/
theorem Sound.commaList {α : Type} {p : Reader α} {V : α → Prop} {tokens : α → List Token}
    (hp : p.Sound fun x ts => V x ∧ ts = tokens x) :
    (commaList p).Sound fun xs ts =>
      (xs ≠ [] ∧ ∀ x ∈ xs, V x) ∧ ts = commas (xs.map tokens) := by
  have hitem : ((token ',').spacedRight p).Sound fun x ts =>
      V x ∧ ts = .sign .comma :: tokens x := by
    refine (Sound.spacedRight (token_sound .comma) hp).imp ?_
    rintro x ts ⟨_, _, rfl, ⟨hV, rfl⟩, rfl⟩
    exact ⟨hV, rfl⟩
  refine .map (.spaced hp (.many hitem)) ?_
  rintro ⟨x, xs⟩ ts ⟨us, vs, ⟨hx, rfl⟩, ⟨hxs, rfl⟩, rfl⟩
  refine ⟨⟨by simp, ?_⟩, ?_⟩
  · intro y hy
    rcases List.mem_cons.1 hy with rfl | hy
    · exact hx
    · exact hxs y hy
  · rw [List.map_cons, commas_cons, List.flatMap_map]

theorem wildcard_sound : wildcard.Sound fun _ ts => ts = [.sign .star] :=
  (token_sound .star).named _

theorem aggregateFn_sound : aggregateFn.Sound fun f ts => ts = [.keyword f.keyword] := by
  refine .named (.orElse (.map (keyword_sound .avg) ?_)
    (.orElse (.map (keyword_sound .sum) ?_) (.map (keyword_sound .count) ?_))) _
  all_goals exact fun _ _ h => h

theorem aggregateArg_sound : aggregateArg.Sound fun a ts =>
    (∀ c, a = .column c → c.WellFormed) ∧ ts = [a.token] := by
  refine .named (.orElse (.map wildcard_sound ?_) (.map column_sound ?_)) _
  · rintro _ ts rfl
    exact ⟨fun c hc => (by cases hc), rfl⟩
  · rintro c ts ⟨hc, rfl⟩
    exact ⟨fun d hd => (by cases hd; exact hc), rfl⟩

/-- An aggregate is read with its argument and its name. -/
theorem aggregate_sound : aggregate.Sound fun a ts => a.WellFormed ∧ ts = a.tokens := by
  refine .named (.map (.spaced (.spacedLeft aggregateFn_sound (token_sound .opening))
    (.spaced (.spacedLeft (.spacedLeft aggregateArg_sound (token_sound .closing))
      (keyword_sound .asWord)) ident_sound)) ?_) _
  rintro ⟨f, a, n⟩ ts ⟨_, _, ⟨_, _, rfl, rfl, rfl⟩,
    ⟨_, _, ⟨_, _, ⟨_, _, ⟨ha, rfl⟩, rfl, rfl⟩, rfl, rfl⟩, ⟨hn, rfl⟩, rfl⟩, rfl⟩
  exact ⟨⟨ha, hn⟩, rfl⟩

theorem selectItem_sound : selectItem.Sound fun i ts => i.WellFormed ∧ ts = i.tokens :=
  .named (.orElse (.map aggregate_sound fun _ _ h => h) (.map column_sound fun _ _ h => h)) _

theorem selection_sound : selection.Sound fun s ts => s.WellFormed ∧ ts = s.tokens := by
  refine .named (.orElse (.map wildcard_sound ?_) (.map (.commaList selectItem_sound) ?_)) _
  · rintro _ ts rfl
    exact ⟨trivial, rfl⟩
  · exact fun _ _ h => h

/-! ## Tables and clauses -/

/-- A table is read with the alias that is written, and with none if there is none. -/
theorem tableRef_sound : tableRef.Sound fun t ts => t.WellFormed ∧ ts = t.tokens := by
  refine .named (.map (.spaced ident_sound (.optional ident_sound)) ?_) _
  rintro ⟨n, o⟩ ts ⟨_, us, ⟨hn, rfl⟩, ho, rfl⟩
  cases o with
  | none =>
      subst ho
      exact ⟨⟨hn, by simp⟩, rfl⟩
  | some a =>
      obtain ⟨ha, rfl⟩ := ho
      exact ⟨⟨hn, by simpa using ha⟩, rfl⟩

/-- A keyword that may be left out. -/
theorem optional_keyword_sound (k : Keyword) : (optional (keyword k)).Sound fun _ ts =>
    ∃ full : Bool, ts = if full then [.keyword k] else [] := by
  refine (Sound.optional (keyword_sound k)).imp ?_
  rintro (_ | _) ts rfl
  · exact ⟨false, rfl⟩
  · exact ⟨true, rfl⟩

theorem joinKind_sound : joinKind.Sound fun k ts => ∃ full, ts = k.tokens full := by
  refine .named (.orElse (.named (.map (.spaced (.spaced (keyword_sound .left)
    (optional_keyword_sound .outer)) (keyword_sound .join)) ?_) _)
      (.named (.map (.spaced (optional_keyword_sound .inner) (keyword_sound .join)) ?_) _)) _
  · rintro _ ts ⟨_, _, ⟨_, _, rfl, ⟨full, rfl⟩, rfl⟩, rfl, rfl⟩
    exact ⟨full, by cases full <;> rfl⟩
  · rintro _ ts ⟨_, _, ⟨full, rfl⟩, rfl, rfl⟩
    exact ⟨full, by cases full <;> rfl⟩

theorem joinClause_sound : joinClause.Sound fun j ts =>
    (Clause.join j).WellFormed ∧ j.HasTokens ts := by
  refine .named (.map (.spaced (.spacedLeft (.spaced joinKind_sound tableRef_sound)
    (keyword_sound .onWord)) (.spaced (.spacedLeft column_sound (token_sound .equal))
      column_sound)) ?_) _
  rintro ⟨⟨k, t⟩, l, r⟩ ts ⟨_, _, ⟨_, _, ⟨_, _, ⟨full, rfl⟩, ⟨ht, rfl⟩, rfl⟩, rfl, rfl⟩,
    ⟨_, _, ⟨_, _, ⟨hl, rfl⟩, rfl, rfl⟩, ⟨hr, rfl⟩, rfl⟩, rfl⟩
  exact ⟨⟨ht, hl, hr⟩, full, by simp⟩

theorem compareOp_sound : compareOp.Sound fun o ts => ts = [o.token] := by
  refine .named (.orElse (.map (token_sound .equal) ?_) (.orElse (.map (token_sound .greater) ?_)
    (.orElse (.map (token_sound .less) ?_) (.map (keyword_sound .like) ?_)))) _
  all_goals exact fun _ _ h => h

theorem whereClause_sound : whereClause.Sound fun c ts =>
    (Clause.filter c).WellFormed ∧ c.HasTokens ts := by
  refine .named (.map (.spacedRight (keyword_sound .whereWord)
    (.spaced (.spaced column_sound compareOp_sound) literal_sound)) ?_) _
  rintro ⟨⟨c, o⟩, v⟩ ts ⟨_, _, rfl, ⟨_, _, ⟨_, _, ⟨hc, rfl⟩, rfl, rfl⟩, ⟨hv, t, ht, rfl⟩, rfl⟩,
    rfl⟩
  exact ⟨⟨hc, hv⟩, t, ht, rfl⟩

/-- Two keywords in a row. -/
theorem keywords_sound (k l : Keyword) :
    ((keyword k).spaced (keyword l)).Sound fun _ ts => ts = [.keyword k, .keyword l] :=
  (Sound.spaced (keyword_sound k) (keyword_sound l)).imp
    fun _ _ ⟨_, _, h, h', he⟩ => by rw [he, h, h']; rfl

theorem groupByClause_sound : groupByClause.Sound fun keys ts =>
    (Clause.groupBy keys).WellFormed ∧ ts = groupByTokens keys := by
  refine .imp (.named (.spacedRight (keywords_sound .group .byWord) (.commaList column_sound)) _) ?_
  rintro keys ts ⟨_, _, rfl, ⟨hk, rfl⟩, rfl⟩
  exact ⟨hk, rfl⟩

theorem sortDir_sound : sortDir.Sound fun desc ts => ts = directionTokens desc true := by
  refine .named (.orElse (.map (keyword_sound .asc) ?_) (.map (keyword_sound .desc) ?_)) _
  all_goals exact fun _ _ h => h

theorem orderByClause_sound : orderByClause.Sound fun k ts =>
    (Clause.orderBy k).WellFormed ∧ k.HasTokens ts := by
  refine .named (.map (.spacedRight (keywords_sound .order .byWord)
    (.spaced column_sound (.optional sortDir_sound))) ?_) _
  rintro ⟨c, dir⟩ ts ⟨_, _, rfl, ⟨_, us, ⟨hc, rfl⟩, hd, rfl⟩, rfl⟩
  cases dir with
  | none =>
      subst hd
      exact ⟨hc, false, rfl⟩
  | some desc =>
      subst hd
      exact ⟨hc, true, rfl⟩

/-! ## Statements -/

/-- A clause that may be missing, as a list of clauses. -/
theorem optional_clause_sound {α : Type} {p : Reader α} {f : α → Clause}
    (hp : p.Sound fun x ts => (f x).WellFormed ∧ (f x).HasTokens ts) :
    (optional p).Sound fun o ts =>
      (∀ c ∈ (o.map f).toList, c.WellFormed) ∧ HasClauseTokens (o.map f).toList ts := by
  refine (Sound.optional hp).imp ?_
  rintro (_ | x) ts h
  · subst h
    exact ⟨by simp, .nil⟩
  · have h' := HasClauseTokens.cons h.2 .nil
    rw [List.append_nil] at h'
    exact ⟨by simpa using h.1, h'⟩

/-- Clauses are read in their order, each of them once at most. -/
theorem clauses_sound : clauses.Sound fun cs ts => (∀ c ∈ cs, c.WellFormed) ∧
    cs.Pairwise (fun c d => c.rank < d.rank) ∧ HasClauseTokens cs ts := by
  refine .map (.spaced (.spaced (.spaced
    (optional_clause_sound (f := .join) joinClause_sound)
    (optional_clause_sound (f := .filter) whereClause_sound))
    (optional_clause_sound (f := .groupBy) groupByClause_sound))
    (optional_clause_sound (f := .orderBy) orderByClause_sound)) ?_
  rintro ⟨⟨⟨j, w⟩, g⟩, o⟩ ts ⟨_, _, ⟨_, _, ⟨_, _, hj, hw, rfl⟩, hg, rfl⟩, ho, rfl⟩
  refine ⟨?_, ?_, ((hj.2.append hw.2).append hg.2).append ho.2⟩
  · intro c hc
    simp only [List.mem_append] at hc
    rcases hc with ((hc | hc) | hc) | hc
    · exact hj.1 c hc
    · exact hw.1 c hc
    · exact hg.1 c hc
    · exact ho.1 c hc
  · cases j <;> cases w <;> cases g <;> cases o <;> simp [Clause.rank]

theorem endOfText_read_eq_some {s r : List Char} {u : Unit} (h : endOfText.read s = some (u, r)) :
    s = [] ∧ r = [] := by
  cases s with
  | nil =>
      cases h
      exact ⟨rfl, rfl⟩
  | cons c rest => cases h

/-- The end of a text is read as no token. -/
theorem endOfText_sound : endOfText.Sound fun _ ts => ts = [] := by
  refine .named (.silent (.of_nil (x := ()) rfl) ?_) _
  intro s u r h
  obtain ⟨rfl, rfl⟩ := endOfText_read_eq_some h
  exact ⟨[], rfl, .nil []⟩

theorem statement_sound : statement.Sound fun s ts => s.WellFormed ∧ s.HasTokens ts := by
  have hend : ((optional (token ';')).spaced endOfText).Sound fun _ ts =>
      ∃ full, ts = endTokens full := by
    refine (Sound.spaced (.optional (token_sound .semicolon)) endOfText_sound).imp ?_
    rintro ⟨o, _⟩ ts ⟨_, _, ho, rfl, rfl⟩
    cases o with
    | none => exact ⟨false, by rw [ho]; rfl⟩
    | some _ => exact ⟨true, by rw [ho]; rfl⟩
  refine .named (.map (.afterSpace (.spacedLeft (.spaced
    (.spacedRight (keyword_sound .select) (.spacedLeft selection_sound (keyword_sound .fromWord)))
      (.spaced tableRef_sound clauses_sound)) hend)) ?_) _
  rintro ⟨sel, t, cs⟩ ts ⟨_, _, ⟨_, _, ⟨_, _, rfl, ⟨_, _, ⟨hsel, rfl⟩, rfl, rfl⟩, rfl⟩,
    ⟨_, us, ⟨ht, rfl⟩, ⟨hcs, hord, hus⟩, rfl⟩, rfl⟩, ⟨full, rfl⟩, rfl⟩
  exact ⟨⟨hsel, ht, hcs, hord⟩, us, full, hus, by simp⟩

end Reader

end AskTables.Grammar
