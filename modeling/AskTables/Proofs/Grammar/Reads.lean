import AskTables.Proofs.Grammar.Sound
import AskTables.Proofs.Text.Ascii

/-!
# Reading written text

`Reader.Reads p x ts N` says that the reader `p` reads `x` off every text that writes the tokens
`ts`, provided that what follows them satisfies `N`.  The reader may stop before the white space
that follows, so the texts it leaves are compared after their white space.

Readers are greedy and never go back, so `N` has to say that the text that follows begins with
nothing the reader would still take up.  All the grammar needs is `Next X K`: the text is at
its end, or at one of some signs, or at one of some keywords.

This file has the tokens and the combinations of readers.  The phrases of the grammar are put
together from them.
-/

namespace AskTables.Grammar

/-! ## The front of a token -/

/-- The parts of a token are well formed. -/
def Token.WellFormed : Token → Prop
  | .keyword _ | .sign _ => True
  | .name s => IsIdentifier s.toList
  | .column c => c.WellFormed
  | .quoted s => '\'' ∉ s.toList
  | .number s => IsNumeral s.toList

/-- Letters of a keyword are letters of a word. -/
theorem Keyword.isWordChar_letters (k : Keyword) : ∀ c ∈ k.letters, isWordChar c := by
  have h : k.letters.all isWordChar = true := by cases k <;> rfl
  exact List.all_eq_true.1 h

theorem Keyword.letters_ne_nil (k : Keyword) : k.letters ≠ [] := by
  cases k <;> decide

theorem Keyword.letters_injective {k l : Keyword} (h : k.letters = l.letters) : k = l := by
  have hfind : ∀ k : Keyword,
      (Keyword.avg :: .sum :: .count :: Keyword.reserved).find? (·.letters = k.letters) =
        some k := by
    intro k
    cases k <;> rfl
  have hk := hfind k
  rw [h, hfind l] at hk
  exact (Option.some.inj hk).symm

/-- A keyword is a word, in whatever case it is written. -/
theorem isWordChar_of_map_toLower {k : Keyword} {w : List Char}
    (h : w.map Char.toLower = k.letters) : ∀ c ∈ w, isWordChar c := by
  intro c hc
  rw [← isWordChar_toLower]
  refine k.isWordChar_letters _ ?_
  rw [← h]
  exact List.mem_map_of_mem hc

theorem IsName.all_isWordChar {w : List Char} (h : IsName w) : ∀ c ∈ w, isWordChar c := by
  obtain ⟨c, rest, rfl, hc, hrest⟩ := h
  intro d hd
  rw [isWordChar, Bool.or_eq_true, beq_iff_eq]
  rcases List.mem_cons.1 hd with rfl | hd
  · rcases hc with hc | hc
    · exact .inl (by simp [Char.isAlphanum, hc])
    · exact .inr hc
  · exact hrest d hd

theorem IsName.ne_nil {w : List Char} (h : IsName w) : w ≠ [] := by
  obtain ⟨c, rest, rfl, _⟩ := h
  exact List.cons_ne_nil c rest

theorem IsIdentifier.all_isWordChar {w : List Char} (h : IsIdentifier w) :
    ∀ c ∈ w, isWordChar c :=
  h.1.all_isWordChar

theorem IsIdentifier.ne_nil {w : List Char} (h : IsIdentifier w) : w ≠ [] := h.1.ne_nil

/-- The word at the front of a text, when the text says where it ends. -/
theorem wordOf_append {w m : List Char} (hw : ∀ c ∈ w, isWordChar c) (hm : ¬ StartsWord m) :
    wordOf (w ++ m) = w ∧ (w ++ m).dropWhile isWordChar = m := by
  refine Text.span_run hw fun c hc => ?_
  obtain ⟨rest, rfl⟩ := List.head?_eq_some_iff.1 hc
  rw [Bool.eq_false_iff]
  exact fun h => hm ⟨c, rest, rfl, h⟩

theorem Sign.isSpace_char (x : Sign) : isSpace x.char = false := by
  cases x <;> decide

theorem Sign.isWordChar_char (x : Sign) : isWordChar x.char = false := by
  cases x <;> decide

theorem head_of_isWordChar {w : List Char} (hne : w ≠ []) (hw : ∀ c ∈ w, isWordChar c) :
    ∃ c rest, w = c :: rest ∧ isWordChar c := by
  cases w with
  | nil => exact absurd rfl hne
  | cons c rest => exact ⟨c, rest, rfl, hw c (by simp)⟩

theorem IsIdentifier.head {w : List Char} (h : IsIdentifier w) :
    ∃ c rest, w = c :: rest ∧ isWordChar c :=
  head_of_isWordChar h.ne_nil h.all_isWordChar

/-- A numeral begins with a minus sign or a digit. -/
theorem IsNumeral.head {w : List Char} (h : IsNumeral w) :
    ∃ c rest, w = c :: rest ∧ (c = '-' ∨ c.isDigit) := by
  obtain ⟨sign, whole, fraction, rfl, hs, ⟨hne, hw⟩, _⟩ := h
  rcases hs with rfl | rfl
  · cases whole with
    | nil => exact absurd rfl hne
    | cons c rest => exact ⟨c, rest ++ fraction, by simp, .inr (hw c (by simp))⟩
  · exact ⟨'-', whole ++ fraction, by simp, .inl rfl⟩

/-- What spells a word begins with a character of a word. -/
theorem Token.WellFormed.head_isWordChar {t : Token} {w : List Char} (ht : t.WellFormed)
    (hword : t.isWord) (hw : t.Spells w) : ∃ c rest, w = c :: rest ∧ isWordChar c := by
  cases t with
  | keyword k =>
      refine head_of_isWordChar ?_ (isWordChar_of_map_toLower hw)
      rintro rfl
      exact k.letters_ne_nil hw.symm
  | name s =>
      cases hw
      exact IsIdentifier.head ht
  | column c =>
      cases hw
      obtain ⟨table, name⟩ := c
      cases table with
      | none => exact ht.name.head
      | some q =>
          obtain ⟨c, rest, he, hc⟩ := (ht.table q rfl).head
          exact ⟨c, rest ++ '.' :: name.toList, by simp [Column.text, he], hc⟩
  | quoted s => cases hword
  | number s => cases hword
  | sign x => cases hword

/-- What spells a token begins with a character that is no white space. -/
theorem Token.WellFormed.head_isSpace {t : Token} {w : List Char} (ht : t.WellFormed)
    (hw : t.Spells w) : ∃ c rest, w = c :: rest ∧ isSpace c = false := by
  by_cases hword : t.isWord = true
  · obtain ⟨c, rest, he, hc⟩ := ht.head_isWordChar hword hw
    exact ⟨c, rest, he, isSpace_of_isWordChar hc⟩
  · cases t with
    | keyword k => exact absurd rfl hword
    | name s => exact absurd rfl hword
    | column c => exact absurd rfl hword
    | quoted s => exact ⟨'\'', s.toList ++ ['\''], hw, by decide⟩
    | number s =>
        cases hw
        obtain ⟨c, rest, he, hc⟩ := IsNumeral.head ht
        refine ⟨c, rest, he, ?_⟩
        rcases hc with rfl | hc
        · decide
        · exact isSpace_of_isWordChar (by simp [isWordChar, Char.isAlphanum, hc])
    | sign x => exact ⟨x.char, [], hw, x.isSpace_char⟩

/-- The first token of a text stands right after the white space. -/
theorem Writes.cons_inv {t : Token} {ts : List Token} {s r : List Char} (ht : t.WellFormed)
    (h : Writes (t :: ts) s r) : ∃ w m, skipSpace s = w ++ m ∧ t.Spells w ∧
      (t.isWord → ¬ StartsWord m) ∧ Writes ts m r := by
  cases h with
  | @token _ _ gap w m _ hg hw hm h =>
      refine ⟨w, m, ?_, hw, hm, h⟩
      obtain ⟨c, rest, rfl, hc⟩ := ht.head_isSpace hw
      rw [skipSpace_gap hg]
      exact skipSpace_cons hc

/-- Where a word is written a word begins. -/
theorem Writes.startsWord {t : Token} {ts : List Token} {s r : List Char} (ht : t.WellFormed)
    (hword : t.isWord) (h : Writes (t :: ts) s r) : StartsWord (skipSpace s) := by
  obtain ⟨w, m, hs, hw, _, _⟩ := h.cons_inv ht
  obtain ⟨c, rest, rfl, hc⟩ := ht.head_isWordChar hword hw
  exact ⟨c, rest ++ m, hs, hc⟩

/-- The white space before the first token may be left out. -/
theorem Writes.skip {t : Token} {ts : List Token} {s r : List Char} (ht : t.WellFormed)
    (h : Writes (t :: ts) s r) : Writes (t :: ts) (skipSpace s) r := by
  obtain ⟨w, m, hs, hw, hm, h⟩ := h.cons_inv ht
  rw [hs]
  exact .token (g := []) isGap_nil hw hm h

/-! ## What may follow -/

/-- After its white space, a text is at its end, at one of some signs or at one of some keywords. -/
def Next (X : List Sign) (K : List Keyword) (s : List Char) : Prop :=
  skipSpace s = [] ∨ (∃ x ∈ X, ∃ m, skipSpace s = x.char :: m) ∨
    ∃ k ∈ K, k.spells (wordOf (skipSpace s)) = true

namespace Next

variable {X X' : List Sign} {K K' : List Keyword} {s r : List Char}

theorem mono (h : Next X K s) (hs : X ⊆ X') (hw : K ⊆ K') :
    Next X' K' s := by
  rcases h with h | ⟨x, hx, h⟩ | ⟨k, hk, h⟩
  · exact .inl h
  · exact .inr (.inl ⟨x, hs hx, h⟩)
  · exact .inr (.inr ⟨k, hw hk, h⟩)

/-- The end of a text. -/
theorem nil : Next X K [] := .inl rfl

theorem of_sign {x : Sign} {ts : List Token} (h : Writes (.sign x :: ts) s r) (hx : x ∈ X) :
    Next X K s := by
  obtain ⟨w, m, hs, hw, _, _⟩ := h.cons_inv (t := .sign x) trivial
  refine .inr (.inl ⟨x, hx, m, ?_⟩)
  rw [hs, hw]
  rfl

theorem of_keyword {k : Keyword} {ts : List Token} (h : Writes (.keyword k :: ts) s r)
    (hk : k ∈ K) : Next X K s := by
  obtain ⟨w, m, hs, hw, hm, _⟩ := h.cons_inv (t := .keyword k) trivial
  refine .inr (.inr ⟨k, hk, ?_⟩)
  rw [hs, (wordOf_append (isWordChar_of_map_toLower hw) (hm rfl)).1]
  simpa [Keyword.spells, Token.Spells] using hw

/-- White space in front makes no difference. -/
theorem of_skipSpace_eq (h : skipSpace s = skipSpace r) (hr : Next X K r) : Next X K s := by
  unfold Next
  rw [h]
  exact hr

/-- Behind white space the same follows. -/
theorem of_writes_nil (h : Writes [] s r) (hr : Next X K r) : Next X K s :=
  of_skipSpace_eq h.skipSpace_eq hr

end Next

theorem Keyword.isLower_letters (k : Keyword) : ∀ c ∈ k.letters, c.isLower := by
  have h : k.letters.all Char.isLower = true := by cases k <;> rfl
  exact List.all_eq_true.1 h

/-- A word that a keyword spells begins with a letter. -/
theorem Keyword.spells_head {k : Keyword} {s : List Char} (h : k.spells (wordOf s) = true) :
    ∃ c m, s = c :: m ∧ c.isAlpha = true := by
  have h' : (wordOf s).map Char.toLower = k.letters := by simpa [Keyword.spells] using h
  cases s with
  | nil => exact absurd h'.symm k.letters_ne_nil
  | cons c m =>
      refine ⟨c, m, rfl, ?_⟩
      have hc : c.toLower ∈ k.letters := by
        by_cases hw : isWordChar c = true
        · rw [← h']
          exact List.mem_map_of_mem (by simp [wordOf, hw])
        · rw [wordOf, List.takeWhile_cons_of_neg hw] at h'
          exact absurd h'.symm k.letters_ne_nil
      have hl := k.isLower_letters _ hc
      rw [Text.isLower_iff, Text.toNat_toLower] at hl
      rw [Text.isAlpha_iff]
      split at hl
      · exact .inl ‹_›
      · exact .inr hl

theorem Sign.char_injective {x y : Sign} (h : x.char = y.char) : x = y := by
  cases x <;> cases y <;> first | rfl | exact absurd h (by decide)

theorem Sign.not_isAlpha_char (x : Sign) : x.char.isAlpha = false := by
  cases x <;> decide

namespace Next

variable {X : List Sign} {K : List Keyword} {s : List Char}

/-- The first character of what follows. -/
theorem cases_head (h : Next X K s) : skipSpace s = [] ∨
    ∃ c m, skipSpace s = c :: m ∧ ((∃ x ∈ X, c = x.char) ∨ c.isAlpha = true) := by
  rcases h with h | ⟨x, hx, m, h⟩ | ⟨k, hk, h⟩
  · exact .inl h
  · exact .inr ⟨x.char, m, h, .inl ⟨x, hx, rfl⟩⟩
  · obtain ⟨c, m, he, hc⟩ := Keyword.spells_head h
    exact .inr ⟨c, m, he, .inr hc⟩

/-- The first character of what follows, white space included. -/
theorem head (h : Next X K s) : s = [] ∨
    ∃ c m, s = c :: m ∧ (isSpace c = true ∨ (∃ x : Sign, c = x.char) ∨ c.isAlpha = true) := by
  cases s with
  | nil => exact .inl rfl
  | cons c m =>
      refine .inr ⟨c, m, rfl, ?_⟩
      by_cases hc : isSpace c = true
      · exact .inl hc
      · have hs := skipSpace_cons (s := m) (Bool.eq_false_iff.2 hc)
        rcases h.cases_head with h | ⟨d, m', h, hd⟩
        · rw [hs] at h
          cases h
        · rw [hs] at h
          cases h
          rcases hd with ⟨x, _, hx⟩ | hd
          · exact .inr (.inl ⟨x, hx⟩)
          · exact .inr (.inr hd)

/-- A keyword that follows is one of those that may. -/
theorem mem_of_spells (h : Next X K s) {k : Keyword}
    (hk : k.spells (wordOf (skipSpace s)) = true) : k ∈ K := by
  obtain ⟨c, m, he, hc⟩ := Keyword.spells_head hk
  rcases h with h | ⟨x, hx, m', h⟩ | ⟨l, hl, h⟩
  · rw [he] at h
    cases h
  · rw [he] at h
    cases h
    rw [x.not_isAlpha_char] at hc
    cases hc
  · simp only [Keyword.spells, beq_iff_eq] at hk h
    rwa [Keyword.letters_injective (hk.symm.trans h)]

end Next

namespace Reader

/-! ## Readers that stop -/

section
variable {X : List Sign} {K : List Keyword} {s : List Char}

/-- A keyword that may not follow is not read. -/
theorem keyword_read_eq_none (h : Next X K s) {k : Keyword} (hk : k ∉ K) :
    (keyword k).read (skipSpace s) = none :=
  if_neg fun hs => hk (h.mem_of_spells hs)

theorem token_read_eq_none (h : Next X K s) {x : Sign} (hx : x ∉ X) :
    (token x.char).read (skipSpace s) = none := by
  rcases h.cases_head with h | ⟨c, m, h, hc⟩
  · rw [h]
    rfl
  · rw [h]
    refine if_neg ?_
    rintro rfl
    rcases hc with ⟨y, hy, he⟩ | hc
    · exact hx (Sign.char_injective he ▸ hy)
    · rw [x.not_isAlpha_char] at hc
      cases hc

/-- No name is read where only reserved keywords may follow. -/
theorem ident_read_eq_none (h : Next X K s) (hw : K ⊆ Keyword.reserved) :
    ident.read (skipSpace s) = none := by
  refine if_neg fun hi => ?_
  rw [isIdentifier_iff] at hi
  obtain ⟨⟨c, rest, he, _⟩, hkey⟩ := hi
  rcases h with h | ⟨x, _, m, h⟩ | ⟨k, hk, h⟩
  · rw [h] at he
    cases he
  · rw [h, wordOf, List.takeWhile_cons_of_neg (by simp [x.isWordChar_char])] at he
    cases he
  · exact hkey k (hw hk) (by simpa [Keyword.spells] using h)

end

/-- A reader that reads a value off every text that writes some tokens and goes on as it may. -/
def Reads {α : Type} (p : Reader α) (x : α) (ts : List Token) (N : List Char → Prop) : Prop :=
  ∀ s r, Writes ts s r → N r → ∃ r', p.read (skipSpace s) = some (x, r') ∧
    skipSpace r' = skipSpace r

/-! ## Combinations -/

section
variable {α β : Type} {p : Reader α} {q : Reader β} {x : α} {y : β} {ts us : List Token}
  {N N' : List Char → Prop}

theorem Reads.named (h : p.Reads x ts N) (symbol : Symbol) : (named symbol p).Reads x ts N := h

/-- What is made of the value is read off the same text. -/
theorem Reads.map (h : p.Reads x ts N) (f : α → β) : (p.map f).Reads (f x) ts N := by
  intro s r hw hr
  obtain ⟨r', hx, he⟩ := h s r hw hr
  exact ⟨r', by simp only [Reader.map, hx, Option.map_some], he⟩

/-- Fewer texts may follow. -/
theorem Reads.follow (h : p.Reads x ts N) (hN : ∀ r, N' r → N r) : p.Reads x ts N' :=
  fun s r hw hr => h s r hw (hN r hr)

/-- Two readers in a row read two texts in a row, if the second is what may follow the first. -/
theorem Reads.spaced (hp : p.Reads x ts N) (hq : q.Reads y us N')
    (hN : ∀ m r, Writes us m r → N' r → N m) : (p.spaced q).Reads (x, y) (ts ++ us) N' := by
  intro s r hw hr
  obtain ⟨m, hts, hus⟩ := hw.split
  obtain ⟨m', hx, hm⟩ := hp s m hts (hN m r hus hr)
  obtain ⟨r', hy, he⟩ := hq m r hus hr
  rw [← hm] at hy
  exact ⟨r', by simp only [Reader.spaced, seq, afterSpace, hx, hy, Option.map_some], he⟩

theorem Reads.spacedLeft (hp : p.Reads x ts N) (hq : q.Reads y us N')
    (hN : ∀ m r, Writes us m r → N' r → N m) : (p.spacedLeft q).Reads x (ts ++ us) N' :=
  (hp.spaced hq hN).map Prod.fst

theorem Reads.spacedRight (hp : p.Reads x ts N) (hq : q.Reads y us N')
    (hN : ∀ m r, Writes us m r → N' r → N m) : (p.spacedRight q).Reads y (ts ++ us) N' :=
  (hp.spaced hq hN).map Prod.snd

/-- The first choice is taken whenever it reads. -/
theorem Reads.orElse_left (h : p.Reads x ts N) (q : Reader α) : (p.orElse q).Reads x ts N := by
  intro s r hw hr
  obtain ⟨r', hx, he⟩ := h s r hw hr
  exact ⟨r', by simp only [orElse, hx], he⟩

/-- The second choice is taken where the first does not read. -/
theorem Reads.orElse_right {q : Reader α} (hq : q.Reads x ts N)
    (hp : ∀ s r, Writes ts s r → N r → p.read (skipSpace s) = none) :
    (p.orElse q).Reads x ts N := by
  intro s r hw hr
  obtain ⟨r', hx, he⟩ := hq s r hw hr
  exact ⟨r', by simp only [orElse, hp s r hw hr, hx], he⟩

theorem Reads.optional_some (h : p.Reads x ts N) : (optional p).Reads (some x) ts N := by
  intro s r hw hr
  obtain ⟨r', hx, he⟩ := h s r hw hr
  exact ⟨r', by simp only [optional, hx], he⟩

/-- Nothing is read where the reader does not read what follows. -/
theorem Reads.optional_none (h : ∀ r, N r → p.read (skipSpace r) = none) :
    (optional p).Reads none [] N := by
  intro s r hw hr
  refine ⟨skipSpace s, ?_, ?_⟩
  · simp only [optional, hw.skipSpace_eq, h r hr]
  · rw [skipSpace_skipSpace, hw.skipSpace_eq]

/-- The items of a row are read one after the other, and the row ends where no item can begin.  The
text is given up to its white space, since the item before may have stopped before it. -/
theorem Reads.readRow {tokens : α → List Token} (xs : List α)
    (hp : ∀ x ∈ xs, p.Reads x (tokens x) N) (hstop : ∀ r, N' r → p.read (skipSpace r) = none)
    (hend : ∀ m r, Writes [] m r → N' r → N m)
    (hitem : ∀ x ts m r, Writes (tokens x ++ ts) m r → N m) {n : Nat} (hn : xs.length ≤ n)
    {s s' r : List Char} (hs : skipSpace s' = skipSpace s) (hw : Writes (xs.flatMap tokens) s r)
    (hr : N' r) : ∃ r', readRow p n s' = (xs, r') ∧ skipSpace r' = skipSpace r := by
  induction xs generalizing n s s' with
  | nil =>
      have he : skipSpace s' = skipSpace r := hs.trans hw.skipSpace_eq
      refine ⟨s', ?_, he⟩
      cases n with
      | zero => rfl
      | succ n => simp only [Reader.readRow, he, hstop r hr]
  | cons x xs ih =>
      cases n with
      | zero => cases hn
      | succ n =>
          rw [List.flatMap_cons] at hw
          obtain ⟨m, hx, hxs⟩ := hw.split
          have hm : N m := by
            cases xs with
            | nil => exact hend m r hxs hr
            | cons y ys => exact hitem y _ m r hxs
          obtain ⟨m', hread, hme⟩ := hp x (by simp) s m hx hm
          obtain ⟨r', hrow, he⟩ :=
            ih (fun y hy => hp y (by simp [hy])) (Nat.le_of_succ_le_succ hn) hme hxs
          exact ⟨r', by simp only [Reader.readRow, hs, hread, hrow], he⟩

end

/-! ## Tokens -/

/-- Every text may follow. -/
def Any (_ : List Char) : Prop := True

/-- A keyword is read in any case, to the end of its word. -/
theorem keyword_reads (k : Keyword) : (keyword k).Reads () [.keyword k] Any := by
  intro s r h _
  obtain ⟨w, m, hs, hw, hm, h⟩ := h.cons_inv (t := .keyword k) trivial
  obtain ⟨hword, hrest⟩ := wordOf_append (isWordChar_of_map_toLower hw) (hm rfl)
  refine ⟨m, ?_, h.skipSpace_eq⟩
  have hk : k.spells w = true := by simpa [Keyword.spells, Token.Spells] using hw
  rw [hs]
  simp only [keyword, named, silent, hword, hrest, hk, if_true]

theorem token_reads (x : Sign) : (token x.char).Reads () [.sign x] Any := by
  intro s r h _
  obtain ⟨w, m, hs, hw, _, h⟩ := h.cons_inv (t := .sign x) trivial
  refine ⟨m, ?_, h.skipSpace_eq⟩
  rw [hs, hw]
  exact if_pos rfl

/-- An identifier that ends where it must is read in full. -/
theorem ident_read_append {x : String} {m : List Char} (hx : IsIdentifier x.toList)
    (hm : ¬ StartsWord m) : ident.read (x.toList ++ m) = some (x, m) := by
  obtain ⟨hword, hrest⟩ := wordOf_append (IsIdentifier.all_isWordChar hx) hm
  have hi : isIdentifier x.toList = true := (isIdentifier_iff _).2 hx
  simp only [ident, named, silent, hword, hrest, hi, if_true, String.ofList_toList]

/-- A name is read to the end of its word. -/
theorem ident_reads {x : String} (hx : IsIdentifier x.toList) :
    ident.Reads x [.name x] Any := by
  intro s r h _
  obtain ⟨w, m, hs, rfl, hm, h⟩ := h.cons_inv (t := .name x) hx
  refine ⟨m, ?_, h.skipSpace_eq⟩
  rw [hs]
  exact ident_read_append hx (hm rfl)

variable {X : List Sign} {K : List Keyword}

/-- A column is read in full, since no point follows it. -/
theorem column_reads {c : Column} (hc : c.WellFormed) :
    column.Reads c [.column c] (Next X K) := by
  intro s r h hr
  obtain ⟨table, name⟩ := c
  obtain ⟨w, m, hs, hw, hword, hrest⟩ := h.cons_inv (t := .column _) hc
  refine ⟨m, ?_, hrest.skipSpace_eq⟩
  have hm : ¬ StartsWord m := hword rfl
  rw [hs, hw, column_read]
  cases table with
  | none =>
      have hpoint : ((token '.').seq ident).read m = none := by
        rcases (Next.of_writes_nil hrest hr).head with rfl | ⟨d, m', rfl, hd⟩
        · rfl
        · have hne : d ≠ '.' := by
            rintro rfl
            rcases hd with hd | ⟨x, hx⟩ | hd
            · exact absurd hd (by decide)
            · exact absurd hx (by cases x <;> decide)
            · exact absurd hd (by decide)
          simp [seq, token, silent, hne]
      simp only [Column.text, ident_read_append hc.name hm, hpoint]
  | some t =>
      have hpoint : ((token '.').seq ident).read ('.' :: (name.toList ++ m)) =
          some (((), name), m) := by
        simp [seq, token, silent, ident_read_append hc.name hm]
      have htext : (Column.text ⟨some t, name⟩).toList ++ m =
          t.toList ++ '.' :: (name.toList ++ m) := by
        simp [Column.text]
      have hstop : ¬ StartsWord ('.' :: (name.toList ++ m)) := by
        rintro ⟨d, rest, he, hd⟩
        cases he
        exact absurd hd (by decide)
      rw [htext, ident_read_append (hc.table t rfl) hstop]
      simp only [hpoint]

/-! ## Literals -/

/-- A quoted text is read to its closing quote. -/
theorem quoted_reads {v : String} (hv : '\'' ∉ v.toList) : quoted.Reads v [.quoted v] Any := by
  intro s r h _
  obtain ⟨w, m, hs, hw, _, h⟩ := h.cons_inv (t := .quoted v) hv
  refine ⟨m, ?_, h.skipSpace_eq⟩
  have hq : ∀ c ∈ v.toList, isQuotable c := by
    intro c hc
    simp only [isQuotable, bne_iff_ne, ne_eq]
    rintro rfl
    exact hv hc
  rw [hs, hw, quoted_read]
  simp only [List.cons_append, List.append_assoc, List.takeWhile_append_of_pos hq,
    List.dropWhile_append_of_pos hq]
  simp [isQuotable]

/-- Digits are read up to what is none. -/
theorem digits?_append {ds m : List Char} (hd : IsDigits ds)
    (hm : ∀ c rest, m = c :: rest → c.isDigit = false) : digits? (ds ++ m) = some (ds, m) := by
  obtain ⟨hne, hall⟩ := hd
  have hhead : ∀ c ∈ m.head?, c.isDigit = false := by
    intro c hc
    obtain ⟨rest, rfl⟩ := List.head?_eq_some_iff.1 hc
    exact hm c rest rfl
  obtain ⟨htake, hdrop⟩ := Text.span_run hall hhead
  simp only [digits?, htake, hdrop]

/-- After a number stands neither a digit nor a point. -/
theorem number_head {m : List Char} (h : Next X K m) :
    ∀ c rest, m = c :: rest → c.isDigit = false ∧ c ≠ '.' := by
  intro c rest he
  rcases h.head with h | ⟨d, m', h, hd⟩
  · rw [he] at h
    cases h
  · rw [he] at h
    cases h
    rcases hd with hd | ⟨x, rfl⟩ | hd
    · rw [isSpace_iff] at hd
      rw [Bool.eq_false_iff, ne_eq, Text.isDigit_iff, ne_eq, Text.eq_iff_toNat]
      have : '.'.toNat = 46 := rfl
      omega
    · cases x <;> decide
    · rw [Text.isAlpha_iff] at hd
      rw [Bool.eq_false_iff, ne_eq, Text.isDigit_iff, ne_eq, Text.eq_iff_toNat]
      have : '.'.toNat = 46 := rfl
      omega

/-- A numeral is read up to what goes on with neither digits nor a point. -/
theorem unsigned?_append {whole fraction m : List Char} (hw : IsDigits whole)
    (hf : fraction = [] ∨ ∃ ds, fraction = '.' :: ds ∧ IsDigits ds)
    (hm : ∀ c rest, m = c :: rest → c.isDigit = false ∧ c ≠ '.') :
    unsigned? (whole ++ fraction ++ m) = some (whole ++ fraction, m) := by
  have hdigit : ∀ c rest, m = c :: rest → c.isDigit = false := fun c rest he => (hm c rest he).1
  rcases hf with rfl | ⟨ds, rfl, hds⟩
  · have hnone : Reader.fraction m = ([], m) := by
      unfold Reader.fraction
      split
      · exact absurd rfl (hm _ _ rfl).2
      · rfl
    simp [unsigned?, digits?_append hw hdigit, hnone]
  · have hpoint : ∀ c rest, '.' :: (ds ++ m) = c :: rest → c.isDigit = false := by
      intro c rest he
      cases he
      decide
    have hsome : Reader.fraction ('.' :: (ds ++ m)) = ('.' :: ds, m) := by
      simp [Reader.fraction, digits?_append hds hdigit]
    simp [unsigned?, digits?_append hw hpoint, hsome]

theorem numberText?_append {w m : List Char} (hw : IsNumeral w)
    (hm : ∀ c rest, m = c :: rest → c.isDigit = false ∧ c ≠ '.') :
    numberText? (w ++ m) = some (w, m) := by
  obtain ⟨sign, whole, fraction, rfl, hs, hwhole, hf⟩ := hw
  have hu := unsigned?_append hwhole hf hm
  rcases hs with rfl | rfl
  · obtain ⟨hne, hall⟩ := hwhole
    cases whole with
    | nil => exact absurd rfl hne
    | cons c rest =>
        have hc : c ≠ '-' := by
          rintro rfl
          exact absurd (hall '-' (by simp)) (by decide)
        rw [List.nil_append]
        simp only [List.cons_append] at hu ⊢
        rw [numberText?]
        · exact hu
        · intro rest' he
          exact hc (List.cons.inj he).1
  · have he : ['-'] ++ whole ++ fraction ++ m = '-' :: (whole ++ fraction ++ m) := by simp
    rw [he, numberText?, hu]
    simp

/-- A number may be followed by anything that follows a token. -/
theorem number_reads {v : String} (hv : IsNumeral v.toList) :
    number.Reads v [.number v] (Next X K) := by
  intro s r h hr
  obtain ⟨w, m, hs, hw, _, h⟩ := h.cons_inv (t := .number v) hv
  refine ⟨m, ?_, h.skipSpace_eq⟩
  have hn := numberText?_append hv (number_head (Next.of_writes_nil h hr))
  rw [hs, hw]
  simp only [number, named, silent, hn, Option.map_some, String.ofList_toList]

/-- A literal is read off each of its spellings. -/
theorem literal_reads {v : String} {t : Token} (hv : '\'' ∉ v.toList) (ht : IsLiteral v t) :
    literal.Reads v [t] (Next X K) := by
  intro s r h hr
  rcases ht with rfl | ⟨rfl, hn⟩
  · obtain ⟨r', h', he⟩ := quoted_reads hv s r h trivial
    refine ⟨r', ?_, he⟩
    simp only [literal, named, orElse, h']
  · obtain ⟨r', h', he⟩ := number_reads hn s r h hr
    refine ⟨r', ?_, he⟩
    obtain ⟨w, m, hs, hw, _, _⟩ := h.cons_inv (t := .number v) hn
    have hq : quoted.read (skipSpace s) = none := by
      obtain ⟨c, rest, hc, hcd⟩ := hn.head
      have hne : c ≠ '\'' := by
        rintro rfl
        rcases hcd with hcd | hcd
        · exact absurd hcd (by decide)
        · exact absurd hcd (by decide)
      rw [hs, hw, hc, List.cons_append, quoted_read]
      split
      · rename_i heq
        exact absurd (List.cons.inj heq).1 hne
      · rfl
    simp only [literal, named, orElse, hq, h']

/-! ## Lists with commas -/

/-- A comma is a character of its own, so a text has room for all its commas. -/
theorem count_comma_le {ts : List Token} {s r : List Char} (h : Writes ts s r) :
    ts.count (.sign .comma) ≤ s.length := by
  induction h with
  | done _ => simp
  | @token t ts gap w m r _ hw _ _ ih =>
      by_cases ht : t = .sign .comma
      · subst ht
        cases hw
        simp only [List.count_cons_self, List.length_append, List.length_singleton]
        omega
      · rw [List.count_cons_of_ne ht]
        simp only [List.length_append]
        omega

/-- There are no more items than commas, which bounds how often a list goes on. -/
theorem length_le_count_comma {α : Type} (tokens : α → List Token) (xs : List α) :
    xs.length ≤ (xs.flatMap fun x => .sign .comma :: tokens x).count (.sign .comma) := by
  induction xs with
  | nil => simp
  | cons x xs ih =>
      simp only [List.length_cons, List.flatMap_cons, List.count_append, List.count_cons_self]
      omega

/-- A list with commas is read in full, unless a comma follows it. -/
theorem Reads.commaList {α : Type} {p : Reader α} {tokens : α → List Token} {xs : List α}
    (hne : xs ≠ []) (hp : ∀ x ∈ xs, p.Reads x (tokens x) (Next (.comma :: X) K))
    (hcomma : Sign.comma ∉ X) :
    (commaList p).Reads xs (commas (xs.map tokens)) (Next X K) := by
  have hstop : ∀ r, Next X K r →
      ((token ',').spacedRight p).read (skipSpace r) = none := by
    intro r hr
    have hno : (token ',').read (skipSpace r) = none := token_read_eq_none (x := .comma) hr hcomma
    simp only [Reader.spacedRight, Reader.map, Reader.spaced, seq, hno, Option.map_none]
  have hend : ∀ m r, Writes [] m r → Next X K r → Next (.comma :: X) K m :=
    fun m r hw hr =>
      (Next.of_writes_nil hw hr).mono (List.subset_cons_self _ _) (List.Subset.refl _)
  cases xs with
  | nil => exact absurd rfl hne
  | cons x xs =>
      have hmany : (many ((token ',').spacedRight p)).Reads xs
          (xs.flatMap fun y => .sign .comma :: tokens y) (Next X K) := by
        intro s r hw hr
        have hlen : xs.length ≤ (skipSpace s).length + 1 := by
          cases xs with
          | nil => exact Nat.zero_le _
          | cons y ys =>
              have hcount := count_comma_le (Writes.skip (t := .sign .comma) trivial hw)
              have hitems := length_le_count_comma tokens (y :: ys)
              exact Nat.le_succ_of_le (Nat.le_trans hitems hcount)
        have hitem : ∀ y ∈ xs, ((token ',').spacedRight p).Reads y (.sign .comma :: tokens y)
            (Next (.comma :: X) K) := fun y hy =>
          (token_reads .comma).spacedRight (hp y (by simp [hy])) fun _ _ _ _ => trivial
        have hnext : ∀ y ts m r', Writes (.sign .comma :: tokens y ++ ts) m r' →
            Next (.comma :: X) K m := fun _ _ _ _ hw => .of_sign hw (by simp)
        obtain ⟨r', hrow, he⟩ := Reads.readRow xs hitem hstop hend hnext hlen
          (skipSpace_skipSpace s) hw hr
        exact ⟨r', by simp only [many]; exact congrArg some hrow, he⟩
      rw [List.map_cons, commas_cons, List.flatMap_map]
      refine ((hp x (by simp)).spaced hmany ?_).map fun r => r.1 :: r.2
      intro m r hw hr
      cases xs with
      | nil => exact hend m r hw hr
      | cons y ys => exact Next.of_sign (x := .comma) hw (by simp)

end Reader

end AskTables.Grammar
