import AskTables.Json.Reader
import AskTables.Json.Shape
import Mathlib.Data.List.Forall2

/-!
# Reading what was written

A *plain* value has no number and no garbled string in it.  `Json.parse?` reads every plain value
back from its text, whatever characters its strings hold.

A string is taken apart into pieces, one for each character: the character itself, or the code unit
that an escape names, which is then a control character and so no half of a pair.  Arrays and
objects follow their nesting; the fuel that is left is measured against the characters left.
-/

namespace AskTables.Json

/-! ## Strings -/

/-- A piece that stands for a character.  Control characters without a short escape are named by
their code unit. -/
def Piece.IsOf (c : Char) (p : Piece) : Prop := p = .char c ∨ p = .unit c.toNat ∧ c.toNat < 0x20

/-- The escape of a control character without a short one. -/
theorem hexNumber?_digitChar : ∀ n < 0x20,
    Text.hexNumber? ['0', '0', Nat.digitChar (n / 16), Nat.digitChar (n % 16)] = some n := by
  decide

/-- A character that needs no escape is read as itself. -/
theorem readPieces?_cons {c : Char} {s rest : List Char} {ps : List Piece}
    (hquote : c ≠ '"') (hback : c ≠ '\\') (hc : ¬ c.toNat < 0x20)
    (h : readPieces? s = some (ps, rest)) :
    readPieces? (c :: s) = some (.char c :: ps, rest) := by
  rw [readPieces?]
  · simp [hc, h]
  · exact hquote
  · intro _ _ _ _ _ he
    exact absurd he hback
  · intro _ _ he
    exact absurd he hback

/-- A character is read back as one piece, escaped or not. -/
theorem readPieces?_escapeChar (c : Char) {s rest : List Char} {ps : List Piece}
    (h : readPieces? s = some (ps, rest)) :
    ∃ p, p.IsOf c ∧ readPieces? (escapeChar c ++ s) = some (p :: ps, rest) := by
  unfold escapeChar
  split
  case h_8 hquote hback _ _ _ _ _ =>
    split
    · rename_i hc
      refine ⟨.unit c.toNat, .inr ⟨rfl, hc⟩, ?_⟩
      simp [readPieces?, hexNumber?_digitChar c.toNat hc, h]
    · rename_i hc
      exact ⟨.char c, .inl rfl, readPieces?_cons hquote hback hc h⟩
  all_goals exact ⟨_, .inl rfl, by simp [readPieces?, shortEscape?, h]⟩

/-- An escaped text is read character by character, up to the closing quote. -/
theorem readPieces?_flatMap (cs rest : List Char) :
    ∃ ps, List.Forall₂ Piece.IsOf cs ps ∧
      readPieces? (cs.flatMap escapeChar ++ '"' :: rest) = some (ps, rest) := by
  induction cs with
  | nil => exact ⟨[], .nil, by simp [readPieces?]⟩
  | cons c cs ih =>
      obtain ⟨ps, hps, hread⟩ := ih
      obtain ⟨p, hp, hread⟩ := readPieces?_escapeChar c hread
      refine ⟨p :: ps, .cons hp hps, ?_⟩
      rw [List.flatMap_cons, List.append_assoc]
      exact hread

/-- A code unit that stands for a character alone is joined to nothing. -/
theorem joinPieces?_unit {n : Nat} (hn : n < 0x20) (ps : List Piece) :
    joinPieces? (.unit n :: ps) = (joinPieces? ps).map (Char.ofNat n :: ·) := by
  have hhigh : isHighSurrogate n = false := by simp [isHighSurrogate]; omega
  have hlow : isLowSurrogate n = false := by simp [isLowSurrogate]; omega
  cases ps with
  | nil => simp [joinPieces?, hhigh, hlow]
  | cons p ps => cases p <;> simp [joinPieces?, hhigh, hlow]

/-- What is read of a text is put together to the text. -/
theorem joinPieces?_of_isOf {cs : List Char} {ps : List Piece}
    (h : List.Forall₂ Piece.IsOf cs ps) : joinPieces? ps = some cs := by
  induction h with
  | nil => rfl
  | @cons c p cs ps hp _ ih =>
      rcases hp with rfl | ⟨rfl, hc⟩
      · rw [joinPieces?, ih]
        rfl
      · rw [joinPieces?_unit hc, ih, Char.ofNat_toNat]
        rfl

/-- A string is read back up to its closing quote, whatever characters are in it. -/
theorem readString?_flatMap (s : String) (rest : List Char) :
    readString? (s.toList.flatMap escapeChar ++ '"' :: rest) = some (some s, rest) := by
  obtain ⟨ps, hps, hread⟩ := readPieces?_flatMap s.toList rest
  simp only [readString?, hread, joinPieces?_of_isOf hps, Option.map_some, String.ofList_toList]

/-! ## Plain values -/

/-- Members with their names, none of which is garbled. -/
def named (members : List (String × Json)) : List (Option String × Json) :=
  members.map fun m => (some m.1, m.2)

theorem named_cons (m : String × Json) (members : List (String × Json)) :
    named (m :: members) = (some m.1, m.2) :: named members := rfl

theorem areSound_of_forall {items : List Json} (h : ∀ v ∈ items, v.isSound = true) :
    areSound items = true := by
  induction items with
  | nil => rfl
  | cons v items ih =>
      rw [areSound, h v (by simp), ih fun w hw => h w (by simp [hw])]
      rfl

theorem areSoundMembers_of_forall {members : List (String × Json)}
    (h : ∀ m ∈ members, m.2.isSound = true) :
    areSoundMembers (named members) = true := by
  induction members with
  | nil => rfl
  | cons m members ih =>
      rw [named_cons, areSoundMembers, h m (by simp), ih fun w hw => h w (by simp [hw])]
      rfl

theorem depthOfItems_le {n : Nat} {items : List Json} (h : ∀ v ∈ items, v.depth ≤ n) :
    depthOfItems items ≤ n := by
  induction items with
  | nil => exact Nat.zero_le n
  | cons v items ih =>
      rw [depthOfItems, Nat.max_le]
      exact ⟨h v (by simp), ih fun w hw => h w (by simp [hw])⟩

theorem depthOfMembers_le {n : Nat} {members : List (String × Json)}
    (h : ∀ m ∈ members, m.2.depth ≤ n) : depthOfMembers (named members) ≤ n := by
  induction members with
  | nil => exact Nat.zero_le n
  | cons m members ih =>
      rw [named_cons, depthOfMembers, Nat.max_le]
      exact ⟨h m (by simp), ih fun w hw => h w (by simp [hw])⟩

/-- A value nested at most `n` deep, without numbers and garbled strings. -/
inductive Plain : Nat → Json → Prop where
  | null {n} : Plain n .null
  | bool {n} (b : Bool) : Plain n (.bool b)
  | text {n} (s : String) : Plain n (.ofString s)
  | array {n items} : (∀ v ∈ items, Plain n v) → Plain (n + 1) (.array items)
  | object {n members} : (∀ m ∈ members, Plain n m.2) → Plain (n + 1) (.object (named members))

namespace Plain

variable {n m : Nat} {j : Json}

/-- A bound on the depth may be weakened. -/
theorem mono (h : Plain n j) (hnm : n ≤ m) : Plain m j := by
  induction h generalizing m with
  | null => exact .null
  | bool b => exact .bool b
  | text s => exact .text s
  | array _ ih =>
      obtain ⟨k, rfl⟩ := Nat.exists_eq_add_of_le' (Nat.le_of_add_left_le hnm)
      exact .array fun v hv => ih v hv (by omega)
  | object _ ih =>
      obtain ⟨k, rfl⟩ := Nat.exists_eq_add_of_le' (Nat.le_of_add_left_le hnm)
      exact .object fun v hv => ih v hv (by omega)

/-- In a plain value no string is garbled, and no number is too large. -/
theorem isSound (h : Plain n j) : j.isSound = true := by
  induction h with
  | null => rfl
  | bool b => rfl
  | text s => rfl
  | array _ ih => exact areSound_of_forall ih
  | object _ ih => exact areSoundMembers_of_forall ih

theorem depth_le (h : Plain n j) : j.depth ≤ n := by
  induction h with
  | null => exact Nat.zero_le _
  | bool b => exact Nat.zero_le _
  | text s => exact Nat.zero_le _
  | array _ ih =>
      have hitems := depthOfItems_le ih
      rw [depth]
      omega
  | object _ ih =>
      have hmembers := depthOfMembers_le ih
      rw [depth]
      omega

/-- A plain value that is not nested too deep can be held. -/
theorem canHold (h : Plain n j) {level : Nat} (hlevel : level + n ≤ maxDepth) :
    canHold level j = true := by
  have hdepth : level + j.depth ≤ maxDepth := Nat.le_trans (Nat.add_le_add_left h.depth_le _) hlevel
  simp [Json.canHold, h.isSound, hdepth]

end Plain

/-! ## Reading values -/

theorem skipSpace_cons {c : Char} (hc : isSpace c = false) (s : List Char) :
    skipSpace (c :: s) = c :: s := by
  simp [skipSpace, hc]

theorem skipSpace_append {gap : List Char} (hgap : ∀ c ∈ gap, isSpace c) (s : List Char) :
    skipSpace (gap ++ s) = skipSpace s := by
  rw [skipSpace, skipSpace, List.dropWhile_append_of_pos hgap]

/-- Whether a number may go on with a character. -/
def continuesNumber (c : Char) : Bool := c.isDigit || c == '.' || c == 'e' || c == 'E'

/-- A text that no number before it goes on with. -/
def EndsNumber (rest : List Char) : Prop := ∀ c ∈ rest.head?, continuesNumber c = false

theorem endsNumber_nil : EndsNumber [] := by
  intro c hc
  cases hc

theorem endsNumber_cons {c : Char} (hc : continuesNumber c = false) (s : List Char) :
    EndsNumber (c :: s) := by
  intro d hd
  cases hd
  exact hc

/-- A value that is read back off its own text, if there is fuel for twice the characters and the
text after it is not taken for a part of it. -/
structure ReadsBack (j : Json) : Prop where
  /-- It begins with no white space, and with no character that ends an array. -/
  head : ∃ c s, j.renderChars = c :: s ∧ isSpace c = false ∧ c ≠ ']'
  read : ∀ {fuel rest}, EndsNumber rest → 2 * j.renderChars.length ≤ fuel →
    readAt? fuel (j.renderChars ++ rest) = some (j, rest)

/-- Every text has a character, so one unit of fuel may be taken for granted. -/
theorem ReadsBack.of_succ {j : Json} {c : Char} {s : List Char} (hj : j.renderChars = c :: s)
    (hc : isSpace c = false ∧ c ≠ ']')
    (h : ∀ {fuel rest}, EndsNumber rest → 2 * j.renderChars.length ≤ fuel + 1 →
      readAt? (fuel + 1) (j.renderChars ++ rest) = some (j, rest)) : ReadsBack j := by
  refine ⟨⟨c, s, hj, hc⟩, ?_⟩
  intro fuel rest hrest hfuel
  cases fuel with
  | zero => simp [hj] at hfuel
  | succ fuel => exact h hrest hfuel

theorem readsBack_null : ReadsBack .null :=
  .of_succ (c := 'n') rfl (by decide) fun _ _ => by simp [renderChars, readAt?, readWord?]

theorem readsBack_bool (b : Bool) : ReadsBack (.bool b) := by
  cases b with
  | false =>
      exact .of_succ (c := 'f') rfl (by decide) fun _ _ => by simp [renderChars, readAt?, readWord?]
  | true =>
      exact .of_succ (c := 't') rfl (by decide) fun _ _ => by simp [renderChars, readAt?, readWord?]

/-- Strings are read back, whatever has to be escaped. -/
theorem readsBack_text (s : String) : ReadsBack (.ofString s) := by
  refine .of_succ (c := '"') rfl (by decide) fun _ _ => ?_
  simp [ofString, renderChars, renderString, renderText, readAt?, readString?_flatMap]

/-- Items begin with their first value, so with no bracket that closes. -/
theorem renderItems_head {v : Json} (h : ReadsBack v) (items : List Json) :
    ∃ c s, renderItems (v :: items) = c :: s ∧ isSpace c = false ∧ c ≠ ']' := by
  obtain ⟨c, s, hv, hc⟩ := h.head
  cases items with
  | nil => exact ⟨c, s, by rw [renderItems, hv], hc⟩
  | cons w items => exact ⟨c, _, by rw [renderItems, hv, List.cons_append], hc⟩

/-- Items are read up to the bracket.  The one more unit of fuel is for the first of them, which
starts where the array does. -/
theorem readItems?_renderItems {v : Json} {items : List Json}
    (h : ∀ w ∈ v :: items, ReadsBack w) {fuel : Nat} (rest : List Char)
    (hfuel : 2 * (renderItems (v :: items)).length + 1 ≤ fuel) :
    readItems? fuel (renderItems (v :: items) ++ ']' :: rest) = some (v :: items, rest) := by
  induction items generalizing v fuel with
  | nil =>
      obtain ⟨fuel, rfl⟩ := Nat.exists_eq_add_of_le' (Nat.le_of_add_left_le hfuel)
      rw [renderItems] at hfuel ⊢
      rw [readItems?, (h v (by simp)).read (endsNumber_cons (by decide) _) (by omega)]
      simp only [skipSpace_cons (c := ']') rfl]
  | cons w items ih =>
      obtain ⟨fuel, rfl⟩ := Nat.exists_eq_add_of_le' (Nat.le_of_add_left_le hfuel)
      rw [renderItems, List.length_append, List.length_cons] at hfuel
      obtain ⟨c, s, hw, hc, -⟩ := renderItems_head (h w (by simp)) items
      have hless : 2 * (renderItems (w :: items)).length + 1 ≤ fuel := by omega
      have hrest := ih (fun x hx => h x (by simp [hx])) hless
      rw [renderItems, List.append_assoc, List.cons_append, readItems?,
        (h v (by simp)).read (endsNumber_cons (by decide) _) (by omega)]
      rw [hw, List.cons_append] at hrest ⊢
      simp only [skipSpace_cons (c := ',') rfl, skipSpace_cons hc, hrest, Option.map_some]

/-- Arrays are read back if their items are. -/
theorem readsBack_array {items : List Json} (h : ∀ v ∈ items, ReadsBack v) :
    ReadsBack (.array items) := by
  refine .of_succ (c := '[') rfl (by decide) fun {fuel rest} _ hfuel => ?_
  cases items with
  | nil => simp [renderChars, renderItems, readAt?, skipSpace_cons (c := ']') rfl]
  | cons v items =>
      obtain ⟨c, s, hv, hc, hend⟩ := renderItems_head (h v (by simp)) items
      simp only [renderChars, List.length_cons, List.length_append] at hfuel
      have hless : 2 * (renderItems (v :: items)).length + 1 ≤ fuel := by omega
      have hitems := readItems?_renderItems h rest hless
      rw [hv, List.cons_append] at hitems
      simp only [renderChars, hv, List.cons_append, List.append_assoc, List.nil_append, readAt?,
        skipSpace_cons hc]
      -- A bracket at once would end an empty array, and no value begins with one.
      split
      · rename_i he
        exact absurd (List.cons.inj he).1 hend
      · rw [hitems, Option.map_some]

/-- Members begin with the quote of a name. -/
theorem renderMembers_head (m : String × Json) (members : List (String × Json)) :
    ∃ s, renderMembers (named (m :: members)) = '"' :: s := by
  cases members with
  | nil => exact ⟨_, rfl⟩
  | cons w members => exact ⟨_, rfl⟩

/-- A name is read with its value, whether it is the last or not. -/
theorem readMembers?_cons {name : String} {v : Json} (h : ReadsBack v) {fuel : Nat}
    (rest : List Char) (hfuel : 2 * v.renderChars.length ≤ fuel) :
    readMembers? (fuel + 1) (renderString (some name) ++ ':' :: (v.renderChars ++ '\x7d' :: rest)) =
        some ([(some name, v)], rest) ∧
      readMembers? (fuel + 1) (renderString (some name) ++ ':' :: (v.renderChars ++ ',' :: rest)) =
        (readMembers? fuel (skipSpace rest)).map fun r => ((some name, v) :: r.1, r.2) := by
  obtain ⟨c, s, hv, hc, -⟩ := h.head
  have hread {d : Char} (hd : continuesNumber d = false) (rest : List Char) :=
    h.read (endsNumber_cons hd rest) hfuel
  have hbrace := hread (d := '\x7d') (by decide) rest
  have hcomma := hread (d := ',') (by decide) rest
  simp only [hv, List.cons_append] at hbrace hcomma ⊢
  simp only [renderString, renderText, List.cons_append, List.append_assoc, List.nil_append,
    readMembers?, readString?_flatMap, skipSpace_cons (c := ':') rfl, skipSpace_cons hc, hbrace,
    hcomma, skipSpace_cons (c := '\x7d') rfl, skipSpace_cons (c := ',') rfl, and_self]

/-- Members are read up to the brace. -/
theorem readMembers?_renderMembers {m : String × Json} {members : List (String × Json)}
    (h : ∀ w ∈ m :: members, ReadsBack w.2) {fuel : Nat} (rest : List Char)
    (hfuel : 2 * (renderMembers (named (m :: members))).length + 1 ≤ fuel) :
    readMembers? fuel (renderMembers (named (m :: members)) ++ '\x7d' :: rest) =
      some (named (m :: members), rest) := by
  induction members generalizing m fuel with
  | nil =>
      obtain ⟨fuel, rfl⟩ := Nat.exists_eq_add_of_le' (Nat.le_of_add_left_le hfuel)
      simp only [named, List.map_cons, List.map_nil, renderMembers, List.length_append,
        List.length_cons] at hfuel ⊢
      rw [List.append_assoc, List.cons_append]
      exact (readMembers?_cons (h m (by simp)) rest (by omega)).1
  | cons w members ih =>
      obtain ⟨fuel, rfl⟩ := Nat.exists_eq_add_of_le' (Nat.le_of_add_left_le hfuel)
      obtain ⟨s, hw⟩ := renderMembers_head w members
      rw [named_cons m, named_cons w, renderMembers, ← named_cons w] at hfuel ⊢
      simp only [List.length_append, List.length_cons] at hfuel
      have hless : 2 * (renderMembers (named (w :: members))).length + 1 ≤ fuel := by omega
      have hrest := ih (fun x hx => h x (by simp [hx])) hless
      rw [List.append_assoc, List.cons_append, List.append_assoc, List.cons_append,
        (readMembers?_cons (h m (by simp)) _ (by omega)).2]
      rw [hw, List.cons_append] at hrest ⊢
      rw [skipSpace_cons rfl, hrest, Option.map_some]

/-- Objects are read back if their values are. -/
theorem readsBack_object {members : List (String × Json)} (h : ∀ m ∈ members, ReadsBack m.2) :
    ReadsBack (.object (named members)) := by
  refine .of_succ (c := '\x7b') rfl (by decide) fun {fuel rest} _ hfuel => ?_
  cases members with
  | nil => simp [named, renderChars, renderMembers, readAt?, skipSpace_cons (c := '\x7d') rfl]
  | cons m members =>
      obtain ⟨s, hm⟩ := renderMembers_head m members
      simp only [renderChars, List.length_cons, List.length_append] at hfuel
      have hless : 2 * (renderMembers (named (m :: members))).length + 1 ≤ fuel := by omega
      have hmembers := readMembers?_renderMembers h rest hless
      rw [hm, List.cons_append] at hmembers
      simp only [renderChars, hm, List.cons_append, List.append_assoc, List.nil_append, readAt?,
        skipSpace_cons (c := '"') rfl]
      split
      · rename_i he
        cases he
      · rw [hmembers, Option.map_some]

/-- Every plain value is read back, and the text after it is left. -/
theorem Plain.readsBack {n : Nat} {j : Json} (h : Plain n j) : ReadsBack j := by
  induction h with
  | null => exact readsBack_null
  | bool b => exact readsBack_bool b
  | text s => exact readsBack_text s
  | array _ ih => exact readsBack_array ih
  | object _ ih => exact readsBack_object ih

/-- The text of a plain value is read back as the value, to the end. -/
theorem Plain.read?_render {n : Nat} {j : Json} (h : Plain n j) :
    read? j.render.toList = some (j, []) := by
  obtain ⟨c, s, hj, hc, -⟩ := h.readsBack.head
  have hread := h.readsBack.read endsNumber_nil (Nat.le_add_right (2 * j.renderChars.length) 2)
  rw [List.append_nil, hj] at hread
  rw [read?, render, String.toList_ofList, hj, skipSpace_cons hc, hread]

theorem Plain.parse?_render {n : Nat} {j : Json} (h : Plain n j) : parse? j.render = some j := by
  rw [parse?, h.read?_render]
  rfl

/-- An object with one member is read, whatever white space stands before the value. -/
theorem parse?_member {v : Json} (h : ReadsBack v) (name : String) {gap : List Char}
    (hgap : ∀ c ∈ gap, isSpace c) {s : String}
    (hs : s.toList =
      '\x7b' :: (renderString (some name) ++ ':' :: (gap ++ (v.renderChars ++ ['\x7d'])))) :
    parse? s = some (.object [(some name, v)]) := by
  obtain ⟨c, t, hv, hc, -⟩ := h.head
  have hskip : skipSpace s.toList = s.toList := by rw [hs, skipSpace_cons rfl]
  have hfuel : 2 * v.renderChars.length ≤ 2 * s.toList.length := by
    rw [hs]
    simp
    omega
  have hread := h.read (endsNumber_cons (c := '\x7d') (by decide) []) hfuel
  have hmembers : readMembers? (2 * s.toList.length + 1)
      (renderString (some name) ++ ':' :: (gap ++ (v.renderChars ++ ['\x7d']))) =
        some ([(some name, v)], []) := by
    rw [hv, List.cons_append] at hread ⊢
    simp only [renderString, renderText, List.cons_append, List.append_assoc, List.nil_append,
      readMembers?, readString?_flatMap, skipSpace_cons (c := ':') rfl, skipSpace_append hgap,
      skipSpace_cons hc, hread, skipSpace_cons (c := '\x7d') rfl]
  have hobject : readAt? (2 * s.toList.length + 1 + 1) s.toList =
      some (.object [(some name, v)], []) := by
    generalize 2 * s.toList.length + 1 = fuel at hmembers ⊢
    simp only [renderString, renderText, List.cons_append] at hs hmembers
    rw [hs]
    simp only [readAt?, skipSpace_cons (c := '"') rfl]
    split
    · rename_i he
      cases he
    · rw [hmembers, Option.map_some]
  rw [parse?, read?, hskip, hobject]
  rfl

end AskTables.Json
