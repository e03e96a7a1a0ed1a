import AskTables.Yaml.Scalar

/-!
# Reading YAML

`Yaml.parse?` reads the one document of a text.  A text without a document is an empty scalar.

A block mapping takes its column from its first key.  An entry at the same column goes on with the
mapping, one further left ends it, and one further right is an error.  A key stands on one line and
is followed by a colon with a gap behind it.  On the line of its key a value is a scalar or in
brackets.  On a later line a value is indented further than its key, except that the entries of a
sequence may stand below the key.
-/

namespace AskTables.Yaml

/-! ## Inside brackets -/

/-- The key of an entry of a mapping in brackets. -/
def flowKey (s : List Char) : Option (String × List Char) :=
  let key := match s with
    | '\'' :: _ | '"' :: _ => quotedScalar s
    | _ => plainScalar true 0 s
  (key.filter Scalar.oneLine).map fun r => (String.ofList r.text, r.after.rest)

mutual

/-- A value inside brackets.  `fuel` bounds the depth of the calls. -/
def flowValue : (fuel : Nat) → List Char → Option (Yaml × List Char)
  | 0, _ => none
  | fuel + 1, s =>
    match s with
    | '[' :: rest => (flowItems fuel (flowNext rest)).map fun r => (.sequence r.1, r.2)
    | '\x7b' :: rest => (flowEntries fuel (flowNext rest)).map fun r => (.mapping r.1, r.2)
    | '\'' :: _ | '"' :: _ =>
      (quotedScalar s).map fun r => (.quoted (String.ofList r.text), r.after.rest)
    | _ => (plainScalar true 0 s).map fun r => (.plain (String.ofList r.text), r.after.rest)

/-- The items of a sequence up to its bracket. -/
def flowItems : (fuel : Nat) → List Char → Option (List Yaml × List Char)
  | 0, _ => none
  | fuel + 1, s =>
    match s with
    | ']' :: after => some ([], after)
    | _ => do
      let (item, rest) ← flowValue fuel s
      match flowNext rest with
      | ']' :: after => return ([item], after)
      | ',' :: more => do
        let (items, after) ← flowItems fuel (flowNext more)
        return (item :: items, after)
      | _ => none

/-- The entries of a mapping up to its brace. -/
def flowEntries : (fuel : Nat) → List Char → Option (List (String × Yaml) × List Char)
  | 0, _ => none
  | fuel + 1, s =>
    match s with
    | '\x7d' :: after => some ([], after)
    | _ => do
      let (key, rest) ← flowKey s
      let (value, rest) ← flowEntryValue fuel (flowNext rest)
      match flowNext rest with
      | '\x7d' :: after => return ([(key, value)], after)
      | ',' :: more => do
        let (entries, after) ← flowEntries fuel (flowNext more)
        return ((key, value) :: entries, after)
      | _ => none

/-- The value of an entry of a mapping in brackets, from its colon on. -/
def flowEntryValue : (fuel : Nat) → List Char → Option (Yaml × List Char)
  | 0, _ => none
  | fuel + 1, s =>
    match s with
    | ':' :: rest =>
      match flowNext rest with
      | ',' :: more => some (.plain "", ',' :: more)
      | '\x7d' :: more => some (.plain "", '\x7d' :: more)
      | first => flowValue fuel first
    | _ => some (.plain "", s)

end

/-- A value that is no block: a scalar or a value in brackets. -/
def inlineValue (least : Nat) (s : List Char) : Option (Yaml × Spot) :=
  match s with
  | '[' :: _ | '\x7b' :: _ =>
    (flowValue (2 * s.length) s).map fun r => (r.1, ⟨r.2, none⟩)
  | '\'' :: _ | '"' :: _ =>
    (quotedScalar s).map fun r => (.quoted (String.ofList r.text), r.after)
  | _ => (plainScalar false least s).map fun r => (.plain (String.ofList r.text), r.after)

/-! ## Blocks -/

/-- The key at the front of an entry of a block mapping, and the text after its colon. -/
def blockKey? (least : Nat) (s : List Char) : Option (String × List Char) := do
  let key ← (match s with
    | '\'' :: _ | '"' :: _ => quotedScalar s
    | _ => plainScalar false least s)
  if key.oneLine && key.after.column? = none then
    match key.after.rest.dropWhile isSpace with
    | ':' :: value => if startsGap value then some (String.ofList key.text, value) else none
    | _ => none
  else none

/-- Where the entries of a block at a column go on. -/
inductive Turn where
  /-- Another entry follows. -/
  | entry
  /-- The block is over. -/
  | over
  /-- Something follows that fits nowhere. -/
  | stray
deriving DecidableEq

/-- Where the entries of a block at a column go on from a token. -/
def turn (column : Nat) (p : Spot) : Turn :=
  if p.rest.isEmpty then .over
  else
    match p.column? with
    | none => .stray
    | some d =>
      if d = 0 ∧ startsDocumentMarker p.rest = true ∨ d < column then .over
      else if d = column then .entry
      else .stray

mutual

/-- A value that starts a line and is indented to the column `least` at least.  `fuel` bounds the
depth of the calls. -/
def blockValue : (fuel : Nat) → (least : Nat) → (column : Nat) → List Char → Option (Yaml × Spot)
  | 0, _, _, _ => none
  | fuel + 1, least, column, s =>
    if startsEntry s then
      (blockItems fuel column s).map fun r => (.sequence r.1, r.2)
    else if (blockKey? least s).isSome then
      (blockEntries fuel column s).map fun r => (.mapping r.1, r.2)
    else inlineValue least s

/-- The entries of a block mapping at a column, from a key on. -/
def blockEntries :
    (fuel : Nat) → (column : Nat) → List Char → Option (List (String × Yaml) × Spot)
  | 0, _, _ => none
  | fuel + 1, column, s => do
    let (key, rest) ← blockKey? (column + 1) s
    let (value, after) ← entryValue fuel column (Spot.next ⟨rest, none⟩)
    let p := after.next
    match turn column p with
    | .entry => do
      let (entries, after) ← blockEntries fuel column p.rest
      return ((key, value) :: entries, after)
    | .over => return ([(key, value)], p)
    | .stray => none

/-- The value of an entry of a block mapping at a column. -/
def entryValue : (fuel : Nat) → (column : Nat) → Spot → Option (Yaml × Spot)
  | 0, _, _ => none
  | fuel + 1, column, p =>
    if p.rest.isEmpty then some (.plain "", p)
    else
      match p.column? with
      | none => inlineValue (column + 1) p.rest
      | some d =>
        if column < d then blockValue fuel (column + 1) d p.rest
        else if d = column ∧ startsEntry p.rest = true then
          (blockItems fuel d p.rest).map fun r => (.sequence r.1, r.2)
        else some (.plain "", p)

/-- The items of a block sequence at a column, from a dash on. -/
def blockItems : (fuel : Nat) → (column : Nat) → List Char → Option (List Yaml × Spot)
  | 0, _, _ => none
  | fuel + 1, column, s => do
    let q := Spot.next ⟨s.drop 1, some (column + 1)⟩
    let (item, after) ← itemValue fuel column q
    let p := after.next
    match turn column p with
    | .entry =>
      if startsEntry p.rest then do
        let (items, after) ← blockItems fuel column p.rest
        return (item :: items, after)
      else return ([item], p)
    | .over => return ([item], p)
    | .stray => none

/-- The value of an item of a block sequence at a column. -/
def itemValue : (fuel : Nat) → (column : Nat) → Spot → Option (Yaml × Spot)
  | 0, _, _ => none
  | fuel + 1, column, p =>
    match p.column? with
    | some d =>
      if p.rest.isEmpty then some (.plain "", p)
      else if column < d then blockValue fuel (column + 1) d p.rest
      else some (.plain "", p)
    | none => none

end

/-! ## Documents -/

/-- Whether nothing but ends of documents follows.  `fuel` bounds their number. -/
def endsText : (fuel : Nat) → Spot → Bool
  | 0, _ => false
  | fuel + 1, p =>
    let q := p.next
    q.rest.isEmpty ||
      q.column? = some 0 && startsMarker '.' q.rest && endsText fuel ⟨q.rest.drop 3, none⟩

/-- The value of a document after its marker. -/
def markedValue (fuel : Nat) (p : Spot) : Option (Yaml × Spot) :=
  if p.rest.isEmpty then some (.plain "", p)
  else
    match p.column? with
    | none => inlineValue 0 p.rest
    | some d =>
      if d = 0 ∧ startsDocumentMarker p.rest = true then some (.plain "", p)
      else blockValue fuel 0 d p.rest

/-- The value of a document. -/
def documentValue (fuel : Nat) (s : List Char) : Option (Yaml × Spot) :=
  let p := Spot.next ⟨s, some 0⟩
  match p.column? with
  | some d =>
    if p.rest.isEmpty then some (.plain "", p)
    else if d = 0 ∧ startsMarker '-' p.rest = true then
      markedValue fuel (Spot.next ⟨p.rest.drop 3, none⟩)
    else if d = 0 ∧ startsMarker '.' p.rest = true then none
    else blockValue fuel 0 d p.rest
  | none => none

/-- The value of the one document of a text. -/
def parse? (s : String) : Option Yaml :=
  let s := match s.toList with
    | '\uFEFF' :: rest => rest
    | chars => chars
  if s.all isAllowed then do
    let text := normalizeBreaks s
    let (value, after) ← documentValue (2 * text.length + 2) text
    if endsText (text.length + 1) after then some value else none
  else none

end AskTables.Yaml
