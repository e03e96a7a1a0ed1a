import AskTables.Text.Hex
import AskTables.Yaml.Basic

/-!
# YAML scalars

A plain scalar runs to a comment, to a colon with a gap behind it, or to a line that is not indented
far enough.  A quoted scalar runs to its quote.  Both may span lines: a single line break counts as
a space, and of several the first is dropped.
-/

namespace AskTables.Yaml

/-! ## What stands between two words -/

/-- The blanks or the line breaks between two words of a scalar. -/
structure Pause where
  /-- The blanks, if no break follows them. -/
  blanks : List Char
  /-- The breaks. -/
  breaks : List Char
  /-- The column after the last break. -/
  column : Nat
deriving DecidableEq, Inhabited

/-- The start of a pause. -/
def Pause.empty : Pause := ⟨[], [], 0⟩

/-- A pause that starts with a break that stands for nothing. -/
def Pause.escaped : Pause := ⟨[], [' '], 0⟩

/-- A pause at the front of a text, and the text after it.  After a break no tab may stand left of
the column `least`. -/
def takePause (least : Nat) (p : Pause) : List Char → Option (Pause × List Char)
  | [] => some (p, [])
  | c :: rest =>
    if isBreak c then takePause least ⟨[], p.breaks ++ [c], 0⟩ rest
    else if isSpace c then
      if p.breaks.isEmpty then takePause least ⟨p.blanks ++ [c], [], 0⟩ rest
      else if c = '\t' ∧ p.column < least then none
      else takePause least ⟨[], p.breaks, p.column + 1⟩ rest
    else some (p, c :: rest)

/-- What a pause stands for.  An escaped break stands for nothing, a line feed alone for a space. -/
def Pause.text (p : Pause) : List Char :=
  match p.breaks with
  | [] => p.blanks
  | ['\n'] => [' ']
  | '\n' :: more => more
  | ' ' :: more => more
  | breaks => breaks

/-- Whether a pause crosses to another line. -/
def Pause.crosses (p : Pause) : Bool := !p.breaks.isEmpty

/-! ## Plain scalars -/

/-- A scalar that was read. -/
structure Scalar where
  /-- The text. -/
  text : List Char
  /-- Whether it stands on one line. -/
  oneLine : Bool
  /-- The place after it. -/
  after : Spot
deriving DecidableEq, Inhabited

/-- The characters with a meaning inside brackets. -/
def isFlowMark (c : Char) : Bool := [',', '[', ']', '\x7b', '\x7d'].contains c

/-- Whether a text starts with a colon right before one of those characters. -/
def startsTightColon (s : List Char) : Bool :=
  match s with
  | ':' :: c :: _ => isFlowMark c || c == '?'
  | _ => false

/-- Whether a word of a plain scalar ends at a character that has `rest` behind it. -/
def endsWord (inFlow : Bool) (c : Char) (rest : List Char) : Bool :=
  isGap c || c == ':' && startsGap rest || inFlow && (isFlowMark c || startsTightColon (c :: rest))

/-- The rest of a word of a plain scalar, and the text after it. -/
def takeWord (inFlow : Bool) : List Char → List Char × List Char
  | [] => ([], [])
  | c :: rest =>
    if endsWord inFlow c rest then ([], c :: rest)
    else
      let r := takeWord inFlow rest
      (c :: r.1, r.2)

/-- The words of a plain scalar from the middle of a word on.  `fuel` bounds their number. -/
def plainWords (inFlow : Bool) (least : Nat) : (fuel : Nat) → List Char → Option Scalar
  | 0, _ => none
  | fuel + 1, s => do
    let (word, rest) := takeWord inFlow s
    let (pause, next) ← takePause least .empty rest
    let stop : Scalar := ⟨word, true, ⟨next, if pause.crosses then some pause.column else none⟩⟩
    let left := pause.crosses && !inFlow && decide (pause.column < least)
    let marked := pause.crosses && pause.column == 0 && startsDocumentMarker next
    if pause = .empty || left || marked || next.head? == some '#' then return stop
    else if (takeWord inFlow next).1.isEmpty then return stop
    else do
      let more ← plainWords inFlow least fuel next
      return ⟨word ++ pause.text ++ more.text, more.oneLine && !pause.crosses, more.after⟩

/-- Whether a plain scalar may start here. -/
def startsPlain (inFlow : Bool) (s : List Char) : Bool :=
  match s with
  | [] => false
  | c :: rest =>
    if c == '-' then !startsGap rest
    else if c == '?' || c == ':' then !inFlow && !startsGap rest
    else
      !(isGap c || isFlowMark c || c.toNat == 0x60 ||
        ['#', '&', '*', '!', '|', '>', '\'', '"', '%', '@'].contains c)

/-- A plain scalar.  Its other lines start at the column `least` or right of it. -/
def plainScalar (inFlow : Bool) (least : Nat) (s : List Char) : Option Scalar :=
  if startsPlain inFlow s then
    (plainWords inFlow least s.length s).filter fun r =>
      !(inFlow && startsTightColon r.after.rest)
  else none

/-! ## Quoted scalars -/

/-- The character whose code point some hexadecimal digits write. -/
def charOfHex? (digits : List Char) : Option Char := do
  let n ← Text.hexNumber? digits
  if n.isValidChar then some (Char.ofNat n) else none

/-- The character that an escape of one letter stands for. -/
def shortEscape? (c : Char) : Option Char :=
  match c with
  | '0' => some '\x00'
  | 'a' => some '\x07'
  | 'b' => some '\x08'
  | 't' | '\t' => some '\t'
  | 'n' => some '\n'
  | 'v' => some '\x0b'
  | 'f' => some '\x0c'
  | 'r' => some '\r'
  | 'e' => some '\x1b'
  | ' ' => some ' '
  | '"' => some '"'
  | '/' => some '/'
  | '\\' => some '\\'
  | 'N' => some '\u0085'
  | '_' => some '\u00a0'
  | 'L' => some '\u2028'
  | 'P' => some '\u2029'
  | _ => none

/-- Where the characters of a quoted scalar stop. -/
inductive QuoteStop where
  /-- At the closing quote. -/
  | quote
  /-- At a blank or break. -/
  | gap
  /-- At a break behind a backslash. -/
  | escaped
deriving DecidableEq

/-- The characters of a scalar in single quotes up to a stop, and the text from the stop on. -/
def takeSingle : List Char → Option (List Char × QuoteStop × List Char)
  | [] => none
  | '\'' :: '\'' :: rest => (takeSingle rest).map fun r => ('\'' :: r.1, r.2)
  | '\'' :: rest => some ([], .quote, rest)
  | c :: rest =>
    if isGap c then some ([], .gap, c :: rest)
    else (takeSingle rest).map fun r => (c :: r.1, r.2)

/-- The characters of a scalar in double quotes up to a stop, and the text from the stop on. -/
def takeDouble : List Char → Option (List Char × QuoteStop × List Char)
  | [] => none
  | '"' :: rest => some ([], .quote, rest)
  | '\\' :: 'x' :: a :: b :: rest => do
    let c ← charOfHex? [a, b]
    (takeDouble rest).map fun r => (c :: r.1, r.2)
  | '\\' :: 'u' :: a :: b :: c :: d :: rest => do
    let e ← charOfHex? [a, b, c, d]
    (takeDouble rest).map fun r => (e :: r.1, r.2)
  | '\\' :: 'U' :: a :: b :: c :: d :: e :: f :: g :: h :: rest => do
    let i ← charOfHex? [a, b, c, d, e, f, g, h]
    (takeDouble rest).map fun r => (i :: r.1, r.2)
  | '\\' :: c :: rest =>
    if isBreak c then some ([], .escaped, rest)
    else do
      let e ← shortEscape? c
      (takeDouble rest).map fun r => (e :: r.1, r.2)
  | c :: rest =>
    if isGap c then some ([], .gap, c :: rest)
    else (takeDouble rest).map fun r => (c :: r.1, r.2)

/-- The pieces of a quoted scalar after its opening quote.  `fuel` bounds their number. -/
def quotedPieces (take : List Char → Option (List Char × QuoteStop × List Char)) :
    (fuel : Nat) → List Char → Option Scalar
  | 0, _ => none
  | fuel + 1, s => do
    let (piece, stop, rest) ← take s
    match stop with
    | .quote => return ⟨piece, true, ⟨rest, none⟩⟩
    | .gap | .escaped => do
      let (pause, next) ← takePause 0 (if stop = .escaped then .escaped else .empty) rest
      if pause.crosses && pause.column == 0 && startsDocumentMarker next then none
      else do
        let more ← quotedPieces take fuel next
        return ⟨piece ++ pause.text ++ more.text, more.oneLine && !pause.crosses, more.after⟩

/-- A quoted scalar. -/
def quotedScalar (s : List Char) : Option Scalar :=
  match s with
  | '\'' :: rest => quotedPieces takeSingle (rest.length + 1) rest
  | '"' :: rest => quotedPieces takeDouble (rest.length + 1) rest
  | _ => none

end AskTables.Yaml
