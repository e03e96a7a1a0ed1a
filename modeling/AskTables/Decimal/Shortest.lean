import AskTables.Decimal.Numeral

/-!
# The shortest digits of a float

A finite float is written with the fewest digits that read back as that float.  `shortest` tries one
digit, two digits and so on.  For each count only the two decimals around the float can be the
nearest, so only they are tried.  Where both read back, the nearer one is taken, and a tie goes as
the format says.

All arithmetic is on natural numbers, with the float as `m * 2 ^ q`.
-/

namespace AskTables.Decimal

/-- A decimal number: its digits read as one number, and the power of ten they are multiplied by. -/
structure Scaled where
  /-- The digits. -/
  digits : Nat
  /-- The power of ten. -/
  exponent : Int
deriving DecidableEq, Inhabited

/-- Which of two equally near decimals is taken. -/
inductive Tie where
  | up
  | toEven
deriving DecidableEq, Inhabited

/-- The float nearest to a decimal. -/
def Scaled.toFloat (d : Scaled) : Float := .ofModel (.ofScientific d.digits d.exponent)

/-- Numerator of `m * 2 ^ q / 10 ^ k`. -/
def numerator (m : Nat) (q k : Int) : Nat :=
  m * Nat.pow 2 q.toNat * Nat.pow 10 (-k).toNat

/-- Denominator of `m * 2 ^ q / 10 ^ k`. -/
def denominator (q k : Int) : Nat := Nat.pow 2 (-q).toNat * Nat.pow 10 k.toNat

/-- Whether `10 ^ k` is at most `m * 2 ^ q`. -/
def atLeastPower (m : Nat) (q k : Int) : Bool := denominator q k ≤ numerator m q k

/-- The power of ten of the first digit of `m * 2 ^ q`.  The power of two gives it up to a few
places, by the quotient of the logarithms, and the last step is a comparison. -/
def leadingPower (m : Nat) (q : Int) : Int :=
  let estimate := (((m.log2 : Int) + q) * 30103).fdiv 100000
  let candidates := [estimate + 2, estimate + 1, estimate, estimate - 1]
  (candidates.find? fun k => atLeastPower m q k).getD (estimate - 2)

/-- Whether the larger of two decimals around a value is taken, where the value exceeds the smaller
one, `below`, by `n / d` of their distance. -/
def Tie.takesAbove (tie : Tie) (below n d : Nat) : Bool :=
  match compare (2 * n) d, tie with
  | .lt, _ => false
  | .gt, _ => true
  | .eq, .up => true
  | .eq, .toEven => below % 2 == 1

/-- The decimal at or below `m * 2 ^ q` on the grid of `10 ^ k`, and the one above it, nearer one
first. -/
def neighbours (tie : Tie) (m : Nat) (q k : Int) : List Scaled :=
  let n := numerator m q k
  let d := denominator q k
  let below := n / d
  if tie.takesAbove below (n % d) d then [⟨below + 1, k⟩, ⟨below, k⟩]
  else [⟨below, k⟩, ⟨below + 1, k⟩]

/-- The value in full: every float is a decimal with finitely many digits. -/
def inFull (m : Nat) (q : Int) : Scaled :=
  if 0 ≤ q then ⟨m * Nat.pow 2 q.toNat, 0⟩ else ⟨m * Nat.pow 5 (-q).toNat, q⟩

/-- The most digits that are ever needed to tell a float from its neighbours. -/
def maxDigits : Nat := 17

/-- The fewest digits that read back as `x`, which is `m * 2 ^ q` and positive.  The first grid is
coarser than the first digit, for a value that rounds up to a power of ten. -/
def shortest (tie : Tie) (x : Float) (m : Nat) (q : Int) : Scaled :=
  let first := leadingPower m q
  let grids := (List.range (maxDigits + 1)).map fun i : Nat => first + 1 - (i : Int)
  let found := grids.findSome? fun k => (neighbours tie m q k).find? fun d => d.toFloat == x
  found.getD (inFull m q)

end AskTables.Decimal
