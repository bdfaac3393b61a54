/-!
# The shortest decimal of a 64-bit float

A positive finite float is `mantissa * 2 ^ exponent`. The reals that round to it form an interval
around it, whose ends belong to it exactly when the mantissa is even. `shortest` looks for the
coarsest grid of multiples of a power of ten that has a point in this interval, and of two such
points takes the nearer; a `Tie` says which of two equally near ones. All arithmetic is exact.
-/

namespace SiteBuilder.Decimal

/-- The positive number `mantissa * 2 ^ exponent`. -/
structure Dyadic where
  /-- The mantissa, at most 53 bits. -/
  mantissa : Nat
  /-- The power of two it is multiplied by. -/
  exponent : Int
  deriving DecidableEq, Repr

/-- The number `significand * 10 ^ exponent`. -/
structure Digits where
  /-- The decimal digits, read as one number. -/
  significand : Nat
  /-- The power of ten it is multiplied by. -/
  exponent : Int
  deriving DecidableEq, Repr

/-- Which of two equally near decimals is taken. -/
inductive Tie where
  /-- The greater one. -/
  | up
  /-- The one whose last digit is even. -/
  | even
  deriving DecidableEq, Repr

/-- The size of a finite float. -/
def Dyadic.ofFloat (x : Float) : Dyadic :=
  let bits := x.toBits.toNat
  let fraction : Nat := bits % Nat.pow 2 52
  let biased : Nat := bits / Nat.pow 2 52 % Nat.pow 2 11
  if biased = 0 then ⟨fraction, -1074⟩ else ⟨Nat.pow 2 52 + fraction, (biased : Int) - 1075⟩

/-- Whether the float below is nearer than the float above: so at powers of two. -/
def Dyadic.atPowerOfTwo (d : Dyadic) : Bool :=
  d.mantissa == Nat.pow 2 52 && (-1074 : Int) < d.exponent

/-- `a * 2 ^ i` and `b * 10 ^ j`, both multiplied by the same number that makes them whole. -/
def onCommonScale (a : Nat) (i : Int) (b : Nat) (j : Int) : Nat × Nat :=
  (a * Nat.pow 2 i.toNat * Nat.pow 10 (-j).toNat, b * Nat.pow 10 j.toNat * Nat.pow 2 (-i).toNat)

/-- Whether `point * 10 ^ grid` rounds to the float. -/
def Dyadic.covers (d : Dyadic) (point : Nat) (grid : Int) : Bool :=
  let low := 4 * d.mantissa - (if d.atPowerOfTwo then 1 else 2)
  let high := 4 * d.mantissa + 2
  let (low, below) := onCommonScale low (d.exponent - 2) point grid
  let (high, above) := onCommonScale high (d.exponent - 2) point grid
  if d.mantissa % 2 = 0 then low ≤ below && above ≤ high else low < below && above < high

/-- Whether a tie above the multiple `below` goes to the next one. -/
def Tie.goesUp : Tie → Nat → Bool
  | .up, _ => true
  | .even, below => below % 2 == 1

/-- The greatest multiple of `10 ^ grid` not above the float, as a multiple, and whether the next
one is taken before it. -/
def Dyadic.neighbour (d : Dyadic) (tie : Tie) (grid : Int) : Nat × Bool :=
  let (value, unit) := onCommonScale d.mantissa d.exponent 1 grid
  let below := value / unit
  let twice := 2 * (value % unit)
  (below, unit < twice || (unit == twice && tie.goesUp below))

/-- The point of one grid that rounds to the float and lies nearest to it. -/
def Dyadic.onGrid? (d : Dyadic) (tie : Tie) (grid : Int) : Option Digits :=
  let (below, nextIsTaken) := d.neighbour tie grid
  match d.covers below grid, d.covers (below + 1) grid with
  | true, true => some ⟨if nextIsTaken then below + 1 else below, grid⟩
  | true, false => some ⟨below, grid⟩
  | false, true => some ⟨below + 1, grid⟩
  | false, false => none

/-- Try grids from a coarse one on, each ten times finer than the one before. -/
def Dyadic.search (d : Dyadic) (tie : Tie) : Nat → Int → Digits
  | 0, _ => ⟨0, 0⟩
  | steps + 1, grid =>
    match d.onGrid? tie grid with
    | some digits => digits
    | none => d.search tie steps (grid - 1)

/-- A power of ten above the number: `1234 / 4096` is a little more than the logarithm of two. -/
def Dyadic.coarseGrid (d : Dyadic) : Int :=
  ((d.mantissa.log2 : Int) + 1 + d.exponent) * 1234 / 4096 + 1

/-- The fewest digits that read back, nearest to the number. Seventeen digits always read back, and
the first grid is at most two powers of ten too coarse. -/
def Dyadic.shortest (d : Dyadic) (tie : Tie) : Digits :=
  if d.mantissa = 0 then ⟨0, 0⟩ else d.search tie 24 d.coarseGrid

end SiteBuilder.Decimal
