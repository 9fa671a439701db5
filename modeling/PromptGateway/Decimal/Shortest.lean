/-! # Shortest decimals

A positive binary fraction `m * 2 ^ q` stands for all reals that round to it: those within half a
step of it, both ends included if `m` is even, and below a power of two the step is half as wide.
The shortest decimal is the one of fewest digits among these reals, and of those the nearest.
-/

namespace PromptGateway.Decimal

/-- A natural number of digits times a power of ten. -/
structure Scaled where
  digits : Nat
  exponent : Int
  deriving DecidableEq, Repr

/-- Three numerators over one denominator: the least real, the value, the greatest real. -/
structure Interval where
  low : Nat
  value : Nat
  high : Nat
  denominator : Nat
  closed : Bool

/-- The reals that round to `m * 2 ^ q`; `narrow` if the next smaller fraction is half as far. -/
def Interval.of (m : Nat) (q : Int) (narrow : Bool) : Interval :=
  let factor := Nat.pow 2 (q - 2).toNat
  let low := if narrow then 4 * m - 1 else 4 * m - 2
  { low := low * factor, value := 4 * m * factor, high := (4 * m + 2) * factor,
    denominator := Nat.pow 2 (2 - q).toNat, closed := m % 2 == 0 }

def Interval.holds (i : Interval) (d : Scaled) : Bool :=
  let x := d.digits * Nat.pow 10 d.exponent.toNat * i.denominator
  let unit := Nat.pow 10 (-d.exponent).toNat
  let low := i.low * unit
  let high := i.high * unit
  if i.closed then low ≤ x && x ≤ high else low < x && x < high

/-- The exponent of the power of ten that is not above the value, but above its tenth. -/
def Interval.magnitude (i : Interval) : Int :=
  if i.denominator ≤ i.value then
    ((Nat.toDigits 10 (i.value / i.denominator)).length : Int) - 1
  else
    let quotient := (i.denominator + i.value - 1) / i.value
    Int.neg (Nat.toDigits 10 (quotient - 1)).length

/-- The neighbours of the value among the multiples of `10 ^ k`, the nearer one first. -/
def Interval.neighbours (i : Interval) (k : Int) : List Scaled :=
  let value := i.value * Nat.pow 10 (-k).toNat
  let unit := i.denominator * Nat.pow 10 k.toNat
  let below := value / unit
  let left := value % unit
  if 2 * left < unit || (2 * left == unit && below % 2 == 0) then
    [⟨below, k⟩, ⟨below + 1, k⟩]
  else [⟨below + 1, k⟩, ⟨below, k⟩]

/-- Looks for a decimal in the interval on ever finer grids; seventeen digits always suffice. -/
def Interval.search (i : Interval) (k : Int) : Nat → Scaled
  | 0 => ⟨0, 0⟩
  | fuel + 1 =>
    match (i.neighbours k).find? i.holds with
    | some d => d
    | none => i.search (k - 1) fuel

def shortest (m : Nat) (q : Int) (narrow : Bool) : Scaled :=
  let i := Interval.of m q narrow
  i.search i.magnitude 18

/-- The shortest decimal of a finite float other than zero, its sign left out. -/
def ofFloat (x : Float) : Scaled :=
  let bits := x.toBits.toNat % 9223372036854775808
  let exponent : Nat := bits / 4503599627370496
  let fraction : Nat := bits % 4503599627370496
  if exponent == 0 then shortest fraction (-1074) false
  else
    shortest (fraction + 4503599627370496) ((exponent : Int) - 1075)
      (fraction == 0 && 1 < exponent)

end PromptGateway.Decimal
