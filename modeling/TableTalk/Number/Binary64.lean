/-!
# Binary floating-point numbers of 64 bits

A number is a sign and a magnitude of 63 bits.  Magnitudes count the points of one grid
from zero upwards: the next magnitude is always the next representable value, and behind
the finite ones come infinity and the values that are no numbers.  The grid is stated in
units of `2 ^ (-1074)`, the distance between the smallest values, so every finite value is
a natural number of units and comparing, rounding and printing are exact.

## Main definitions

* `Binary64` — sign and magnitude.
* `Binary64.units` — the value of a magnitude in units of `2 ^ (-1074)`.
* `Binary64.compare` — the total order of all bit patterns, `-0` in front of `0`.
* `divideToEven` — the quotient of two natural numbers, rounded to the nearest.
* `Binary64.roundUnits` — the magnitude nearest to a fraction of units.
* `Binary64.add`, `Binary64.divideBy` — the sum of two numbers and a number divided by a
  count, each rounded once.
-/

namespace TableTalk

/-- A binary floating-point number of 64 bits. -/
structure Binary64 where
  /-- Whether the sign bit is set. -/
  negative : Bool
  /-- The 63 bits behind the sign bit. -/
  magnitude : Nat
  deriving Repr, DecidableEq, Inhabited

namespace Binary64

/-- The number of magnitudes that share an exponent. -/
def binade : Nat := Nat.pow 2 52

/-- The first magnitude behind the finite ones. -/
def infinity : Nat := 2047 * binade

/-- The value of a magnitude in units of `2 ^ (-1074)`.  In the first two binades the grid is
as fine as the unit, and it doubles its step with each binade that follows. -/
def units (magnitude : Nat) : Nat :=
  if magnitude < binade then magnitude
  else (binade + magnitude % binade) * Nat.pow 2 (magnitude / binade - 1)

/-- The number `0`. -/
def zero : Binary64 := ⟨false, 0⟩

/-- Whether the number is neither infinite nor without a value. -/
def isFinite (x : Binary64) : Bool := x.magnitude < infinity

/-- Whether the bit pattern stands for no number. -/
def isNaN (x : Binary64) : Bool := infinity < x.magnitude

/-- Whether the number is `0` or `-0`. -/
def isZero (x : Binary64) : Bool := x.magnitude == 0

/-- The value of a finite number in units of `2 ^ (-1074)`. -/
def signedUnits (x : Binary64) : Int :=
  if x.negative then -(units x.magnitude : Int) else units x.magnitude

/-! ### Bit patterns -/

/-- The number with the given bits. -/
def ofBits (bits : UInt64) : Binary64 :=
  ⟨Nat.pow 2 63 ≤ bits.toNat, bits.toNat % Nat.pow 2 63⟩

/-- The bits of a number. -/
def toBits (x : Binary64) : UInt64 :=
  UInt64.ofNat ((if x.negative then Nat.pow 2 63 else 0) + x.magnitude)

/-! ### Order -/

/-- The total order of all bit patterns: by value, `-0` in front of `0`, the patterns without
a value outside the infinities on the side of their sign. -/
def compare (x y : Binary64) : Ordering :=
  match x.negative, y.negative with
  | false, false => Ord.compare x.magnitude y.magnitude
  | true, true => Ord.compare y.magnitude x.magnitude
  | true, false => .lt
  | false, true => .gt

end Binary64

/-! ### Rounding to the nearest representable number

A value that is not on the grid goes to the nearer of its two neighbours, a value half-way
to the one with the even magnitude.  Values are fractions of natural numbers, so nothing is
lost before the one rounding at the end. -/

/-- The natural number nearest to `num / den`, the even one of two that are equally near. -/
def divideToEven (num den : Nat) : Nat :=
  let q := num / den
  let twice := 2 * (num % den)
  if twice < den then q
  else if den < twice then q + 1
  else q + q % 2

namespace Binary64

/-- The magnitude nearest to `num / den` units, infinity if the value is beyond the grid.
From `2 ^ 53` units on the grid is coarser than the unit by the power of two that leaves
53 bits; the rounded quotient, counted from the start of its binade, is then the place on
the grid. -/
def roundUnits (num den : Nat) : Nat :=
  let coarse := (num / den).log2 - 52
  min infinity (coarse * binade + divideToEven num (den * Nat.pow 2 coarse))

/-- The number nearest to a whole number of units. -/
def ofUnits (negative : Bool) (n : Nat) : Binary64 := ⟨negative, roundUnits n 1⟩

/-! ### Arithmetic -/

/-- Magnitude of the values that are no numbers, as arithmetic yields them. -/
def quietNaN : Nat := infinity + Nat.pow 2 51

/-- The exact sum rounded to the nearest number.  A sum of zero is `0` unless both numbers
are `-0`. -/
def add (x y : Binary64) : Binary64 :=
  if x.isNaN || y.isNaN then ⟨false, quietNaN⟩
  else if !x.isFinite then
    if !y.isFinite && x.negative != y.negative then ⟨false, quietNaN⟩ else x
  else if !y.isFinite then y
  else
    let sum := x.signedUnits + y.signedUnits
    if sum = 0 then ⟨x.negative && y.negative, 0⟩
    else ofUnits (sum < 0) sum.natAbs

/-- The number divided by a positive count and rounded to the nearest number. -/
def divideBy (x : Binary64) (count : Nat) : Binary64 :=
  if x.isFinite then ⟨x.negative, roundUnits (units x.magnitude) count⟩ else x

/-- The sum of a list of numbers, taken from the left. -/
def sum (xs : List Binary64) : Binary64 := xs.foldl add zero

end Binary64
end TableTalk
