import TableTalk.Number.Binary64

/-!
# Writing numbers in the fewest digits

Every finite number owns the interval of values that round to it.  Of the decimals in that
interval the ones on the coarsest decimal grid have the fewest digits; the number is written
as the one of them nearest to it, without an exponent.

Everything is counted in units of `10 ^ (-1074)`, in which each finite number is a whole
number, so on the finest grid the number itself is a point and the search always succeeds.

## Main definitions

* `Shortest.scaled` — a magnitude in units of `10 ^ (-1074)`.
* `Shortest.owns` — whether a value rounds to a magnitude.
* `Shortest.find` — the coarsest grid that meets the interval, and its point there.
* `Shortest.positional` — a decimal without an exponent.
-/

namespace TableTalk
namespace Shortest

/-- The finest decimal place, on which every finite number lies. -/
def finestPlace : Nat := 1074

/-- The value of a magnitude in units of `10 ^ (-1074)`. -/
def scaled (m : Nat) : Nat := Binary64.units m * Nat.pow 5 finestPlace

/-- Whether the value `c * 10 ^ (-1074)` rounds to the magnitude `m`: it lies between the
values half-way to the neighbours, an end of the interval counting if `m` is even. -/
def owns (m c : Nat) : Bool :=
  let low := scaled (m - 1) + scaled m
  let high := scaled m + scaled (m + 1)
  if m % 2 = 0 then low ≤ 2 * c && 2 * c ≤ high else low < 2 * c && 2 * c < high

/-- The point nearest to the magnitude `m` on the grid of step `10 ^ j` that rounds to `m`, the
larger of two that are equally near, as a multiple of the step. -/
def onGrid? (m j : Nat) : Option Nat :=
  let n := scaled m
  let step := Nat.pow 10 j
  -- If any point of the grid rounds to `m`, so does one of the two next to the value.
  let below := n / step
  let above := below + 1
  match owns m (below * step), owns m (above * step) with
  | true, true => some (if 2 * (n % step) < step then below else above)
  | true, false => some below
  | false, true => some above
  | false, false => none

/-- The coarsest grid of step at most `10 ^ j` with a point that rounds to the magnitude `m`:
the point as a multiple of the step, and the exponent of the step. -/
def find (m : Nat) : Nat → Nat × Nat
  | 0 => (scaled m, 0)
  | j + 1 => match onGrid? m (j + 1) with
    | some d => (d, j + 1)
    | none => find m j

/-- The exponent at which the search starts: no finite number reaches `10 ^ 309`. -/
def coarsest : Nat := finestPlace + 309

/-- The digits of a natural number. -/
def digits (n : Nat) : List Char := Nat.toDigits 10 n

/-- The decimal `d * 10 ^ (j - 1074)` without an exponent: digits in front of the point, and
the digits behind it if the step is below one. -/
def positional (d j : Nat) : List Char :=
  if finestPlace ≤ j then digits (d * Nat.pow 10 (j - finestPlace))
  else
    let behind := finestPlace - j
    let fraction := digits (d % Nat.pow 10 behind)
    digits (d / Nat.pow 10 behind) ++
      '.' :: (List.replicate (behind - fraction.length) '0' ++ fraction)

/-- The magnitude of a finite number in the fewest digits. -/
def magnitudeText (m : Nat) : List Char :=
  if m = 0 then ['0']
  else
    let (d, j) := find m coarsest
    positional d j

end Shortest

/-- A number in the fewest digits that read back as it, without an exponent. -/
def Binary64.text (x : Binary64) : String :=
  if x.isNaN then "NaN"
  else
    let body := if x.isFinite then Shortest.magnitudeText x.magnitude else ['i', 'n', 'f']
    String.ofList (if x.negative then '-' :: body else body)

end TableTalk
