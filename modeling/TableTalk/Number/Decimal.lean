import TableTalk.Number.Binary64
import TableTalk.Text.Numeral

/-!
# Reading decimal numbers

A decimal is a sign, digits with at most one point among them, and an exponent.  At least
one digit stands in front of or behind the point; a point may come first or last.  The
number read is the representable one nearest to the exact value.

## Main definitions

* `Decimal` — sign, significant digits and the power of ten of the last digit.
* `Decimal.read?` — the grammar.
* `Decimal.toBinary64` — the nearest number.
-/

namespace TableTalk

/-- A number in decimal notation: `digits * 10 ^ exponent`. -/
structure Decimal where
  /-- Whether a minus sign stands in front. -/
  negative : Bool
  /-- The digits in front of and behind the point. -/
  digits : List Char
  /-- The power of ten that the last digit counts. -/
  exponent : Int
  deriving Repr, DecidableEq

namespace Decimal

/-- The exponent behind the digits: nothing, or `e`, a sign if need be, and digits. -/
def readExponent? : List Char → Option Int
  | [] => some 0
  | c :: cs =>
    if c == 'e' || c == 'E' then
      let (negative, digits) := Numeral.splitSign cs
      (Numeral.digits? digits).map fun n => if negative then -(n : Int) else n
    else none

/-- The decimal that a text denotes. -/
def read? (cs : List Char) : Option Decimal :=
  let (negative, cs) := Numeral.splitSign cs
  let whole := cs.takeWhile Char.isDigit
  let behind := cs.dropWhile Char.isDigit
  let (fraction, rest) := match behind with
    | '.' :: ds => (ds.takeWhile Char.isDigit, ds.dropWhile Char.isDigit)
    | ds => ([], ds)
  if whole.isEmpty && fraction.isEmpty then none
  else
    (readExponent? rest).map fun e => ⟨negative, whole ++ fraction, e - fraction.length⟩

/-- The digits as one natural number. -/
def significand (d : Decimal) : Nat := Nat.ofDigitChars 10 d.digits 0

/-- How many digits the significand has. -/
def places (d : Decimal) : Nat := (d.digits.dropWhile (· == '0')).length

/-- The magnitude nearest to a decimal.  From `10 ^ 310` on every value is beyond the finite
grid and below `10 ^ (-330)` every value is nearest to zero, so no power of ten outside that
range is ever formed. -/
def magnitude (d : Decimal) : Nat :=
  if d.significand = 0 then 0
  else if 310 < d.exponent + d.places then Binary64.infinity
  else if d.exponent + d.places < -330 then 0
  else
    -- One of the two powers of ten is 1, so the value is an exact fraction of units.
    Binary64.roundUnits (d.significand * Nat.pow 2 1074 * Nat.pow 10 d.exponent.toNat)
      (Nat.pow 10 (-d.exponent).toNat)

/-- The number nearest to a decimal. -/
def toBinary64 (d : Decimal) : Binary64 := ⟨d.negative, d.magnitude⟩

end Decimal
end TableTalk
