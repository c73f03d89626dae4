/-!
# Numerals

Counts, option numbers and positions are written in decimal digits, with leading zeros
and a sign allowed.  A numeral beyond the range of a machine word is no numeral.

## Main definitions

* `Numeral.digits?` — the number that a list of digits denotes.
* `Numeral.natural?` — an unsigned numeral of 64 bits, `+` allowed.
* `Numeral.integer?` — a signed numeral of 64 bits.
-/

namespace TableTalk
namespace Numeral

/-- The number that a non-empty list of decimal digits denotes. -/
def digits? (cs : List Char) : Option Nat :=
  if cs.isEmpty || !cs.all Char.isDigit then none else some (Nat.ofDigitChars 10 cs 0)

/-- The text without a sign in front, and whether the sign was a minus. -/
def splitSign : List Char → Bool × List Char
  | '-' :: cs => (true, cs)
  | '+' :: cs => (false, cs)
  | cs => (false, cs)

/-- The first number that an unsigned word of 64 bits cannot hold. -/
def wordLimit : Nat := Nat.pow 2 64

/-- The number denoted by an unsigned numeral of 64 bits: digits, with a plus sign in front
of them if need be. -/
def natural? (s : String) : Option Nat :=
  let cs := match s.toList with
    | '+' :: cs => cs
    | cs => cs
  (digits? cs).filter (· < wordLimit)

/-- The number denoted by a signed numeral of 64 bits. -/
def integer? (s : String) : Option Int :=
  let (negative, cs) := splitSign s.toList
  match digits? cs with
  | none => none
  | some n =>
    if negative then if n ≤ Nat.pow 2 63 then some (-(n : Int)) else none
    else if n < Nat.pow 2 63 then some (n : Int) else none

end Numeral
end TableTalk
