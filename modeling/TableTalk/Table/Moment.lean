import TableTalk.Text.Blank

/-!
# Moments in time

A date cell holds a day, or a day and a time.  Eight layouts are tried in a fixed order and
the first that fits the whole text decides; a day without a time means its midnight.

Numbers in a layout may be padded with white space and zeros or not at all.  A year may
carry a sign and then has any number of digits; every other number has at most two.  The
calendar is the Gregorian one in both directions, year zero included.

## Main definitions

* `Moment` — a day and a time; `Moment.compare` — their order.
* `Layout` — a sequence of numbers and marks; `Moment.layouts` — the eight that are tried.
* `Moment.read?` — the moment that a text denotes.
-/

namespace TableTalk

/-- A day and a time.  A leap second is second 59 with a full second of nanoseconds. -/
structure Moment where
  /-- The year, which may be zero or negative. -/
  year : Int
  /-- The month from 1. -/
  month : Nat := 1
  /-- The day of the month from 1. -/
  day : Nat := 1
  /-- The hour from 0. -/
  hour : Nat := 0
  /-- The minute from 0. -/
  minute : Nat := 0
  /-- The second from 0. -/
  second : Nat := 0
  /-- The nanosecond within the second. -/
  nanosecond : Nat := 0
  deriving Repr, DecidableEq

namespace Moment

/-- The order in time. -/
def compare (a b : Moment) : Ordering :=
  (Ord.compare a.year b.year).then <|
  (Ord.compare a.month b.month).then <|
  (Ord.compare a.day b.day).then <|
  (Ord.compare a.hour b.hour).then <|
  (Ord.compare a.minute b.minute).then <|
  (Ord.compare a.second b.second).then <|
  Ord.compare a.nanosecond b.nanosecond

/-! ### The calendar -/

/-- Whether February has 29 days. -/
def isLeapYear (year : Int) : Bool :=
  year % 4 == 0 && (year % 100 != 0 || year % 400 == 0)

/-- The number of days of a month. -/
def daysIn (year : Int) (month : Nat) : Nat :=
  if month == 2 then if isLeapYear year then 29 else 28
  else if month == 4 || month == 6 || month == 9 || month == 11 then 30
  else 31

/-- The first year of the calendar. -/
def firstYear : Int := -262143

/-- The last year of the calendar. -/
def lastYear : Int := 262142

/-- Whether the day exists in the calendar. -/
def isOnCalendar (m : Moment) : Bool :=
  firstYear ≤ m.year && m.year ≤ lastYear && 1 ≤ m.month && m.month ≤ 12 &&
    1 ≤ m.day && m.day ≤ daysIn m.year m.month

end Moment

/-! ### Layouts -/

/-- A piece of a layout. -/
inductive Layout.Piece where
  /-- A year, with a sign in front of it if need be. -/
  | year
  /-- A month, 1 to 12. -/
  | month
  /-- A day of the month, 1 to 31. -/
  | day
  /-- An hour, 0 to 23. -/
  | hour
  /-- A minute, 0 to 59. -/
  | minute
  /-- A second, 0 to 60. -/
  | second
  /-- The given character. -/
  | mark (c : Char)
  /-- White space, or none at all. -/
  | gap
  deriving Repr, DecidableEq

/-- The pieces of a date or of a date and a time. -/
abbrev Layout := List Layout.Piece

namespace Layout

open Text

/-- The number at the front of a text, of at least one and at most `width` digits, and what
follows it. -/
def readNumber? (width : Nat) (cs : List Char) : Option (Nat × List Char) :=
  let digits := (cs.take width).takeWhile Char.isDigit
  if digits.isEmpty then none
  else some (Nat.ofDigitChars 10 digits 0, cs.drop digits.length)

/-- The number at the front of a text within the given bounds, at most two digits wide,
and what follows it. -/
def readBounded? (low high : Nat) (cs : List Char) : Option (Nat × List Char) :=
  (readNumber? 2 (cs.dropWhile isBlankChar)).filter fun (n, _) => low ≤ n && n ≤ high

/-- The year at the front of a text and what follows it: four digits at most, or a sign and
any number of digits. -/
def readYear? (cs : List Char) : Option (Int × List Char) :=
  match cs.dropWhile isBlankChar with
  | '-' :: rest => (readNumber? rest.length rest).map fun (n, rest) => (-(n : Int), rest)
  | '+' :: rest => (readNumber? rest.length rest).map fun (n, rest) => ((n : Int), rest)
  | rest => (readNumber? 4 rest).map fun (n, rest) => ((n : Int), rest)

/-- The moment with what one piece of a layout reads, and the text behind it. -/
def Piece.read? (m : Moment) (cs : List Char) : Piece → Option (Moment × List Char)
  | .year => (readYear? cs).map fun (n, rest) => ({ m with year := n }, rest)
  | .month => (readBounded? 1 12 cs).map fun (n, rest) => ({ m with month := n }, rest)
  | .day => (readBounded? 1 31 cs).map fun (n, rest) => ({ m with day := n }, rest)
  | .hour => (readBounded? 0 23 cs).map fun (n, rest) => ({ m with hour := n }, rest)
  | .minute => (readBounded? 0 59 cs).map fun (n, rest) => ({ m with minute := n }, rest)
  | .second => (readBounded? 0 60 cs).map fun (n, rest) =>
    (if n == 60 then { m with second := 59, nanosecond := 1000000000 }
     else { m with second := n }, rest)
  | .mark c => match cs with
    | d :: rest => if d == c then some (m, rest) else none
    | [] => none
  | .gap => some (m, cs.dropWhile isBlankChar)

/-- The moment that a whole text denotes under a layout, the pieces read so far given. -/
def readFrom? (m : Moment) (cs : List Char) : Layout → Option Moment
  | [] => if cs.isEmpty && m.isOnCalendar then some m else none
  | piece :: pieces =>
    (piece.read? m cs).bind fun (m, rest) => readFrom? m rest pieces

/-- The moment that a whole text denotes under a layout. -/
def read? (layout : Layout) (cs : List Char) : Option Moment :=
  readFrom? { year := 0 } cs layout

/-- Year, month and day with the given mark between them. -/
def yearFirst (c : Char) : Layout := [.year, .mark c, .month, .mark c, .day]

/-- Hour and minute. -/
def clock : Layout := [.hour, .mark ':', .minute]

/-- Hour, minute and second. -/
def fullClock : Layout := clock ++ [.mark ':', .second]

end Layout

namespace Moment

open Layout in
/-- The layouts in the order in which they are tried. -/
def layouts : List Layout := [
  yearFirst '-' ++ [.mark 'T'] ++ fullClock,
  yearFirst '-' ++ [.gap] ++ fullClock,
  yearFirst '-' ++ [.mark 'T'] ++ clock,
  yearFirst '-' ++ [.gap] ++ clock,
  yearFirst '-',
  [.day, .mark '.', .month, .mark '.', .year],
  [.month, .mark '/', .day, .mark '/', .year],
  yearFirst '/']

/-- The moment that a text denotes, white space around it aside. -/
def read? (s : String) : Option Moment :=
  let cs := (Text.trim s).toList
  layouts.findSome? fun layout => layout.read? cs

end Moment
end TableTalk
