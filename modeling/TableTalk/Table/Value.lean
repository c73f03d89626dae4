import TableTalk.Number.Decimal
import TableTalk.Number.Shortest
import TableTalk.Table.Moment
import TableTalk.Vocabulary

/-!
# Typed reading of cells

A cell holds text.  The type of its column says how the text is read, and only comparisons
read it: a cell that does not read under the type of its column is kept and sorts behind
every cell that does.

## Main definitions

* `ColumnType` — the declared type of a column.
* `Value` — a text read under a type; `Value.read?` reads it.
* `compareTyped`, `equalTyped` — order and equality of two texts under a type.
* `ColumnType.inferFrom` — the type of a column of which some cells have been looked at.
* `ColumnType.infer` — the type of a column with the given texts.
* `numberText` — the text under which an aggregated number is stored.
-/

namespace TableTalk

/-- The declared type of a column, shared by all of its cells. -/
inductive ColumnType where
  /-- `true` and `false`. -/
  | bool
  /-- Free text, which always reads. -/
  | text
  /-- Finite numbers. -/
  | number
  /-- Days, and days with a time. -/
  | date
  deriving Repr, DecidableEq, Inhabited

namespace ColumnType

instance : Vocabulary ColumnType where
  members := [.bool, .text, .number, .date]
  label
    | .bool => "Bool"
    | .text => "String"
    | .number => "Number"
    | .date => "Date"

/-- The canonical label. -/
def label (t : ColumnType) : String := Vocabulary.label t

/-- The names of a type in upper case. -/
def upperNames : ColumnType → List String
  | .bool => ["BOOL", "BOOLEAN"]
  | .text => ["STRING", "TEXT"]
  | .number => ["NUMBER", "NUMERIC"]
  | .date => ["DATE"]

/-- The type with the given name in any case, white space around it aside. -/
def read (s : String) : Except UnknownWord ColumnType :=
  let name := UpperCase.ofText (Text.trim s)
  match (Vocabulary.members : List ColumnType).find? (fun t => (upperNames t).contains name) with
  | some t => .ok t
  | none => .error ⟨"data type", s⟩

end ColumnType

/-- A text read under a column type. -/
inductive Value where
  /-- A truth value. -/
  | bool (b : Bool)
  /-- The text itself. -/
  | text (s : String)
  /-- A finite number. -/
  | number (x : Binary64)
  /-- A moment in time. -/
  | date (m : Moment)
  deriving Repr, DecidableEq

/-! ### Reading -/

/-- Whether two texts are equal but for the case of ASCII letters. -/
def equalIgnoringCase (s t : String) : Bool :=
  s.toList.map Char.toLower == t.toList.map Char.toLower

/-- The truth value that a text denotes: `true` or `false` in any case. -/
def readBool? (s : String) : Option Bool :=
  let word := Text.trim s
  if equalIgnoringCase word "true" then some true
  else if equalIgnoringCase word "false" then some false
  else none

/-- The finite number that a text denotes. -/
def readNumber? (s : String) : Option Binary64 :=
  ((Decimal.read? (Text.trim s).toList).map Decimal.toBinary64).filter Binary64.isFinite

namespace Value

/-- The value that a text denotes under a type. -/
def read? (type : ColumnType) (s : String) : Option Value :=
  match type with
  | .text => some (.text s)
  | .bool => (readBool? s).map .bool
  | .number => (readNumber? s).map .number
  | .date => (Moment.read? s).map .date

/-- The order of two values of one type: `false` in front of `true`, numbers by value with
`-0` in front of `0`, moments in time, texts by code point.  Values of two types are never
compared and count as equal. -/
def compare : Value → Value → Ordering
  | .bool a, .bool b => Ord.compare a b
  | .number a, .number b => Binary64.compare a b
  | .date a, .date b => Moment.compare a b
  | .text a, .text b => Ord.compare a b
  | _, _ => .eq

/-- The order of two readings: what reads comes in front of what does not, and all that does
not read is equal. -/
def compareReadings : Option Value → Option Value → Ordering
  | some a, some b => compare a b
  | some _, none => .lt
  | none, some _ => .gt
  | none, none => .eq

end Value

/-! ### Comparing texts -/

/-- The order of two texts by code point. -/
def compareRaw (s t : String) : Ordering := Ord.compare s t

/-- The order of two texts under a type. -/
def compareTyped (type : ColumnType) (s t : String) : Ordering :=
  Value.compareReadings (Value.read? type s) (Value.read? type t)

/-- Equality of two texts under a type: of their values if both read, of the texts
otherwise. -/
def equalTyped (type : ColumnType) (s t : String) : Bool :=
  match Value.read? type s, Value.read? type t with
  | some a, some b => Value.compare a b == .eq
  | _, _ => s == t

/-! ### Inferring column types

A column gets the first of the types truth value, number and date under which every cell
that is not blank reads.  A column for which there is none, and a column of blank cells
only, holds text.

The cells are looked at once, in order.  Each of them rules out the types under which it
does not read, and where no type is left the others are not looked at. -/

namespace ColumnType

/-- The types that are inferred, in the order in which they are tried. -/
def candidates : List ColumnType := [.bool, .number, .date]

/-- The type of a column, from the types that the cells so far leave, whether one of these
cells was written, and the texts of the other cells. -/
def inferFrom (types : List ColumnType) (written : Bool) : List String → ColumnType
  | [] => if written then types.headD .text else .text
  | value :: values =>
    let word := Text.trim value
    if word.isEmpty then inferFrom types written values
    else
      let left := types.filter fun type => (Value.read? type word).isSome
      if left.isEmpty then .text else inferFrom left true values

/-- The type of a column with the given texts. -/
def infer (values : List String) : ColumnType := inferFrom candidates false values

end ColumnType

/-! ### Writing numbers -/

/-- The whole number that a finite number is, its sign aside, if it is one. -/
def Binary64.whole? (x : Binary64) : Option Nat :=
  let n := Binary64.units x.magnitude
  if x.isFinite && n % Nat.pow 2 1074 == 0 then some (n / Nat.pow 2 1074) else none

/-- The text under which a number is stored: zero without a sign, whole numbers below
`10 ^ 15` as integers, all others in the fewest digits. -/
def numberText (x : Binary64) : String :=
  if x.isZero then "0"
  else match x.whole? with
    | some n =>
      if n < Nat.pow 10 15 then
        if x.negative then String.ofList ('-' :: Nat.toDigits 10 n)
        else String.ofList (Nat.toDigits 10 n)
      else x.text
    | none => x.text

end TableTalk
