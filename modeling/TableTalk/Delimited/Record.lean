import TableTalk.Json.Document

/-!
# Records of delimited bytes

Bytes are cut into records at line ends and records into fields at a delimiter.  A field
that starts with a quote runs to the next quote that is not doubled, and delimiters and line
ends inside it are part of it.  A line end is a line feed, a carriage return or both in that
order; lines without any bytes are no records.

## Main definitions

* `Delimited.Options` — the delimiter, and what is done to cells and columns on reading.
* `Delimited.Position` — where a record starts.
* `Delimited.Scanner`, `Delimited.Scanner.step` — the state between two bytes and what a
  byte does to it.
* `Delimited.records` — the records of some bytes with their positions.
-/

namespace TableTalk
namespace Delimited

/-- How delimited text is read and written. -/
structure Options where
  /-- The byte between two fields. -/
  delimiter : UInt8 := 0x2C
  /-- Whether column types are inferred; if not, every column holds text. -/
  infer : Bool := true
  /-- Whether white space and byte-order marks around a cell are removed. -/
  trim : Bool := true
  deriving Repr, DecidableEq

instance : Stored Options where
  toJson o := .object [("delimiter", .natural o.delimiter.toNat), ("infer_types", .bool o.infer),
    ("trim_cells", .bool o.trim)]
  ofJson? j := match j.fields? ["delimiter", "infer_types", "trim_cells"] with
    | some [some delimiter, some infer, some trim] => do
      return ⟨UInt8.ofNat (← delimiter.natural? 256), ← infer.bool?, ← trim.bool?⟩
    | _ => none

/-- The bytes of a field. -/
abbrev Field := List UInt8

/-- The byte that opens and closes a quoted field. -/
def quote : UInt8 := 0x22

/-- The carriage return. -/
def carriageReturn : UInt8 := 0x0D

/-- The line feed. -/
def lineFeed : UInt8 := 0x0A

/-- Whether a byte ends a line. -/
def isLineEnd (b : UInt8) : Bool := b == carriageReturn || b == lineFeed

/-- A place in the bytes: how many records, line feeds and bytes are in front of it. -/
structure Position where
  /-- The number of records in front. -/
  record : Nat := 0
  /-- The number of the line, from 1. -/
  line : Nat := 1
  /-- The number of bytes in front. -/
  byte : Nat := 0
  deriving Repr, DecidableEq

/-- The place behind one more byte. -/
def Position.advance (p : Position) (b : UInt8) : Position :=
  { p with line := if b == lineFeed then p.line + 1 else p.line, byte := p.byte + 1 }

/-- Where in a record the next byte stands. -/
inductive Place where
  /-- In front of a record. -/
  | record
  /-- Behind a carriage return that ended a record. -/
  | lineEnd
  /-- At the start of a field. -/
  | field
  /-- In a field without quotes, or behind the closing quote of one. -/
  | plain
  /-- Between quotes. -/
  | quoted
  /-- Behind a quote that may be the closing one. -/
  | quote
  deriving Repr, DecidableEq

/-- The state between two bytes. -/
structure Scanner where
  /-- Where the next byte stands. -/
  place : Place := .record
  /-- The bytes of the field so far, the last one first. -/
  field : List UInt8 := []
  /-- The fields in front of it, the last one first. -/
  fields : List Field := []
  deriving Repr, DecidableEq

namespace Scanner

/-- The scanner behind the end of a field. -/
def endField (s : Scanner) : Scanner := ⟨.field, [], s.field.reverse :: s.fields⟩

/-- The fields of the record that ends here. -/
def complete (s : Scanner) : List Field := (s.field.reverse :: s.fields).reverse

/-- The scanner behind a byte of the field. -/
def keep (s : Scanner) (place : Place) (b : UInt8) : Scanner :=
  { s with place := place, field := b :: s.field }

/-- The scanner behind a byte that ends the field, ends the record or belongs to the field. -/
def stepPlain (delimiter : UInt8) (s : Scanner) (b : UInt8) : Scanner × Option (List Field) :=
  if b == delimiter then (s.endField, none)
  else if isLineEnd b then
    ({ place := if b == carriageReturn then .lineEnd else .record }, some s.complete)
  else (s.keep .plain b, none)

/-- The scanner behind the first byte of a field. -/
def stepField (delimiter : UInt8) (s : Scanner) (b : UInt8) : Scanner × Option (List Field) :=
  if b == Delimited.quote then ({ s with place := .quoted }, none) else s.stepPlain delimiter b

/-- The scanner behind a byte in front of a record. -/
def stepRecord (delimiter : UInt8) (s : Scanner) (b : UInt8) : Scanner × Option (List Field) :=
  if isLineEnd b then ({ s with place := .record }, none) else s.stepField delimiter b

/-- The scanner behind a byte, and the record that the byte ends. -/
def step (delimiter : UInt8) (s : Scanner) (b : UInt8) : Scanner × Option (List Field) :=
  match s.place with
  | .record => s.stepRecord delimiter b
  | .lineEnd =>
    if b == lineFeed then ({ s with place := .record }, none) else s.stepRecord delimiter b
  | .field => s.stepField delimiter b
  | .plain => s.stepPlain delimiter b
  | .quoted =>
    if b == Delimited.quote then ({ s with place := .quote }, none) else (s.keep .quoted b, none)
  | .quote =>
    -- A second quote belongs to the field; anything else is read as if there were no quotes.
    if b == Delimited.quote then (s.keep .quoted b, none) else s.stepPlain delimiter b

/-- The record that the end of the bytes ends. -/
def finish (s : Scanner) : Option (List Field) :=
  match s.place with
  | .record | .lineEnd => none
  | _ => some s.complete

end Scanner

/-- A record and the place at which reading it began: behind the byte that ended the record
in front of it. -/
structure Record where
  /-- Where reading it began. -/
  position : Position
  /-- The fields. -/
  fields : List Field
  deriving Repr, DecidableEq

/-- The records from a place on: `start` is where reading the present record began, `here`
is the place of the next byte. -/
def recordsFrom (delimiter : UInt8) (start here : Position) (s : Scanner) :
    List UInt8 → List Record
  | [] => (s.finish.map fun fields => ⟨start, fields⟩).toList
  | b :: bs =>
    let here := here.advance b
    match s.step delimiter b with
    | (s, none) => recordsFrom delimiter start here s bs
    | (s, some fields) =>
      let next := { here with record := here.record + 1 }
      ⟨start, fields⟩ :: recordsFrom delimiter next next s bs

/-- The mark with which a text may start. -/
def mark : List UInt8 := [0xEF, 0xBB, 0xBF]

/-- The records of some bytes.  One byte-order mark at the start is passed over. -/
def records (delimiter : UInt8) (bytes : List UInt8) : List Record :=
  if mark.isPrefixOf bytes then
    recordsFrom delimiter {} { byte := mark.length } {} (bytes.drop mark.length)
  else recordsFrom delimiter {} {} {} bytes

end Delimited
end TableTalk
