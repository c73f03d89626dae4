import TableTalk.Delimited.Record
import TableTalk.Table.Basic
import TableTalk.Text.Utf8

/-!
# Writing tables as delimited text

The column names are the first record and each row is one more.  A field is quoted only if
it holds a delimiter, a quote or a line end, and a record that would be empty is written as
one quoted field without bytes, so that it is not taken for an empty line.

## Main definitions

* `Delimited.writeField`, `Delimited.writeRecord` — a field and a record.
* `Delimited.write` — the bytes of a table; `Delimited.writtenText` — the same as text.
-/

namespace TableTalk
namespace Delimited

/-- Whether a field has to be quoted. -/
def needsQuotes (delimiter : UInt8) (field : Field) : Bool :=
  field.any fun b => b == delimiter || b == quote || isLineEnd b

/-- The bytes of a field, each quote written twice. -/
def doubleQuotes (field : Field) : Field :=
  field.flatMap fun b => if b == quote then [quote, quote] else [b]

/-- A field as it is written. -/
def writeField (delimiter : UInt8) (field : Field) : List UInt8 :=
  if needsQuotes delimiter field then quote :: (doubleQuotes field ++ [quote]) else field

/-- A record as it is written, with the line end behind it. -/
def writeRecord (delimiter : UInt8) (fields : List Field) : List UInt8 :=
  let line := [delimiter].intercalate (fields.map (writeField delimiter))
  (if line.isEmpty then [quote, quote] else line) ++ [lineFeed]

/-- The records of a table: its names, then its rows. -/
def recordsOf (t : Table) : List (List String) := t.names :: t.rows

/-- The bytes of a table. -/
def write (o : Options) (t : Table) : List UInt8 :=
  (recordsOf t).flatMap fun r => writeRecord o.delimiter (r.map Utf8.encode)

/-- The written table as text. -/
def writtenText (o : Options) (t : Table) : String := Utf8.decodeLossy (write o t)

end Delimited
end TableTalk
