import TableTalk.Delimited.Record
import TableTalk.Table.Basic
import TableTalk.Table.Value
import TableTalk.Text.Utf8

/-!
# Reading tables from delimited text

Every record has to be text.  Records of blank cells are passed over; the first of the
others names the columns, and each further one is a row, padded with empty cells or cut to
as many cells as there are names.

## Main definitions

* `Delimited.cellText`, `Delimited.columnName` — a cell and a name as they are kept.
* `Delimited.texts` — the records as texts, or the first field that is none.
* `Delimited.tableOfRecords` — the table that records make up.
* `Delimited.read` — the table that some bytes hold.
* `Delimited.ReadError` — why they hold none.
-/

namespace TableTalk
namespace Delimited

/-- A field that is no text: the record it belongs to, its place there, and how many of its
bytes are well formed. -/
structure Fault where
  /-- Where reading the record began. -/
  position : Position
  /-- The place of the field in the record. -/
  field : Nat
  /-- The number of bytes in front of the fault. -/
  valid : Nat
  deriving Repr, DecidableEq

/-- The part of the report on a fault that locates it within the record. -/
def Fault.detail (f : Fault) : String :=
  s!"invalid utf-8: invalid UTF-8 in field {f.field} near byte index {f.valid}"

/-- The sentence that reports a fault. -/
def Fault.message (f : Fault) : String :=
  s!"CSV parse error: record {f.position.record} (line {f.position.line}, " ++
    s!"field: {f.field}, byte: {f.position.byte}): {f.detail}"

/-- Why bytes hold no table. -/
inductive ReadError where
  /-- A field is no text. -/
  | notText (fault : Fault)
  /-- There is no record with anything but blank cells. -/
  | noHeader
  /-- The columns do not form a table. -/
  | invalidTable (error : TableError)
  deriving Repr, DecidableEq

/-- The sentence that reports an error in a source. -/
def ReadError.message (source : String) : ReadError → String
  | .notText fault => s!"malformed delimited text in {source}: {fault.message}"
  | .noHeader => s!"{source} has no header row"
  | .invalidTable error => s!"invalid table in {source}: {error.message}"

/-- The sentences that report the causes of an error, the nearest one first. -/
def ReadError.causes : ReadError → List String
  | .notText fault => [fault.message, fault.detail]
  | .noHeader => []
  | .invalidTable error => [error.message]

/-! ### Cells and names -/

/-- A cell as it is kept. -/
def cellText (o : Options) (raw : String) : String :=
  if o.trim then Text.stripMarks (Text.trim raw) else raw

/-- The name of the column at a position: the words of its header cell, or a numbered name
if there are none. -/
def columnName (raw : String) (i : Nat) : String :=
  let name := Text.collapse (Text.stripMarks (Text.trim raw))
  if name.isEmpty then s!"Column{i + 1}" else name

/-! ### Records as texts -/

/-- The fields of a record as texts, the first of which has the given place. -/
def fieldTexts (position : Position) (i : Nat) : List Field → Except Fault (List String)
  | [] => .ok []
  | field :: fields =>
    match Utf8.decode field with
    | .ok s => (fieldTexts position (i + 1) fields).map (s :: ·)
    | .error valid => .error ⟨position, i, valid⟩

/-- The records as texts, or the first field that is none. -/
def texts : List Record → Except Fault (List (List String))
  | [] => .ok []
  | r :: rs => do
    let row ← fieldTexts r.position 0 r.fields
    return row :: (← texts rs)

/-! ### Tables -/

/-- The records with cells as they are kept, without the records of blank cells. -/
def keptRecords (o : Options) (records : List (List String)) : List (List String) :=
  (records.map fun r => r.map (cellText o)).filter fun r => !r.all Text.isBlank

/-- A row with one cell for each of the given number of columns. -/
def fitRow (width : Nat) (row : List String) : List String :=
  (List.range width).map fun i => (row[i]?).getD ""

/-- The header of the column at a position, from its name and the rows. -/
def headerOf (o : Options) (rows : List (List String)) (name : String) (i : Nat) : Header where
  name := name
  type := if o.infer then ColumnType.infer (rows.map fun row => (row[i]?).getD "") else .text
  ordinal := i

/-- The table that records make up. -/
def tableOfRecords (o : Options) (records : List (List String)) : Except ReadError Table :=
  match keptRecords o records with
  | [] => .error .noHeader
  | first :: others =>
    let names := first.zipIdx.map fun (raw, i) => columnName raw i
    -- Every row is fitted, so the only fault left is a name that occurs twice.
    let rows := others.map (fitRow names.length)
    let headers := names.zipIdx.map fun (name, i) => headerOf o rows name i
    (Table.ofRows headers rows).mapError .invalidTable

/-- The table that some bytes hold. -/
def read (o : Options) (bytes : List UInt8) : Except ReadError Table := do
  let records ← (texts (records o.delimiter bytes)).mapError .notText
  tableOfRecords o records

end Delimited
end TableTalk
