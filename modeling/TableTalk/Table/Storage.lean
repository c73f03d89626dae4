import TableTalk.Json.Document
import TableTalk.Table.Basic

/-!
# Stored tables

Cells, headers, columns, schemas and tables as documents.  A stored table is taken as it
is: reading checks the form of the document, not whether names are distinct and columns
equally long.

## Main definitions

* `Headed` — a header standing for a column without cells, as schemas store it.
* Instances of `Stored` for the parts of a table.
-/

namespace TableTalk

/-- The first number that a stored position cannot be. -/
def positionLimit : Nat := Numeral.wordLimit

/-- A stored position or count. -/
def position? (j : Json) : Option Nat := j.natural? positionLimit

instance : Stored Cell where
  toJson c := .object [("content", .string c.content), ("row_index", .natural c.row)]
  ofJson? j := match j.fields? ["content", "row_index"] with
    | some [some content, some row] => do return ⟨← content.string?, ← position? row⟩
    | _ => none

instance : Stored Header where
  toJson h := .object [("name", .string h.name), ("data_type", Stored.toJson h.type),
    ("ordinal", .natural h.ordinal)]
  ofJson? j := match j.fields? ["name", "data_type", "ordinal"] with
    | some [some name, some type, some ordinal] => do
      return ⟨← name.string?, ← Stored.ofJson? type, ← position? ordinal⟩
    | _ => none

/-- A header standing for a column without cells. -/
structure Headed where
  /-- The header. -/
  header : Header
  deriving Repr, DecidableEq

instance : Stored Headed where
  toJson h := .object [("header", Stored.toJson h.header)]
  ofJson? j := match j.fields? ["header"] with
    | some [some header] => do return ⟨← Stored.ofJson? header⟩
    | _ => none

instance : Stored Schema where
  toJson s := .object [("fields", .array (s.headers.map fun h => Stored.toJson (Headed.mk h)))]
  ofJson? j := match j.fields? ["fields"] with
    | some [some entries] => do
      let entries : List Headed ← entries.list? Stored.ofJson?
      return ⟨entries.map (·.header)⟩
    | _ => none

instance : Stored Column where
  toJson c := .object [("header", Stored.toJson c.header),
    ("data", .array (c.cells.map Stored.toJson))]
  ofJson? j := match j.fields? ["header", "data"] with
    | some [some header, some cells] => do
      return ⟨← Stored.ofJson? header, ← cells.list? Stored.ofJson?⟩
    | _ => none

instance : Stored Table where
  toJson t := .object [("fields", .array (t.columns.map Stored.toJson))]
  ofJson? j := match j.fields? ["fields"] with
    | some [some columns] => do return ⟨← columns.list? Stored.ofJson?⟩
    | _ => none

end TableTalk
