import TableTalk.Table.Value

/-!
# Tables

A table is a list of columns.  A column has a header and one cell per row, and each cell
remembers the row it came from, so that rows can be followed through reordering, filtering
and grouping.

The type itself does not require the columns to have distinct names and equal lengths; that
is what `Table.ofColumns?` checks, and every operation here keeps it.

## Main definitions

* `Cell`, `Header`, `Column`, `Schema`, `Table` — the parts.
* `TableError` — why columns do not form a table.
* `Table.ofColumns`, `Table.ofRows` — tables from columns and from rows.
* `Table.select`, `Table.keep`, `Table.replace` — rows by position, columns by a test,
  and a column by a new version of it.
* `Table.WellFormed` — distinct names and equal lengths.
-/

namespace TableTalk

/-! ### Parts -/

/-- One cell: its text, and the row it came from or the group it stands for. -/
structure Cell where
  /-- The text. -/
  content : String
  /-- The row of the source, or the position of the group for an aggregated cell. -/
  row : Nat
  deriving Repr, DecidableEq

/-- The identity of a column.  Columns are found by name. -/
structure Header where
  /-- The name. -/
  name : String
  /-- The type of all cells. -/
  type : ColumnType
  /-- The position of the column in the source. -/
  ordinal : Nat
  deriving Repr, DecidableEq

/-- One column: a header and one cell per row. -/
structure Column where
  /-- The header. -/
  header : Header
  /-- The cells in row order. -/
  cells : List Cell
  deriving Repr, DecidableEq

/-- The shape of a table without its cells. -/
structure Schema where
  /-- The headers in column order. -/
  headers : List Header
  deriving Repr, DecidableEq

/-- A list of columns whose cells at one position belong to one row. -/
structure Table where
  /-- The columns in order. -/
  columns : List Column
  deriving Repr, DecidableEq

/-- Why columns or rows do not form a table. -/
inductive TableError where
  /-- Two columns have the name. -/
  | duplicateName (name : String)
  /-- The column has not as many cells as the others. -/
  | raggedColumn (name : String) (actual expected : Nat)
  /-- No column has the name. -/
  | unknownColumn (name : String)
  /-- The row has not as many values as there are headers. -/
  | rowWidth (row actual expected : Nat)
  deriving Repr, DecidableEq

/-- The sentence that reports an error. -/
def TableError.message : TableError → String
  | .duplicateName name => s!"duplicate column name: {name}"
  | .raggedColumn name actual expected => s!"column {name} has {actual} cells, expected {expected}"
  | .unknownColumn name => s!"no column named {name}"
  | .rowWidth row actual expected => s!"row {row} has {actual} values, expected {expected}"

/-! ### Schemas -/

namespace Schema

/-- The column names in order. -/
def names (s : Schema) : List String := s.headers.map (·.name)

/-- The first header with the given name. -/
def header? (s : Schema) (name : String) : Option Header := s.headers.find? (·.name == name)

/-- Whether a column has the given name. -/
def contains (s : Schema) (name : String) : Bool := (s.header? name).isSome

/-- The number of columns. -/
def size (s : Schema) : Nat := s.headers.length

/-- Whether there is no column. -/
def isEmpty (s : Schema) : Bool := s.headers.isEmpty

end Schema

/-! ### Columns -/

namespace Column

/-- A column of the given texts, rows counted from zero. -/
def ofValues (header : Header) (values : List String) : Column :=
  ⟨header, values.zipIdx.map fun (content, row) => ⟨content, row⟩⟩

/-- The column name. -/
def name (c : Column) : String := c.header.name

/-- The number of cells. -/
def size (c : Column) : Nat := c.cells.length

/-- The texts of the cells in row order. -/
def contents (c : Column) : List String := c.cells.map (·.content)

/-- The cells at the given positions in that order.  A position behind the last cell is
passed over. -/
def select (c : Column) (positions : List Nat) : Column :=
  let cells := c.cells.toArray
  { c with cells := positions.filterMap fun i => cells[i]? }

end Column

/-! ### Building tables -/

/-- The first name of a list that is among the given ones or has been met before. -/
def firstRepeated? (met : List String) : List String → Option String
  | [] => none
  | name :: names => if met.contains name then some name else firstRepeated? (name :: met) names

namespace Table

/-- The number of columns. -/
def width (t : Table) : Nat := t.columns.length

/-- The number of rows: the length of the first column. -/
def height (t : Table) : Nat := (t.columns.head?.map Column.size).getD 0

/-- The columns as a table, if their names are distinct and their lengths are equal. -/
def ofColumns (columns : List Column) : Except TableError Table :=
  match firstRepeated? [] (columns.map Column.name) with
  | some name => .error (.duplicateName name)
  | none =>
    let expected := (Table.mk columns).height
    match columns.find? (·.size != expected) with
    | some c => .error (.raggedColumn c.name c.size expected)
    | none => .ok ⟨columns⟩

/-- The column under one header in a list of rows. -/
def columnOfRows (rows : List (List String)) (header : Header) (i : Nat) : Column :=
  .ofValues header (rows.map fun row => (row[i]?).getD "")

/-- The rows under the given headers as a table, if every row has one value per header and
the names are distinct. -/
def ofRows (headers : List Header) (rows : List (List String)) : Except TableError Table :=
  let width := headers.length
  match rows.zipIdx.find? (fun (row, _) => row.length != width) with
  | some (row, i) => .error (.rowWidth i row.length width)
  | none => ofColumns (headers.zipIdx.map fun (h, i) => columnOfRows rows h i)

/-- What every operation keeps: the names are distinct, and every column has as many cells
as the table has rows. -/
def WellFormed (t : Table) : Prop :=
  (t.columns.map Column.name).Nodup ∧ ∀ c ∈ t.columns, c.size = t.height

/-! ### Looking at tables -/

/-- The first column with the given name. -/
def column? (t : Table) (name : String) : Option Column := t.columns.find? (·.name == name)

/-- The position of the first column with the given name. -/
def position? (t : Table) (name : String) : Option Nat := t.columns.findIdx? (·.name == name)

/-- The shape of the table. -/
def schema (t : Table) : Schema := ⟨t.columns.map (·.header)⟩

/-- The column names in order. -/
def names (t : Table) : List String := t.columns.map Column.name

/-- The texts of one row, unless a column ends in front of it. -/
def row? (t : Table) (i : Nat) : Option (List String) :=
  t.columns.mapM fun c => (c.cells[i]?).map (·.content)

/-- The texts of all rows. -/
def rows (t : Table) : List (List String) :=
  (List.range t.height).map fun i => (t.row? i).getD []

/-! ### Deriving tables -/

/-- The cells at the given positions of every column.  One list of positions serves all
columns, so rows stay together; positions behind the last row are passed over. -/
def select (t : Table) (positions : List Nat) : Table :=
  ⟨t.columns.map fun c => c.select positions⟩

/-- The columns that satisfy a test. -/
def keep (t : Table) (p : Column → Bool) : Table := ⟨t.columns.filter p⟩

/-- The table with a new version of a column in place of the one of the same name. -/
def replace (t : Table) (column : Column) : Except TableError Table :=
  if column.size != t.height then
    .error (.raggedColumn column.name column.size t.height)
  else match t.position? column.name with
    | some i => .ok ⟨t.columns.set i column⟩
    | none => .error (.unknownColumn column.name)

end Table
end TableTalk
