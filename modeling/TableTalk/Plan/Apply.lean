import TableTalk.Plan.Build

/-!
# Applying transformations

Sorting, filtering and grouping look at one column only and come to a list of row positions.
The rows at these positions are then taken from all columns alike, so that every row moves
as a whole.

## Main definitions

* `Direction.order` — the order of a sort; what does not read stays last in both directions.
* `Relation.holds?` — whether a text stands in a relation to a literal.
* `Grouping` — the groups that are found while the texts of a column are gone through.
* `Aggregate.combine` — what an aggregate makes of the texts of a group.
* `Table.sort`, `Table.filter`, `Table.group`, `Table.drop` — the four transformations.
* `Transformation.apply` — a transformation applied to a table.
-/

namespace TableTalk

/-! ### Sorting -/

/-- The order in which a sort puts two readings of cells.  Only two values are put the other
way round by a descending sort. -/
def Direction.order (direction : Direction) (a b : Option Value) : Ordering :=
  match direction, a, b with
  | .descending, some x, some y => (Value.compare x y).swap
  | _, a, b => Value.compareReadings a b

/-- The positions of the texts in the order of a sort, equal ones in their present order. -/
def Direction.positions (direction : Direction) (type : ColumnType) (contents : List String) :
    List Nat :=
  let readings := contents.map (Value.read? type)
  (readings.zipIdx.mergeSort fun a b => (direction.order a.1 b.1).isLE).map (·.2)

/-! ### Filtering -/

/-- Whether both texts read under the type and stand in the given order. -/
def isOrdered (type : ColumnType) (order : Ordering) (content literal : String) : Bool :=
  (Value.read? type content).isSome && (Value.read? type literal).isSome &&
    compareTyped type content literal == order

/-- Whether a text stands in a relation to a literal, unless the relation is reserved. -/
def Relation.holds? (type : ColumnType) (content literal : String) : Relation → Option Bool
  | .equals => some (equalTyped type content literal)
  | .notEquals => some (!equalTyped type content literal)
  | .lessThan => some (isOrdered type .lt content literal)
  | .greaterThan => some (isOrdered type .gt content literal)
  | .inRange => none

/-- Whether a text stands in a relation to a literal. -/
def Relation.holds (type : ColumnType) (content literal : String) (relation : Relation) :
    Except TransformError Bool :=
  match relation.holds? type content literal with
  | some holds => .ok holds
  | none => .error (.unsupported .inRange)

/-- The positions of the texts that satisfy a test. -/
def positionsOf (p : String → Bool) (contents : List String) : List Nat :=
  contents.zipIdx.filterMap fun (content, i) => if p content then some i else none

/-! ### Grouping -/

/-- The rows that share a key. -/
structure Group where
  /-- The key. -/
  key : String
  /-- The positions of the rows in order. -/
  members : List Nat
  deriving Repr, DecidableEq

/-- The order of groups: by the values of their keys, then by the texts. -/
def Group.order (type : ColumnType) (a b : Group) : Ordering :=
  (compareTyped type a.key b.key).then (compareRaw a.key b.key)

/-- The group with one row more behind the others. -/
def Group.push (g : Group) (position : Nat) : Group := { g with members := g.members ++ [position] }

/-- What is known of the groups while the texts are gone through. -/
structure Grouping where
  /-- The groups in the order in which their keys were met first. -/
  groups : List Group
  /-- The place of the group of each key. -/
  slots : List (String × Nat)
  deriving Repr, DecidableEq

namespace Grouping

/-- One text more: it is passed over unless it is one of the keys, white space around it aside. -/
def add (keys : KeySet) (s : Grouping) (content : String) (position : Nat) : Grouping :=
  let key := Text.trim content
  if !keys.contains key then s
  else
    match s.slots.lookup key with
    | some slot => { s with groups := s.groups.modify slot (·.push position) }
    | none => ⟨s.groups ++ [⟨key, [position]⟩], (key, s.groups.length) :: s.slots⟩

/-- The groups of the texts, which are gone through once. -/
def ofTexts (keys : KeySet) (contents : List String) : Grouping :=
  contents.zipIdx.foldl (fun s (content, position) => s.add keys content position) ⟨[], []⟩

/-- The groups in their order. -/
def sorted (type : ColumnType) (s : Grouping) : List Group :=
  s.groups.mergeSort fun a b => (Group.order type a b).isLE

end Grouping

/-- What an aggregate makes of the texts of a group.  Texts that are no numbers are passed
over by sum and mean, and there is no mean of no numbers. -/
def Aggregate.combine (values : List String) : Aggregate → String
  | .sum => numberText (Binary64.sum (values.filterMap readNumber?))
  | .mean =>
    let numbers := values.filterMap readNumber?
    if numbers.isEmpty then "" else numberText ((Binary64.sum numbers).divideBy numbers.length)
  | .concat => ",".intercalate values
  | .countDistinct => Nat.repr values.eraseDups.length
  | .countAll => Nat.repr values.length
  | .groupKey => ""

/-! ### The transformations of a table -/

namespace Table

/-- The column that a transformation works on. -/
def target (t : Table) (name : String) : Except TransformError Column :=
  match t.column? name with
  | some c => .ok c
  | none => .error (.unknownTarget name)

/-- The table without the named columns, all of which it has to have. -/
def drop (t : Table) (columns : List String) : Except TransformError Table :=
  match columns.find? (fun name => (t.column? name).isNone) with
  | some name => .error (.unknownTarget name)
  | none => .ok (t.keep fun c => !columns.contains c.name)

/-- The rows in the order of a column. -/
def sort (t : Table) (column : String) (direction : Direction) : Except TransformError Table := do
  let c ← t.target column
  return t.select (direction.positions c.header.type c.contents)

/-- The rows whose cell in the column of a condition satisfies it. -/
def filter (t : Table) (condition : Condition) : Except TransformError Table := do
  let c ← t.target condition.column
  if condition.relation == .inRange then throw (.unsupported .inRange)
  let keeps := fun content =>
    condition.relation.holds? c.header.type content condition.literal == some true
  return t.select (positionsOf keeps c.contents)

/-- The aggregated column: one cell per group. -/
def aggregated (c : Column) (aggregate : Aggregate) (groups : List Group) : Column where
  header := if aggregate.yieldsNumber then { c.header with type := .number } else c.header
  cells := groups.zipIdx.map fun (g, i) =>
    ⟨aggregate.combine (g.members.filterMap fun m => c.contents[m]?), i⟩

/-- One row per group: the first row of the group, with what the aggregate makes of the group
in the column that was grouped by. -/
def group (t : Table) (column : String) (aggregate : Aggregate) (keys : KeySet) :
    Except TransformError Table := do
  let c ← t.target column
  if aggregate == .groupKey then throw (.unsupported .groupKey)
  let groups := (Grouping.ofTexts keys c.contents).sorted c.header.type
  -- Every group has a first row, so the column below is as long as the others.
  let firsts := t.select (groups.filterMap fun g => g.members.head?)
  (firsts.replace (aggregated c aggregate groups)).mapError .table

end Table

/-- The table that a transformation makes of a table. -/
def Transformation.apply (t : Table) : Transformation → Except TransformError Table
  | .empty => .ok t
  | .dropColumn columns => t.drop columns
  | .sortBy column direction => t.sort column direction
  | .groupBy column aggregate keys => t.group column aggregate keys
  | .filterBy condition => t.filter condition

end TableTalk
