import TableTalk.Plan.Keys
import TableTalk.Plan.Kind
import TableTalk.Text.Escaped

/-!
# Transformations

A transformation is a kind together with all of its parameters.  Its flat form is a line of
tokens, the name of the kind first, from which it can be built again.

## Main definitions

* `Transformation`, `Condition` — the transformations.
* `Transformation.tokens` — the flat form; `Transformation.display` — the readable form.
* `Transformation.preview` — the schema of the result, from the schema alone.
* `Transformation.targets` — the columns that are read or removed.
-/

namespace TableTalk

/-- The condition of a filter. -/
structure Condition where
  /-- The column whose cells are tested. -/
  column : String
  /-- The relation in which a cell has to stand to the literal. -/
  relation : Relation
  /-- The literal. -/
  literal : String
  deriving Repr, DecidableEq

/-- A transformation with all of its parameters. -/
inductive Transformation where
  /-- Changes nothing. -/
  | empty
  /-- Removes the named columns. -/
  | dropColumn (columns : List String)
  /-- Orders the rows by a column, rows with equal cells staying in order. -/
  | sortBy (column : String) (direction : Direction)
  /-- Leaves one row for each of the given keys of a column. -/
  | groupBy (column : String) (aggregate : Aggregate) (keys : KeySet)
  /-- Keeps the rows that satisfy a condition. -/
  | filterBy (condition : Condition)
  deriving Repr, DecidableEq

namespace Transformation

/-- The kind of a transformation. -/
def kind : Transformation → Kind
  | .empty => .empty
  | .dropColumn _ => .dropColumn
  | .sortBy _ _ => .sortBy
  | .groupBy _ _ _ => .groupBy
  | .filterBy _ => .filterBy

/-- The name of the kind. -/
def name (t : Transformation) : String := t.kind.name

/-- The columns that are read or removed. -/
def targets : Transformation → List String
  | .empty => []
  | .dropColumn columns => columns
  | .sortBy column _ => [column]
  | .groupBy column _ _ => [column]
  | .filterBy condition => [condition.column]

/-- The tokens behind the name of the kind. -/
def arguments : Transformation → List String
  | .empty => []
  | .dropColumn columns => columns
  | .sortBy column direction => [column, Vocabulary.label direction]
  | .groupBy column aggregate keys =>
    [column, Vocabulary.label aggregate] ++
      if aggregate.needsKeys then [",".intercalate keys.keys] else []
  | .filterBy c => [c.column, Vocabulary.label c.relation, c.literal]

/-- The flat form: the name of the kind and the parameters, one token for all keys. -/
def tokens (t : Transformation) : List String := t.name :: t.arguments

/-- Texts in a row with commas between them. -/
def listed (texts : List String) : String := ", ".intercalate texts

/-- The readable form. -/
def display : Transformation → String
  | .empty => "Empty"
  | .dropColumn columns => s!"DropColumn({listed columns})"
  | .sortBy column direction => s!"SortBy({column}, {Vocabulary.label direction})"
  | .groupBy column aggregate keys =>
    let kept := if aggregate.needsKeys then s!", keys=[{listed keys.keys}]" else ""
    s!"GroupBy({column}, {Vocabulary.label aggregate}{kept})"
  | .filterBy c =>
    s!"FilterBy({c.column} {c.relation.symbol} {Escaped.quoted c.literal})"

/-- The schema with every column of the given name holding numbers. -/
def promote (schema : Schema) (column : String) : Schema :=
  ⟨schema.headers.map fun h => if h.name == column then { h with type := .number } else h⟩

/-- The schema of the result, from the schema alone. -/
def preview (schema : Schema) : Transformation → Schema
  | .dropColumn columns => ⟨schema.headers.filter fun h => !columns.contains h.name⟩
  | .groupBy column aggregate _ => if aggregate.yieldsNumber then promote schema column else schema
  | _ => schema

end Transformation
end TableTalk
