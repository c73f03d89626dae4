import TableTalk.Plan.Words
import TableTalk.Table.Basic
import TableTalk.Text.Numeral

/-!
# Kinds of transformations and their rounds

A kind says how many rounds of questions it takes to parameterise a transformation, what
each round offers and how it is worded, from the schema alone.

The rounds come in a fixed order: the column, then a word, then free text.  A grouping whose
aggregate needs no keys ends with the second round.

## Main definitions

* `Kind`, `Round` — the kinds and the rounds.
* `Kind.resolve?` — a kind by name or by number.
* `Kind.rounds` — how many rounds a kind takes; `Kind.round?` — the one that comes next.
* `Kind.options?`, `Kind.instruction` — what a round offers and how it is worded.
-/

namespace TableTalk

/-- The kinds of transformations. -/
inductive Kind where
  /-- Nothing; chosen to end a query. -/
  | empty
  /-- Removes columns. -/
  | dropColumn
  /-- Orders the rows by a column. -/
  | sortBy
  /-- Leaves one row per group. -/
  | groupBy
  /-- Keeps the rows that satisfy a relation. -/
  | filterBy
  deriving Repr, DecidableEq

instance : Vocabulary Kind where
  members := [.empty, .dropColumn, .sortBy, .groupBy, .filterBy]
  label
    | .empty => "Empty"
    | .dropColumn => "DropColumn"
    | .sortBy => "SortBy"
    | .groupBy => "GroupBy"
    | .filterBy => "FilterBy"

/-- The rounds of questions behind the choice of a kind. -/
inductive Round where
  /-- The column, chosen from the schema. -/
  | target
  /-- A direction, relation or aggregate, chosen from its vocabulary. -/
  | argument
  /-- Free text: a literal or a list of keys. -/
  | freeform
  deriving Repr, DecidableEq

instance : Vocabulary Round where
  members := [.target, .argument, .freeform]
  label
    | .target => "PrimaryTarget"
    | .argument => "SecondaryArgument"
    | .freeform => "FreeformArgument"

namespace Kind

/-- The kinds in the order of their numbers. -/
def all : List Kind := Vocabulary.members

/-- The canonical name. -/
def name (k : Kind) : String := Vocabulary.label k

/-- The names in the order of their numbers. -/
def names : List String := Vocabulary.labels Kind

/-- The number of a kind. -/
def index : Kind → Nat
  | .empty => 0
  | .dropColumn => 1
  | .sortBy => 2
  | .groupBy => 3
  | .filterBy => 4

/-- The kind with the given name or number, white space around it aside. -/
def resolve? (s : String) : Option Kind :=
  let token := Text.trim s
  match Numeral.natural? token with
  | some i => all[i]?
  | none => Vocabulary.ofLabel? token

/-- How many rounds a kind takes, given the answer to the second one if it is known. -/
def rounds (k : Kind) (argument : Option String) : Nat :=
  match k with
  | .empty => 0
  | .dropColumn => 1
  | .sortBy => 2
  | .filterBy => 3
  | .groupBy => match argument.bind (Vocabulary.read? (α := Aggregate)) with
    | some aggregate => if aggregate.needsKeys then 3 else 2
    | none => 3

/-- The round behind the given number of answered ones, if one is left. -/
def round? (k : Kind) (answered : Nat) (argument : Option String) : Option Round :=
  if k.rounds argument ≤ answered then none
  else match answered with
    | 0 => some .target
    | 1 => some .argument
    | _ => some .freeform

/-- The columns that may be chosen. -/
def targets (k : Kind) (schema : Schema) : List String :=
  match k with
  | .empty => []
  | _ => schema.names

/-- The words offered in the second round. -/
def arguments : Kind → List String
  | .empty | .dropColumn => []
  | .sortBy => Vocabulary.labels Direction
  | .groupBy => Vocabulary.labels Aggregate
  | .filterBy => Relation.offered.map Vocabulary.label

/-- What a round offers, unless it asks for free text. -/
def options? (k : Kind) (round : Round) (schema : Schema) : Option (List String) :=
  match round with
  | .target => some (k.targets schema)
  | .argument => some k.arguments
  | .freeform => none

/-- How a round is worded. -/
def instruction : Kind → Round → String
  | .empty, _ => "Empty transformation takes no arguments"
  | .dropColumn, .target => "Select the column to drop"
  | .dropColumn, _ => "DropColumn takes no further arguments"
  | .sortBy, .target => "Choose the column by which to sort the dataset"
  | .sortBy, .argument => "Choose whether the sort is ascending or descending"
  | .sortBy, .freeform => "SortBy takes no further arguments"
  | .groupBy, .target => "Choose the column by which to group the dataset"
  | .groupBy, .argument => "Choose the aggregation to apply to each group"
  | .groupBy, .freeform =>
    "Write the comma-separated values of the column to keep as group keys"
  | .filterBy, .target => "Choose the column by which to filter the dataset"
  | .filterBy, .argument => "Choose the relation between the column and the filter value"
  | .filterBy, .freeform => "Write the value to compare the column against"

end Kind
end TableTalk
