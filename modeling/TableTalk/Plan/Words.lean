import TableTalk.Vocabulary

/-!
# Words that parameterise a transformation

Directions of a sort, relations of a filter and aggregates of a grouping.  The reserved
relation `InRange` is read but not offered; the reserved aggregate `GroupKey` is offered.
Neither can be executed.

## Main definitions

* `Direction`, `Relation`, `Aggregate` — the words.
* `Relation.offered` — the relations that a dialogue offers.
* `Aggregate.yieldsNumber`, `Aggregate.needsKeys` — what an aggregate makes of a column, and
  whether it asks for the groups to keep.
-/

namespace TableTalk

/-- The direction of a sort. -/
inductive Direction where
  /-- Smallest value first. -/
  | ascending
  /-- Largest value first. -/
  | descending
  deriving Repr, DecidableEq

instance : Vocabulary Direction where
  members := [.ascending, .descending]
  label
    | .ascending => "Ascending"
    | .descending => "Descending"
  shortForms
    | .ascending => ["Asc"]
    | .descending => ["Desc"]

/-- The relation in which a cell stands to the literal of a filter. -/
inductive Relation where
  /-- The same value. -/
  | equals
  /-- Another value. -/
  | notEquals
  /-- A smaller value. -/
  | lessThan
  /-- A larger value. -/
  | greaterThan
  /-- Reserved. -/
  | inRange
  deriving Repr, DecidableEq

namespace Relation

/-- The sign that stands for a relation in the summary of a plan. -/
def symbol : Relation → String
  | .equals => "=="
  | .notEquals => "!="
  | .lessThan => "<"
  | .greaterThan => ">"
  | .inRange => "in"

instance : Vocabulary Relation where
  members := [.equals, .notEquals, .lessThan, .greaterThan, .inRange]
  label
    | .equals => "Equals"
    | .notEquals => "NotEquals"
    | .lessThan => "LessThan"
    | .greaterThan => "GreaterThan"
    | .inRange => "InRange"
  shortForms
    | .inRange => []
    | r => [r.symbol]

/-- The relations that a dialogue offers. -/
def offered : List Relation := [.equals, .notEquals, .lessThan, .greaterThan]

end Relation

/-- What a grouping makes of the cells of a group. -/
inductive Aggregate where
  /-- The sum of the numbers. -/
  | sum
  /-- The mean of the numbers. -/
  | mean
  /-- The texts joined by commas. -/
  | concat
  /-- How many different texts there are. -/
  | countDistinct
  /-- How many rows there are. -/
  | countAll
  /-- Reserved. -/
  | groupKey
  deriving Repr, DecidableEq

namespace Aggregate

instance : Vocabulary Aggregate where
  members := [.sum, .mean, .concat, .countDistinct, .countAll, .groupKey]
  label
    | .sum => "Sum"
    | .mean => "Mean"
    | .concat => "ConcatValues"
    | .countDistinct => "CountDistinct"
    | .countAll => "CountAll"
    | .groupKey => "GroupKey"
  shortForms
    | .mean => ["Avg"]
    | .concat => ["Concat"]
    | _ => []

/-- Whether the aggregated column holds numbers. -/
def yieldsNumber : Aggregate → Bool
  | .sum | .mean | .countAll | .countDistinct => true
  | .concat | .groupKey => false

/-- Whether the groups to keep are asked for. -/
def needsKeys : Aggregate → Bool
  | .groupKey => false
  | _ => true

end Aggregate

/-- The direction with the given spelling. -/
def Direction.read (s : String) : Except UnknownWord Direction :=
  Vocabulary.read "sort direction" s

/-- The relation with the given spelling. -/
def Relation.read (s : String) : Except UnknownWord Relation := Vocabulary.read "relation" s

/-- The aggregate with the given spelling. -/
def Aggregate.read (s : String) : Except UnknownWord Aggregate := Vocabulary.read "aggregation" s

end TableTalk
