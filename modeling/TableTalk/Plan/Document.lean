import TableTalk.Json.Document
import TableTalk.Plan.Build
import TableTalk.Plan.Execution

/-!
# Stored plans

A plan is stored as an array of token lines, one for each transformation.  Reading builds
every transformation again from its line, so a stored plan may use numbers and short forms.

## Main definitions

* `Plan.tokenLines`, `Plan.ofTokenLines` — a plan and its token lines.
* `Plan.document`, `Plan.ofDocument` — a plan and its stored text.
* `PlanError` — why a text is no plan.
-/

namespace TableTalk

/-- Why token lines or a text are no plan. -/
inductive PlanError where
  /-- The text is no array of token lines. -/
  | malformed
  /-- The line at the position has no tokens. -/
  | emptyStep (step : Nat)
  /-- The line at the position spells no transformation. -/
  | invalidStep (step : Nat) (cause : TransformError)
  deriving Repr, DecidableEq

/-- The sentence that reports an error. -/
def PlanError.message : PlanError → String
  | .malformed => "invalid plan JSON: expected a list of lists of texts"
  | .emptyStep step => s!"plan step {step} is empty"
  | .invalidStep step cause => s!"plan step {step} is invalid: {cause.message}"

/-- The sentences that report the causes of an error. -/
def PlanError.causes : PlanError → List String
  | .invalidStep _ cause => [cause.message]
  | .malformed | .emptyStep _ => []

namespace Plan

/-- The token lines of the transformations in order. -/
def tokenLines (plan : Plan) : List (List String) := plan.map Transformation.tokens

/-- The plan that token lines spell, the first of which has the given position. -/
def ofTokenLinesFrom (step : Nat) : List (List String) → Except PlanError Plan
  | [] => .ok []
  | [] :: _ => .error (.emptyStep step)
  | line :: lines => do
    let t ← (Transformation.ofTokens line).mapError fun cause => .invalidStep step cause
    return t :: (← ofTokenLinesFrom (step + 1) lines)

/-- The plan that token lines spell. -/
def ofTokenLines (lines : List (List String)) : Except PlanError Plan := ofTokenLinesFrom 0 lines

/-- The stored text of a plan. -/
def document (plan : Plan) : String := (Json.array (plan.tokenLines.map Json.strings)).pretty

/-- The token lines that a stored text holds. -/
def linesOfDocument? (text : String) : Option (List (List String)) :=
  (Json.read? text).bind (Json.list? (Json.list? Json.string?))

/-- The plan that a text stores. -/
def ofDocument (text : String) : Except PlanError Plan :=
  match linesOfDocument? text with
  | some lines => ofTokenLines lines
  | none => .error .malformed

end Plan

instance : Stored Condition where
  toJson c := .object [("source_header_name", .string c.column),
    ("relation", Stored.toJson c.relation), ("condition_literal", .string c.literal)]
  ofJson? j := match j.fields? ["source_header_name", "relation", "condition_literal"] with
    | some [some column, some relation, some literal] => do
      return ⟨← column.string?, ← Stored.ofJson? relation, ← literal.string?⟩
    | _ => none

end TableTalk
