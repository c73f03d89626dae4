import TableTalk.Plan.Apply

/-!
# Executing a plan

A plan is a list of transformations.  They are applied in order, each to the table that the
one before it made; the first that fails ends the execution, and nothing of it is kept.

## Main definitions

* `Plan.execute` — the table at the end and a report on every step.
* `Plan.preview` — the schema at the end, from the schema at the start alone.
* `StepReport`, `ExecutionError` — what is told about a step and about a failure.
-/

namespace TableTalk

/-- A list of transformations in the order of their execution. -/
abbrev Plan := List Transformation

/-- What is told about an applied transformation. -/
structure StepReport where
  /-- The position in the plan. -/
  index : Nat
  /-- The kind. -/
  kind : Kind
  /-- The flat form. -/
  tokens : List String
  /-- The number of rows before it. -/
  rowsBefore : Nat
  /-- The number of rows after it. -/
  rowsAfter : Nat
  /-- The number of columns before it. -/
  columnsBefore : Nat
  /-- The number of columns after it. -/
  columnsAfter : Nat
  deriving Repr, DecidableEq

/-- The table at the end of an execution and a report on every step. -/
structure Execution where
  /-- The table. -/
  table : Table
  /-- The reports in order. -/
  steps : List StepReport
  deriving Repr, DecidableEq

/-- Why an execution failed. -/
structure ExecutionError where
  /-- The position of the step in the plan. -/
  step : Nat
  /-- The kind of the step. -/
  kind : Kind
  /-- Why the step failed. -/
  cause : TransformError
  deriving Repr, DecidableEq

/-- The sentence that reports a failure. -/
def ExecutionError.message (e : ExecutionError) : String :=
  s!"step {e.step} ({e.kind.name}) failed: {e.cause.message}"

/-- The report on a transformation that made the second table of the first. -/
def StepReport.of (index : Nat) (t : Transformation) (before after : Table) : StepReport where
  index := index
  kind := t.kind
  tokens := t.tokens
  rowsBefore := before.height
  rowsAfter := after.height
  columnsBefore := before.width
  columnsAfter := after.width

namespace Plan

/-- The execution of a plan whose first step has the given position. -/
def executeFrom (index : Nat) (table : Table) : Plan → Except ExecutionError Execution
  | [] => .ok ⟨table, []⟩
  | t :: ts => do
    let next ← (t.apply table).mapError fun cause => ⟨index, t.kind, cause⟩
    let rest ← executeFrom (index + 1) next ts
    return { rest with steps := .of index t table next :: rest.steps }

/-- The execution of a plan on a table. -/
def execute (table : Table) (plan : Plan) : Except ExecutionError Execution :=
  executeFrom 0 table plan

/-- The schema after all steps, from the schema alone. -/
def preview (schema : Schema) (plan : Plan) : Schema := plan.foldl Transformation.preview schema

end Plan
end TableTalk
