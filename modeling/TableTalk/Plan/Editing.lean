import TableTalk.Plan.Apply

/-!
# Editing a table in place

A table that is held is edited step by step: rows are selected, columns are kept, a column is
replaced by a new version of it, or a transformation is applied.  The last two may fail, and
whoever holds the table goes on with what is there afterwards.

## Main definitions

* `Table.put` — a new version of a column, put into the table that is held.
* `Edit`, `Edit.make` — one step, and what it does to the table that is held.
* `Table.edited` — the table behind a list of steps.
-/

namespace TableTalk

/-- Puts a new version of a column in the place of the one of its name.  The place is looked up
in the table as it is, once the length is found to be right. -/
def Table.put (column : Column) : EStateM TableError Table Unit := do
  let expected := (← get).height
  if column.size != expected then
    throw (.raggedColumn column.name column.size expected)
  match (← get).position? column.name with
  | some i => modify fun t => ⟨t.columns.set i column⟩
  | none => throw (.unknownColumn column.name)

/-- A step in which a table is edited. -/
inductive Edit where
  /-- The rows at some positions are taken. -/
  | select (positions : List Nat)
  /-- The columns that satisfy a test are kept. -/
  | keep (p : Column → Bool)
  /-- A column is replaced. -/
  | replace (column : Column)
  /-- A transformation is applied. -/
  | apply (t : Transformation)

/-- What a step does to the table that is held. -/
def Edit.make : Edit → EStateM TransformError Table Unit
  | .select positions => modify fun t => t.select positions
  | .keep p => modify fun t => t.keep p
  | .replace column => EStateM.adaptExcept .table (Table.put column)
  | .apply tr => do
    match tr.apply (← get) with
    | .ok t => set t
    | .error e => throw e

/-- The table that is held behind a step, whether or not the step failed. -/
def Edit.after (t : Table) (e : Edit) : Table :=
  match e.make.run t with
  | .ok _ u => u
  | .error _ u => u

/-- The table that is held behind a list of steps. -/
def Table.edited (t : Table) (edits : List Edit) : Table := edits.foldl Edit.after t

end TableTalk
