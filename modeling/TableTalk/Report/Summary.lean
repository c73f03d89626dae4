import TableTalk.Command.Run
import TableTalk.Report.Grid

/-!
# What a command shows

A table, the steps of an execution and the kinds of transformations are shown as grids.  A
finished command shows the files that it worked on, an account of the dialogue, its steps and the
first rows of the table.

## Main definitions

* `Table.grid` — the first rows of a table under the names and types of its columns.
* `StepReport.grid` — what every step of an execution did.
* `Kind.grid` — the kinds of transformations and their first questions.
* `RunReport.summary` — the files, the dialogue, the steps and the first rows of the table.
-/

namespace TableTalk

/-! ### Grids -/

/-- The first rows of a table, at most the given number, under the names and types of its
columns. -/
def Table.grid (t : Table) (limit : Nat) : Grid where
  header := t.columns.map fun c => s!"{c.name} ({c.header.type.label})"
  rows := t.rows.take limit

/-- A count before and after a step, or the count alone if it stayed the same. -/
def StepReport.change (before after : Nat) : String :=
  if before == after then s!"{after}" else s!"{before} -> {after}"

/-- The arguments of a step, or a dash if it has none. -/
def StepReport.arguments (s : StepReport) : String :=
  let listed := ", ".intercalate (s.tokens.drop 1)
  if listed.isEmpty then "-" else listed

/-- What every step of an execution did. -/
def StepReport.grid (steps : List StepReport) : Grid where
  header := ["#", "Transformation", "Arguments", "Rows", "Columns"]
  rows := steps.map fun s =>
    [s!"{s.index + 1}", s.kind.name, s.arguments, change s.rowsBefore s.rowsAfter,
      change s.columnsBefore s.columnsAfter]
  rightAligned := [0, 3, 4]
  style := .ruled

/-- The first question about a kind, or what choosing the kind does if there is none. -/
def Kind.firstQuestion : Kind → String
  | .empty => s!"ends the query (\"{Query.kindPrompt}\")"
  | kind => kind.instruction .target

/-- The kinds of transformations and their first questions. -/
def Kind.grid : Grid where
  header := ["Index", "Variant", "Rounds", "First question"]
  rows := all.map fun kind =>
    [s!"{kind.index}", kind.name, s!"{kind.rounds none}", kind.firstQuestion]
  rightAligned := [0, 2]

/-! ### The summary of a finished command -/

/-- How many rows of a table are shown at most. -/
def RunReport.shownRows : Nat := 50

/-- The lines on a dialogue: what was said if it is to be shown, and the counts of answers. -/
def DialogueReport.summary (d : DialogueReport) : String :=
  let said := match d.transcript with
    | some transcript => s!"Transcript:\n{transcript}"
    | none => ""
  said ++ s!"Rounds: {d.replayed} replayed, {d.live} answered, {d.rejections} rejected\n"

namespace RunReport

/-- A line on a file, if there is one. -/
def fileLine (label : String) : Option String → String
  | some path => s!"{label}: {path}\n"
  | none => ""

/-- The lines on the steps, if there are any. -/
def stepLines (r : RunReport) : String :=
  if r.steps.isEmpty then "" else s!"{(StepReport.grid r.steps).render}\n"

/-- The first rows of the table, and how many rows are not shown. -/
def tableLines (r : RunReport) : String :=
  let hidden := r.table.height - shownRows
  s!"{(r.table.grid shownRows).render}\n" ++
    (if hidden == 0 then "" else s!"... {hidden} more row(s)\n")

/-- The summary of a finished command. -/
def summary (r : RunReport) : String :=
  fileLine "Input" (some r.input) ++ fileLine "Plan" r.planFile ++
    fileLine "Output" r.outputFile ++ (r.dialogue.map DialogueReport.summary).getD "" ++
    r.stepLines ++ r.tableLines

end RunReport
end TableTalk
