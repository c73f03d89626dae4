import TableTalk.Delimited.Reader
import TableTalk.Dialogue.Query
import TableTalk.Folder
import TableTalk.Plan.Document
import TableTalk.Text.Escaped

/-!
# Failures of commands

A failure says what the command was doing and why that did not work.  It is reported as a
chain of sentences, from what was being done down to the first cause.

## Main definitions

* `LoadFault`, `StoredPlanFault` — why a file gives no table or no plan.
* `Failure` — why a command failed; `Failure.chain`, `Failure.message` — the report.
-/

namespace TableTalk

/-- Why a file gives no table. -/
inductive LoadFault where
  /-- It cannot be opened. -/
  | unopened (fault : FileFault)
  /-- It can be opened, but not read. -/
  | unread (fault : FileFault)
  /-- What it holds is no table. -/
  | content (error : Delimited.ReadError)
  deriving Repr, DecidableEq

namespace LoadFault

/-- A fault on reading a file that gives a table.  A folder can be opened. -/
def ofFault : FileFault → LoadFault
  | .isFolder => .unread .isFolder
  | fault => .unopened fault

/-- The sentences that report a fault, the causes behind what they cause. -/
def chain (path : String) : LoadFault → List String
  | .unopened fault => [s!"failed to open {path}: {fault.message}", fault.message]
  | .unread fault =>
    [s!"malformed delimited text in {path}: {fault.message}", fault.message]
  | .content error => error.message path :: error.causes

end LoadFault

/-- Why a file gives no plan. -/
inductive StoredPlanFault where
  /-- It cannot be read. -/
  | unread (fault : FileFault)
  /-- What it holds is no plan. -/
  | content (error : PlanError)
  deriving Repr, DecidableEq

/-- The sentences that report a fault of a file with a plan. -/
def planFileChain (path : String) (fault : FileFault) : List String :=
  [s!"failed to access plan file {path}: {fault.message}", fault.message]

/-- The sentences that report why a file gives no plan. -/
def StoredPlanFault.chain (path : String) : StoredPlanFault → List String
  | .unread fault => planFileChain path fault
  | .content error => error.message :: error.causes

/-- Why a command failed. -/
inductive Failure where
  /-- The delimiter takes more than one byte. -/
  | delimiter (c : Char)
  /-- The table could not be loaded. -/
  | load (path : String) (fault : LoadFault)
  /-- The answers could not be read. -/
  | answers (path : String) (fault : FileFault)
  /-- The dialogue failed. -/
  | dialogue (error : QueryError)
  /-- The plan could not be loaded. -/
  | loadPlan (path : String) (fault : StoredPlanFault)
  /-- The plan failed. -/
  | execution (error : ExecutionError)
  /-- The plan could not be saved. -/
  | savePlan (path : String) (fault : FileFault)
  /-- The resulting table could not be written. -/
  | output (path : String) (fault : FileFault)
  /-- The answers could not be resolved. -/
  | resolution (error : QueryError)
  /-- The log could not be opened. -/
  | log (fault : FileFault)
  deriving Repr, DecidableEq

namespace Failure

/-- The sentences that report a failure, the causes behind what they cause. -/
def chain : Failure → List String
  | .delimiter c => [s!"delimiter must be a single ASCII character, got {Escaped.quotedChar c}"]
  | .load path fault => s!"load {path}" :: fault.chain path
  | .answers path fault => [s!"read answers: {path}", fault.message]
  | .dialogue error => "query dialogue" :: error.message :: error.causes
  | .loadPlan path fault => s!"load plan: {path}" :: fault.chain path
  | .execution error => ["execute plan", error.message, error.cause.message]
  | .savePlan path fault => s!"save plan: {path}" :: planFileChain path fault
  | .output path fault => s!"write output: {path}" :: (LoadFault.unopened fault).chain path
  | .resolution error => "resolve prefix" :: error.message :: error.causes
  | .log fault => ["failed to initialize logging", fault.message]

/-- The report on a failure in one line. -/
def message (f : Failure) : String := ": ".intercalate f.chain

end Failure
end TableTalk
