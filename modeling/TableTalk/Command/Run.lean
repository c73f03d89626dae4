import TableTalk.Command.Basic
import TableTalk.Command.Failure
import TableTalk.Command.World
import TableTalk.Delimited.Writer
import TableTalk.Dialogue.Prefix

/-!
# Running commands

A command loads its table, finds its plan in a dialogue or a file, executes it, and only then
writes files: the plan first, and the resulting table last.  The first step that fails ends
the command; what was written before it stays.

## Main definitions

* `RunReport`, `DialogueReport` — what is told about a finished command.
* `QueryCommand.run`, `ApplyCommand.run`, `SuggestCommand.run` — the commands.
-/

namespace TableTalk

/-- What is told about the dialogue of a command. -/
structure DialogueReport where
  /-- How many accepted answers were given in advance. -/
  replayed : Nat
  /-- How many accepted answers were asked for. -/
  live : Nat
  /-- How many answers were refused. -/
  rejections : Nat
  /-- What was said, if it is to be shown. -/
  transcript : Option String
  deriving Repr, DecidableEq

/-- What is told about a finished command. -/
structure RunReport where
  /-- The file that the table was loaded from. -/
  input : String
  /-- The resulting table. -/
  table : Table
  /-- The executed plan. -/
  plan : Plan
  /-- What every step did. -/
  steps : List StepReport
  /-- The dialogue, if there was one. -/
  dialogue : Option DialogueReport
  /-- The file with the plan. -/
  planFile : Option String
  /-- The file that the resulting table was written to. -/
  outputFile : Option String
  deriving Repr, DecidableEq

/-- How the file of a table is read and written, unless the delimiter takes more than one
byte. -/
def Input.options (i : Input) : Except Char Delimited.Options :=
  if i.delimiter.toNat < 0x80 then
    .ok { delimiter := UInt8.ofNat i.delimiter.toNat, infer := i.infer }
  else .error i.delimiter

/-- The text that the bytes of a file hold. -/
def textOf (bytes : List UInt8) : Except FileFault String :=
  (Utf8.decode bytes).mapError fun _ => .notText

/-- The plan that the bytes of a file hold. -/
def planOf (bytes : List UInt8) : Except StoredPlanFault Plan :=
  match textOf bytes with
  | .ok text => (Plan.ofDocument text).mapError .content
  | .error fault => .error (.unread fault)

/-- What is told about a conversation. -/
def Conversation.report (c : Conversation) (keepTranscript : Bool) : DialogueReport where
  replayed := c.session.query.roundsFrom .replayed
  live := c.session.query.roundsFrom .live
  rejections := c.session.query.rejections
  transcript := if keepTranscript then some c.transcript else none

section

variable {m : Type → Type} [Monad m] [Acts m]

/-! ### Steps of commands -/

/-- An act whose fault ends the command. -/
def orFail {ε α : Type} (act : m (Except ε α)) (failure : ε → Failure) : ExceptT Failure m α :=
  ExceptT.mk do return (← act).mapError failure

/-- A result whose error ends the command. -/
def unlessFailed {ε α : Type} (result : Except ε α) (failure : ε → Failure) :
    ExceptT Failure m α :=
  orFail (pure result) failure

/-- The table of a file, and how the file is read and written. -/
def Input.load (i : Input) : ExceptT Failure m (Delimited.Options × Table) := do
  let o ← unlessFailed i.options .delimiter
  let bytes ← orFail (Acts.readFile i.path) fun fault => .load i.path (.ofFault fault)
  let table ← unlessFailed (Delimited.read o bytes) fun error => .load i.path (.content error)
  return (o, table)

/-- The answers of a file, one on each line. -/
def readAnswers (path : String) : ExceptT Failure m (List String) := do
  let bytes ← orFail (Acts.readFile path) (.answers path)
  let text ← unlessFailed (textOf bytes) (.answers path)
  return Text.lines text

/-- The dialogue of a query: over the terminal, unless its answers are in a file. -/
def QueryCommand.converse (c : QueryCommand) (schema : Schema) :
    ExceptT Failure m Conversation := do
  let session : Session := ⟨.start schema c.options, c.suggestions⟩
  match c.answers with
  | some path =>
    let script : Script := { answers := ← readAnswers path }
    return (session.converse script).1
  | none => ExceptT.lift (Acts.converse session)

/-- The plan of a file. -/
def loadPlan (path : String) : ExceptT Failure m Plan := do
  let bytes ← orFail (Acts.readFile path) fun fault => .loadPlan path (.unread fault)
  unlessFailed (planOf bytes) (.loadPlan path)

/-- Saves a plan if a file is given. -/
def savePlan (plan : Plan) : Option String → ExceptT Failure m Unit
  | some path => orFail (Acts.writeFile path (Utf8.encode plan.document)) (.savePlan path)
  | none => return

/-- Writes a table if a file is given. -/
def writeTable (o : Delimited.Options) (t : Table) : Option String → ExceptT Failure m Unit
  | some path => orFail (Acts.writeFile path (Delimited.write o t)) (.output path)
  | none => return

/-! ### Commands -/

/-- Builds a plan in a dialogue and executes it. -/
def QueryCommand.run (c : QueryCommand) : ExceptT Failure m RunReport := do
  let (o, table) ← c.input.load
  let conversation ← c.converse table.schema
  let plan ← unlessFailed conversation.result .dialogue
  let execution ← unlessFailed (plan.execute table) .execution
  savePlan plan c.planFile
  writeTable o execution.table c.outputFile
  return {
    input := c.input.path
    table := execution.table
    plan := plan
    steps := execution.steps
    dialogue := some (conversation.report c.showTranscript)
    planFile := c.planFile
    outputFile := c.outputFile }

/-- Executes a stored plan. -/
def ApplyCommand.run (c : ApplyCommand) : ExceptT Failure m RunReport := do
  let (o, table) ← c.input.load
  let plan ← loadPlan c.planFile
  let execution ← unlessFailed (plan.execute table) .execution
  writeTable o execution.table c.outputFile
  return {
    input := c.input.path
    table := execution.table
    plan := plan
    steps := execution.steps
    dialogue := none
    planFile := some c.planFile
    outputFile := c.outputFile }

/-- Reports what some answers come to. -/
def SuggestCommand.run (c : SuggestCommand) : ExceptT Failure m PrefixReport := do
  let (_, table) ← c.input.load
  unlessFailed (resolveAnswers table.schema c.answers c.options) .resolution

end
end TableTalk
