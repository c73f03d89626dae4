import TableTalk.Dialogue.Question

/-!
# Commands

## Main definitions

* `Input` — a file that holds a table, and how it is read.
* `QueryCommand`, `ApplyCommand`, `SuggestCommand` — what the commands on a table are given.
* `Command` — the commands; `CommandLine` — a command and the log it is to leave.
-/

namespace TableTalk

/-- A file that holds a table, and how it is read. -/
structure Input where
  /-- The path of the file. -/
  path : String
  /-- The character between two fields. -/
  delimiter : Char := ','
  /-- Whether column types are inferred. -/
  infer : Bool := true
  deriving Repr, DecidableEq

/-- Building a plan in a dialogue and executing it. -/
structure QueryCommand where
  /-- The table. -/
  input : Input
  /-- The answers given in advance. -/
  suggestions : List String := []
  /-- The file with the other answers, which are asked for if there is none. -/
  answers : Option String := none
  /-- How answers are treated. -/
  options : QueryOptions := {}
  /-- The file that the plan is saved to. -/
  planFile : Option String := none
  /-- The file that the resulting table is written to. -/
  outputFile : Option String := none
  /-- Whether the dialogue is shown again at the end. -/
  showTranscript : Bool := false
  deriving Repr, DecidableEq

/-- Executing a stored plan. -/
structure ApplyCommand where
  /-- The table. -/
  input : Input
  /-- The file with the plan. -/
  planFile : String
  /-- The file that the resulting table is written to. -/
  outputFile : Option String := none
  deriving Repr, DecidableEq

/-- Reporting what some answers come to. -/
structure SuggestCommand where
  /-- The table. -/
  input : Input
  /-- The answers. -/
  answers : List String := []
  /-- How answers are treated. -/
  options : QueryOptions := {}
  deriving Repr, DecidableEq

/-- The commands. -/
inductive Command where
  /-- A plan is built in a dialogue and executed. -/
  | query (c : QueryCommand)
  /-- A stored plan is executed. -/
  | apply (c : ApplyCommand)
  /-- What some answers come to is reported. -/
  | suggest (c : SuggestCommand)
  /-- The kinds of transformations are listed. -/
  | variants
  deriving Repr, DecidableEq

/-- A command and the log it is to leave. -/
structure CommandLine where
  /-- The command. -/
  command : Command
  /-- The file for the log. -/
  logFile : Option String := none
  deriving Repr, DecidableEq

end TableTalk
