import TableTalk.Command.Usage
import TableTalk.Dialogue.Storage
import TableTalk.Report.Summary

/-!
# The program

The arguments ask for a command; the command runs, and what it has to tell is printed.  No
log is kept: the options about logging are checked, and a log that is asked for stays empty.

## Main definitions

* `Command.run` — a command and what it prints.
* `Ending`, `program` — how the program ends, and the program.
-/

namespace TableTalk

/-- How the program ends. -/
inductive Ending where
  /-- The command succeeded. -/
  | done
  /-- The command failed. -/
  | failed (failure : Failure)
  /-- There was no command. -/
  | noCommand (reason : NoCommand)
  deriving Repr, DecidableEq

/-- The number that the program ends with. -/
def Ending.code : Ending → UInt8
  | .done => 0
  | .failed _ => 1
  | .noCommand .helpAsked | .noCommand .versionAsked => 0
  | .noCommand _ => 2

/-- What is told about an ending that is no success. -/
def Ending.complaint? : Ending → Option String
  | .done | .noCommand .helpAsked | .noCommand .versionAsked => none
  | .failed failure => some s!"error: {failure.message}"
  | .noCommand reason => some s!"error: {reason.message}"

/-- The version as it is told. -/
def versionText : String := "tabq 0.1.0\n"

/-- An option as help shows it. -/
def OptionName.helpLine (o : OptionName) : String :=
  let value := if o.takesValue then " <VALUE>" else ""
  match o.letter? with
  | some c => s!"  -{c}, {o.long}{value}\n"
  | none => s!"      {o.long}{value}\n"

/-- The commands and their options as help shows them. -/
def helpText : String :=
  let ofVerb := fun (verb : Verb) =>
    let options := (Grammar.ofVerb verb).options.filter fun o => !Grammar.everywhere.contains o
    s!"  {Vocabulary.label verb}\n" ++ String.join (options.map OptionName.helpLine)
  "Build and run tabular transformations through a question/answer dialogue\n\n" ++
    "Usage: tabq [OPTIONS] <COMMAND>\n\nCommands:\n" ++
    String.join ((Vocabulary.members : List Verb).map ofVerb) ++ "\nOptions:\n" ++
    String.join (Grammar.program.options.map OptionName.helpLine)

section

variable {m : Type → Type} [Monad m] [Acts m]

/-- Makes sure that there is a log if one is asked for. -/
def openLog : Option String → ExceptT Failure m Unit
  | none => return
  | some path => orFail (Acts.touchFile path) .log

/-- Runs a command and prints what it has to tell. -/
def Command.run : Command → ExceptT Failure m Unit
  | .query c => do ExceptT.lift (Acts.print (← c.run).summary)
  | .apply c => do ExceptT.lift (Acts.print (← c.run).summary)
  | .suggest c => do ExceptT.lift (Acts.print s!"{(← c.run).toJson.pretty}\n")
  | .variants => ExceptT.lift (Acts.print s!"{Kind.grid.render}\n")

/-- Opens the log and runs the command. -/
def CommandLine.run (c : CommandLine) : ExceptT Failure m Unit := do
  openLog c.logFile
  c.command.run

/-- Does what some arguments ask for. -/
def program (arguments : List String) : m Ending :=
  match CommandLine.read arguments with
  | .error .helpAsked => do
    Acts.print helpText
    return .noCommand .helpAsked
  | .error .versionAsked => do
    Acts.print versionText
    return .noCommand .versionAsked
  | .error reason => return .noCommand reason
  | .ok c => do
    match ← c.run.run with
    | .ok () => return .done
    | .error failure => return .failed failure

end
end TableTalk
