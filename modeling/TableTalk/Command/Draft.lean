import TableTalk.Command.Basic
import TableTalk.Text.Numeral
import TableTalk.Vocabulary

/-!
# Options and what they are given

An option is a flag or takes one value.  Most options may be given once; what was given so
far is kept in a draft, from which a command is made at the end.

## Main definitions

* `OptionName` — the options.
* `NoCommand` — why arguments lead to no command.
* `Draft`, `Draft.give`, `Draft.set` — what was given so far, and giving a flag or a value.
-/

namespace TableTalk

/-- The options. -/
inductive OptionName where
  /-- The character between two fields. -/
  | delimiter
  /-- Column types are not inferred. -/
  | noInfer
  /-- An answer given in advance. -/
  | suggest
  /-- The file with the answers. -/
  | answers
  /-- Answers have to be option numbers. -/
  | indexOnly
  /-- How many answers may be refused in one round. -/
  | maxAttempts
  /-- The file that the plan is saved to. -/
  | planOut
  /-- The file that the resulting table is written to. -/
  | output
  /-- The dialogue is shown again at the end. -/
  | showTranscript
  /-- The file with the plan. -/
  | plan
  /-- More is logged. -/
  | verbose
  /-- Less is logged. -/
  | quiet
  /-- Whether colours are shown. -/
  | color
  /-- What is logged. -/
  | logLevel
  /-- How the log is written. -/
  | logFormat
  /-- The file for the log. -/
  | logFile
  /-- Cells and answers may be logged. -/
  | logData
  /-- Help is asked for. -/
  | help
  /-- The version is asked for. -/
  | version
  deriving Repr, DecidableEq

instance : Vocabulary OptionName where
  members := [.delimiter, .noInfer, .suggest, .answers, .indexOnly, .maxAttempts, .planOut,
    .output, .showTranscript, .plan, .verbose, .quiet, .color, .logLevel, .logFormat, .logFile,
    .logData, .help, .version]
  label
    | .delimiter => "delimiter"
    | .noInfer => "no-infer"
    | .suggest => "suggest"
    | .answers => "answers"
    | .indexOnly => "index-only"
    | .maxAttempts => "max-attempts"
    | .planOut => "plan-out"
    | .output => "output"
    | .showTranscript => "show-transcript"
    | .plan => "plan"
    | .verbose => "verbose"
    | .quiet => "quiet"
    | .color => "color"
    | .logLevel => "log-level"
    | .logFormat => "log-format"
    | .logFile => "log-file"
    | .logData => "log-data"
    | .help => "help"
    | .version => "version"

namespace OptionName

/-- The option as it is written out. -/
def long (o : OptionName) : String := s!"--{Vocabulary.label o}"

/-- The letter that stands for an option. -/
def letter? : OptionName → Option Char
  | .verbose => some 'v'
  | .quiet => some 'q'
  | .help => some 'h'
  | .version => some 'V'
  | _ => none

/-- Whether an option takes a value. -/
def takesValue : OptionName → Bool
  | .delimiter | .suggest | .answers | .maxAttempts | .planOut | .output | .plan | .color
  | .logLevel | .logFormat | .logFile => true
  | .noInfer | .indexOnly | .showTranscript | .verbose | .quiet | .logData | .help
  | .version => false

/-- Whether an option may be given more than once. -/
def isRepeatable : OptionName → Bool
  | .suggest | .verbose | .quiet => true
  | _ => false

end OptionName

/-- Why arguments lead to no command. -/
inductive NoCommand where
  /-- There is no such option, or it does not belong to the command. -/
  | unknownOption (text : String)
  /-- The command takes no such argument. -/
  | unexpectedArgument (text : String)
  /-- There is no such command. -/
  | unknownCommand (text : String)
  /-- A value is missing or empty. -/
  | missingValue (subject : String)
  /-- The value is none of those that the option takes. -/
  | unlistedValue (o : OptionName) (value : String)
  /-- The value is not of the form that the option takes. -/
  | malformedValue (o : OptionName) (value : String)
  /-- The option takes no value. -/
  | unwantedValue (o : OptionName) (value : String)
  /-- The option was given before. -/
  | repeatedOption (o : OptionName)
  /-- Two options exclude each other. -/
  | conflictingOptions (o other : OptionName)
  /-- The command needs one more argument. -/
  | missingArgument (subject : String)
  /-- There are options only. -/
  | missingCommand
  /-- There are no arguments. -/
  | nothingGiven
  /-- Help is asked for. -/
  | helpAsked
  /-- The version is asked for. -/
  | versionAsked
  deriving Repr, DecidableEq

/-- The sentence that reports why there is no command. -/
def NoCommand.message : NoCommand → String
  | .unknownOption text => s!"unknown option {text}"
  | .unexpectedArgument text => s!"unexpected argument {text}"
  | .unknownCommand text => s!"unknown command {text}"
  | .missingValue subject => s!"{subject} needs a value"
  | .unlistedValue o value => s!"{o.long} does not take the value {value}"
  | .malformedValue o value => s!"{value} is no value for {o.long}"
  | .unwantedValue o value => s!"{o.long} takes no value, but {value} was given"
  | .repeatedOption o => s!"{o.long} was given more than once"
  | .conflictingOptions o other => s!"{o.long} and {other.long} exclude each other"
  | .missingArgument subject => s!"{subject} is missing"
  | .missingCommand => "a command is missing"
  | .nothingGiven => "a command is needed"
  | .helpAsked => "help was asked for"
  | .versionAsked => "the version was asked for"

/-- What was given so far. -/
structure Draft where
  /-- The options. -/
  given : List OptionName := []
  /-- The file with the table. -/
  input : Option String := none
  /-- The answers among the arguments. -/
  tokens : List String := []
  /-- The character between two fields. -/
  delimiter : Char := ','
  /-- The answers given in advance. -/
  suggestions : List String := []
  /-- How many answers may be refused in one round. -/
  maxAttempts : Option Nat := none
  /-- The file with the answers. -/
  answersFile : Option String := none
  /-- The file with the plan. -/
  planFile : Option String := none
  /-- The file that the plan is saved to. -/
  savedFile : Option String := none
  /-- The file that the resulting table is written to. -/
  outputFile : Option String := none
  /-- The file for the log. -/
  logFile : Option String := none
  deriving Repr, DecidableEq

namespace Draft

/-- Whether an option was given. -/
def has (d : Draft) (o : OptionName) : Bool := d.given.contains o

/-- The draft behind an option, its value aside. -/
def give (d : Draft) (o : OptionName) : Except NoCommand Draft :=
  if d.has o && !o.isRepeatable then .error (.repeatedOption o)
  else .ok { d with given := o :: d.given }

/-- A path, which is not empty. -/
def path (subject value : String) : Except NoCommand String :=
  if value.isEmpty then .error (.missingValue subject) else .ok value

/-- A value that is one of a list. -/
def listed (o : OptionName) (values : List String) (value : String) : Except NoCommand Unit :=
  if values.contains value then .ok () else .error (.unlistedValue o value)

/-- The draft behind the value of an option. -/
def set (d : Draft) (o : OptionName) (value : String) : Except NoCommand Draft :=
  match o with
  | .delimiter =>
    match value.toList with
    | [c] => .ok { d with delimiter := c }
    | _ => .error (.malformedValue o value)
  | .maxAttempts =>
    match Numeral.natural? value with
    | some n => .ok { d with maxAttempts := some n }
    | none => .error (.malformedValue o value)
  | .suggest => .ok { d with suggestions := d.suggestions ++ [value] }
  | .answers => do return { d with answersFile := some (← path o.long value) }
  | .plan => do return { d with planFile := some (← path o.long value) }
  | .planOut => do return { d with savedFile := some (← path o.long value) }
  | .output => do return { d with outputFile := some (← path o.long value) }
  | .logFile => do return { d with logFile := some (← path o.long value) }
  | .color => do listed o ["auto", "always", "never"] value; return d
  | .logLevel => do listed o ["error", "warn", "info", "debug", "trace"] value; return d
  | .logFormat => do listed o ["pretty", "compact", "json"] value; return d
  | .noInfer | .indexOnly | .showTranscript | .verbose | .quiet | .logData | .help
  | .version => .error (.unwantedValue o value)

/-- The draft unless it holds options that exclude each other. -/
def consistent (d : Draft) : Except NoCommand Draft :=
  if d.has .verbose && d.has .quiet then .error (.conflictingOptions .verbose .quiet)
  else .ok d

end Draft
end TableTalk
