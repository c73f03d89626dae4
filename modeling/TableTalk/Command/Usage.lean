import TableTalk.Command.Draft

/-!
# From arguments to a command

The first argument that names a command splits the arguments: what stands in front of it are
options of the program, what stands behind it belongs to the command.  Behind `--` no
argument is an option any more.  The answers that are given to a command may look like
options, and once there is one of them, all arguments behind it are answers.

The value of an option is checked as soon as the next option or argument is at hand, so that
an argument that cannot be placed is reported in favour of the value in front of it.

## Main definitions

* `Verb`, `Grammar` — the commands by name, and which options and arguments they take.
* `Spelling` — an argument by its look.
* `Reading` — what has been read so far; `Reading.step` — one more argument.
* `CommandLine.read` — the command that some arguments ask for.
-/

namespace TableTalk

/-! ### Grammars -/

/-- The names of commands. -/
inductive Verb where
  /-- Building a plan in a dialogue. -/
  | query
  /-- Executing a stored plan. -/
  | apply
  /-- Reporting what some answers come to. -/
  | suggest
  /-- Listing the kinds of transformations. -/
  | variants
  deriving Repr, DecidableEq

instance : Vocabulary Verb where
  members := [.query, .apply, .suggest, .variants]
  label
    | .query => "query"
    | .apply => "apply"
    | .suggest => "suggest"
    | .variants => "variants"

/-- The arguments that are no options. -/
inductive Positional where
  /-- The file with the table. -/
  | input
  /-- Any number of answers. -/
  | tokens
  deriving Repr, DecidableEq

/-- The options and arguments that are taken. -/
structure Grammar where
  /-- The options. -/
  options : List OptionName
  /-- The arguments in order. -/
  positionals : List Positional := []
  /-- The words that may follow in place of an argument. -/
  words : List String := []
  deriving Repr, DecidableEq

namespace Grammar

/-- The options that are taken everywhere. -/
def everywhere : List OptionName :=
  [.verbose, .quiet, .color, .logLevel, .logFormat, .logFile, .logData, .help]

/-- What stands in front of the name of a command. -/
def program : Grammar where
  options := .version :: everywhere
  words := Vocabulary.labels Verb ++ ["help"]

/-- What stands behind the name of a command. -/
def ofVerb : Verb → Grammar
  | .query => ⟨[.delimiter, .noInfer, .suggest, .answers, .indexOnly, .maxAttempts, .planOut,
      .output, .showTranscript] ++ everywhere, [.input], []⟩
  | .apply => ⟨[.delimiter, .noInfer, .plan, .output] ++ everywhere, [.input], []⟩
  | .suggest => ⟨[.delimiter, .noInfer, .indexOnly] ++ everywhere, [.input, .tokens], []⟩
  | .variants => ⟨everywhere, [], []⟩

/-- The option with the given name. -/
def option? (g : Grammar) (name : String) : Option OptionName :=
  g.options.find? fun o => Vocabulary.label o == name

/-- The option that the given letter stands for. -/
def letter? (g : Grammar) (c : Char) : Option OptionName :=
  g.options.find? fun o => o.letter? == some c

end Grammar

/-! ### Arguments by their look -/

/-- An argument by its look. -/
inductive Spelling where
  /-- `--`, behind which there are no options. -/
  | separator
  /-- An option by its name, with a value if there is an equals sign. -/
  | named (name : String) (value : Option String)
  /-- Options by their letters. -/
  | letters (cs : List Char)
  /-- Anything else. -/
  | plain
  deriving Repr, DecidableEq

/-- The look of an argument. -/
def Spelling.of (argument : String) : Spelling :=
  match argument.toList with
  | ['-', '-'] => .separator
  | '-' :: '-' :: cs =>
    let name := String.ofList (cs.takeWhile (· != '='))
    match cs.dropWhile (· != '=') with
    | _ :: value => .named name (some (String.ofList value))
    | [] => .named name none
  | ['-'] => .plain
  | '-' :: cs => .letters cs
  | _ => .plain

/-! ### Reading arguments -/

/-- Where the next argument belongs. -/
inductive Place where
  /-- It may be an option or an argument of any kind. -/
  | anywhere
  /-- It is the value of an option unless it is an option. -/
  | valueOf (o : OptionName)
  /-- It is one more answer. -/
  | tokens
  deriving Repr, DecidableEq

/-- Something that was read and still has to be checked. -/
inductive Unchecked where
  /-- An option and its value, if there is one yet. -/
  | value (o : OptionName) (value : Option String)
  /-- The file with the table. -/
  | input (path : String)
  deriving Repr, DecidableEq

/-- The draft behind what still had to be checked. -/
def Draft.check (d : Draft) : Unchecked → Except NoCommand Draft
  | .value o none => .error (.missingValue o.long)
  | .value o (some value) => do (← d.give o).set o value
  | .input path => do return { d with input := some (← Draft.path "the input" path) }

/-- What has been read so far. -/
structure Reading where
  /-- What was given and checked. -/
  draft : Draft := {}
  /-- What still has to be checked. -/
  unchecked : Option Unchecked := none
  /-- Where the next argument belongs. -/
  place : Place := .anywhere
  /-- How many places for arguments are filled. -/
  filled : Nat := 0
  /-- Whether there are no options any more. -/
  literal : Bool := false
  deriving Repr, DecidableEq

namespace Reading

/-- The reading with nothing left to be checked. -/
def settle (r : Reading) : Except NoCommand Reading :=
  match r.unchecked with
  | some u => do return { r with draft := ← r.draft.check u, unchecked := none }
  | none => .ok r

/-- The reading behind a flag. -/
def flag (r : Reading) (o : OptionName) : Except NoCommand Reading := do
  let r ← r.settle
  match o with
  | .help => .error .helpAsked
  | .version => .error .versionAsked
  | _ => return { r with draft := ← r.draft.give o, place := .anywhere }

/-- The reading behind an option and the value behind its equals sign. -/
def option (r : Reading) (o : OptionName) (value? : Option String) : Except NoCommand Reading :=
  if o.takesValue then do
    let r ← r.settle
    match value? with
    | some value =>
      return { r with draft := ← r.draft.check (.value o (some value)), place := .anywhere }
    | none => return { r with unchecked := some (.value o none), place := .valueOf o }
  else
    match value? with
    | some value => .error (.unwantedValue o value)
    | none => r.flag o

/-- The reading behind some letters. -/
def letters (g : Grammar) (r : Reading) : List Char → Except NoCommand Reading
  | [] => .ok r
  | c :: cs =>
    match g.letter? c with
    | some o => do letters g (← r.flag o) cs
    | none => .error (.unknownOption s!"-{c}")

/-- The place for an argument that is to be filled next. -/
def open? (g : Grammar) (r : Reading) : Option Positional := g.positionals[r.filled]?

/-- The reading behind an argument that is no option. -/
def positional (g : Grammar) (r : Reading) (argument : String) : Except NoCommand Reading :=
  match r.open? g with
  | some .input => do
    let r ← r.settle
    return { r with
      unchecked := some (.input argument), place := .anywhere, filled := r.filled + 1 }
  | some .tokens => do
    let r ← r.settle
    return { r with
      draft := { r.draft with tokens := r.draft.tokens ++ [argument] }, place := .tokens }
  | none =>
    -- Behind `--` the name of a command is an argument, which the program does not take.
    if g.words.isEmpty || (r.literal && g.words.contains argument) then
      .error (.unexpectedArgument argument)
    else .error (.unknownCommand argument)

/-- The reading behind an argument that does not look like an option that is taken. -/
def plain (g : Grammar) (r : Reading) (argument : String) : Except NoCommand Reading :=
  match r.place with
  | .valueOf o => .ok { r with unchecked := some (.value o (some argument)), place := .anywhere }
  | _ => r.positional g argument

/-- The reading behind one more argument.  Where answers are expected, what looks like an
option but is none is taken for an argument. -/
def step (g : Grammar) (r : Reading) (argument : String) : Except NoCommand Reading :=
  let expectsTokens := r.open? g == some .tokens
  if r.literal || r.place == .tokens then r.positional g argument
  else
    match Spelling.of argument with
    -- An option that still waits for its value keeps waiting, and will be found without one.
    | .separator => .ok { r with literal := true }
    | .named name value? =>
      match g.option? name with
      | some o => r.option o value?
      | none =>
        if expectsTokens then r.plain g argument else .error (.unknownOption s!"--{name}")
    | .letters cs =>
      if expectsTokens && cs.any fun c => (g.letter? c).isNone then r.plain g argument
      else r.letters g cs
    | .plain => r.plain g argument

/-- Whether an argument is one of the words that may follow. -/
def meets (g : Grammar) (r : Reading) (argument : String) : Bool :=
  !r.literal && r.place == .anywhere && g.words.contains argument

/-- The reading behind the arguments in front of the first word, and the arguments from that
word on. -/
def steps (g : Grammar) (r : Reading) : List String → Except NoCommand (Reading × List String)
  | [] => .ok (r, [])
  | argument :: rest =>
    if r.meets g argument then .ok (r, argument :: rest)
    else do steps g (← r.step g argument) rest

end Reading

/-! ### Commands -/

namespace Draft

/-- How answers are treated. -/
def queryOptions (d : Draft) : QueryOptions where
  matching := if d.has .indexOnly then .indexOnly else .labelOrIndex
  maxAttempts := d.maxAttempts

/-- The table, which has to be given. -/
def theInput (d : Draft) : Except NoCommand Input :=
  match d.input with
  | some path => .ok { path := path, delimiter := d.delimiter, infer := !d.has .noInfer }
  | none => .error (.missingArgument "the input")

/-- The command of the given name. -/
def command (d : Draft) : Verb → Except NoCommand Command
  | .query => do
    return .query {
      input := ← d.theInput
      suggestions := d.suggestions
      answers := d.answersFile
      options := d.queryOptions
      planFile := d.savedFile
      outputFile := d.outputFile
      showTranscript := d.has .showTranscript }
  | .apply => do
    let input ← d.theInput
    match d.planFile with
    | some planFile => return .apply ⟨input, planFile, d.outputFile⟩
    | none => .error (.missingArgument OptionName.plan.long)
  | .suggest => do return .suggest ⟨← d.theInput, d.tokens, d.queryOptions⟩
  | .variants => .ok .variants

end Draft

namespace CommandLine

/-- What asking for help on some words comes to: there is help on one command at a time. -/
def help : List String → NoCommand
  | [] => .helpAsked
  | word :: words =>
    if !Grammar.program.words.contains word then .unknownCommand word
    else match words with
      | [] => .helpAsked
      | next :: _ => .unknownCommand next

/-- The command that some arguments ask for. -/
def read (arguments : List String) : Except NoCommand CommandLine := do
  let (outer, rest) ← Reading.steps .program {} arguments
  match rest with
  | [] =>
    let outer ← outer.settle
    .error (if outer.draft.given.isEmpty then .nothingGiven else .missingCommand)
  | word :: rest =>
    match Vocabulary.ofLabel? (α := Verb) word with
    | none => .error (help rest)
    | some verb =>
      -- The command is settled before the options in front of its name.
      let (inner, _) ← Reading.steps (.ofVerb verb) {} rest
      let inner ← (← inner.settle).draft.consistent
      let command ← inner.command verb
      let outer ← (← outer.settle).draft.consistent
      return ⟨command, inner.logFile.or outer.logFile⟩

end CommandLine
end TableTalk
