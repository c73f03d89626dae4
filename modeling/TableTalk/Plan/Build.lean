import TableTalk.Plan.Transformation

/-!
# Building transformations from tokens

A line of tokens names a kind, by name or by number, and gives its parameters.  Words may be
spelt in their short forms.  Tokens behind the last parameter are passed over, except that
every further token of a `DropColumn` names one more column and every further token of a
`GroupBy` lists more keys.

## Main definitions

* `TransformError` — why a transformation cannot be built or applied.
* `Kind.read` — the kind that a token names.
* `Transformation.build`, `Transformation.ofTokens` — the transformation that tokens spell.
-/

namespace TableTalk

/-- What a token that was not recognised should have been. -/
inductive TokenRole where
  /-- The kind of a transformation. -/
  | kind
  /-- The direction of a sort. -/
  | direction
  /-- An aggregate. -/
  | aggregate
  /-- A list of keys. -/
  | keys
  /-- A relation. -/
  | relation
  deriving Repr, DecidableEq

/-- The name of a role in a sentence. -/
def TokenRole.noun : TokenRole → String
  | .kind => "transformation"
  | .direction => "sort direction"
  | .aggregate => "aggregation"
  | .keys => "group key list"
  | .relation => "relation"

/-- What is part of a vocabulary and cannot be executed. -/
inductive Reserved where
  /-- The relation `InRange`. -/
  | inRange
  /-- The aggregate `GroupKey`. -/
  | groupKey
  deriving Repr, DecidableEq

/-- The name of a reserved word in a sentence. -/
def Reserved.noun : Reserved → String
  | .inRange => "InRange relation"
  | .groupKey => "GroupKey aggregation"

/-- Why a transformation cannot be built or applied. -/
inductive TransformError where
  /-- The token is no word for its role. -/
  | unrecognized (role : TokenRole) (token : String)
  /-- There are fewer tokens than the kind takes; without a kind, the line is empty. -/
  | missing (kind : Option Kind) (expected actual : Nat)
  /-- The table has no such column. -/
  | unknownTarget (name : String)
  /-- The word is reserved. -/
  | unsupported (feature : Reserved)
  /-- The result would not be a table. -/
  | table (error : TableError)
  deriving Repr, DecidableEq

namespace TransformError

/-- The sentence that reports an error. -/
def message : TransformError → String
  | .unrecognized role token => s!"unrecognized {role.noun}: \"{token}\""
  | .missing kind expected actual =>
    let subject := (kind.map Kind.name).getD "transformation"
    s!"{subject} needs {expected} argument(s), got {actual}"
  | .unknownTarget name => s!"column \"{name}\" not found"
  | .unsupported feature => s!"{feature.noun} is not supported"
  | .table error => error.message

/-- Whether other tokens could mend the error. -/
def isRecoverable : TransformError → Bool
  | .unrecognized _ _ | .missing _ _ _ => true
  | .unknownTarget _ | .unsupported _ | .table _ => false

end TransformError

/-- The member with the given spelling, or the report that the token is none. -/
def readToken {α : Type} [Vocabulary α] (role : TokenRole) (token : String) :
    Except TransformError α :=
  match Vocabulary.read? token with
  | some a => .ok a
  | none => .error (.unrecognized role token)

/-- The kind that a token names or numbers. -/
def Kind.read (token : String) : Except TransformError Kind :=
  match Kind.resolve? token with
  | some kind => .ok kind
  | none => .error (.unrecognized .kind token)

namespace Transformation

/-- The keys that tokens list, at least one. -/
def readKeys (tokens : List String) : Except TransformError KeySet :=
  let keys := KeySet.ofTokens tokens
  if keys.isEmpty then .error (.unrecognized .keys (" ".intercalate tokens)) else .ok keys

/-- The transformation of a kind with the given parameters.  A wrong aggregate is reported
before a missing list of keys. -/
def ofArguments : Kind → List String → Except TransformError Transformation
  | .empty, _ => .ok .empty
  | .dropColumn, column :: columns => .ok (.dropColumn (column :: columns).eraseDups)
  | .sortBy, column :: word :: _ => do
    return .sortBy column (← readToken .direction word)
  | .groupBy, column :: word :: lists => do
    let aggregate : Aggregate ← readToken .aggregate word
    if !aggregate.needsKeys then return .groupBy column aggregate .empty
    else if lists.isEmpty then throw (.missing (some .groupBy) 3 2)
    else return .groupBy column aggregate (← readKeys lists)
  | .filterBy, column :: word :: literal :: _ => do
    return .filterBy ⟨column, ← readToken .relation word, literal⟩
  | kind, arguments =>
    .error (.missing (some kind) (kind.rounds arguments[1]?) arguments.length)

/-- The transformation whose kind a token names and whose parameters are given. -/
def build (kind : String) (arguments : List String) : Except TransformError Transformation := do
  ofArguments (← Kind.read kind) arguments

/-- The transformation that a line of tokens spells. -/
def ofTokens : List String → Except TransformError Transformation
  | [] => .error (.missing none 1 0)
  | kind :: arguments => build kind arguments

end Transformation
end TableTalk
