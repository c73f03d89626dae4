import TableTalk.Dialogue.Answer
import TableTalk.Plan.Build

/-!
# Questions and what comes of them

## Main definitions

* `Stage` — where a query stands; `Question` — what the next answer has to address.
* `Source`, `HistoryEntry` — an accepted answer and where it came from.
* `Outcome` — what came of an answer.
* `QueryOptions` — how answers are matched and how many may be refused.
-/

namespace TableTalk

/-- Where a query stands. -/
inductive Stage where
  /-- A kind of transformation is chosen. -/
  | kind
  /-- A column is chosen. -/
  | target
  /-- A word is chosen. -/
  | argument
  /-- Free text is written. -/
  | freeform
  /-- The query has ended. -/
  | finished
  deriving Repr, DecidableEq

instance : Vocabulary Stage where
  members := [.kind, .target, .argument, .freeform, .finished]
  label
    | .kind => "ChoosingVariant"
    | .target => "ChoosingPrimaryTarget"
    | .argument => "ChoosingSecondaryArgument"
    | .freeform => "ChoosingFreeformArgument"
    | .finished => "Finished"

/-- The stage in which the answer to a round is awaited. -/
def Stage.ofRound : Round → Stage
  | .target => .target
  | .argument => .argument
  | .freeform => .freeform

/-- What the next answer has to address. -/
structure Question where
  /-- Where the query stands. -/
  stage : Stage
  /-- The kind that is being parameterised. -/
  kind : Option Kind
  /-- The wording. -/
  prompt : String
  /-- The options, unless the question asks for free text. -/
  options : Option (List String)
  deriving Repr, DecidableEq

/-- The options that are shown; a question for free text shows none. -/
def Question.shown (q : Question) : List String := q.options.getD []

/-- Where an answer came from. -/
inductive Source where
  /-- It was given in advance. -/
  | replayed
  /-- It was asked for. -/
  | live
  deriving Repr, DecidableEq

instance : Vocabulary Source where
  members := [.replayed, .live]
  label
    | .replayed => "Replayed"
    | .live => "Live"

/-- An accepted answer. -/
structure HistoryEntry where
  /-- The position of the transformation it belongs to. -/
  transformation : Nat
  /-- The stage it was given in. -/
  stage : Stage
  /-- The label or text that it stands for. -/
  resolved : String
  /-- Where it came from. -/
  source : Source
  deriving Repr, DecidableEq

/-- What came of an answer. -/
inductive Outcome where
  /-- It was accepted, and more rounds are left. -/
  | accepted (resolved : String)
  /-- It completed a transformation. -/
  | committed (t : Transformation)
  /-- It ended the query. -/
  | finished
  /-- It was refused, and the round is repeated. -/
  | rejected (reason : Invalid)
  /-- The kind it chose has no column to work on. -/
  | noTargets (kind : Kind)
  /-- The answers do not make up a transformation, and the last round is repeated. -/
  | unbuildable (error : TransformError)
  deriving Repr, DecidableEq

/-- What the answering party is told, if the answer was not accepted. -/
def Outcome.rejection? : Outcome → Option String
  | .rejected reason => some reason.message
  | .noTargets kind => some s!"{kind.name} has no columns to choose from"
  | .unbuildable error => some error.message
  | .accepted _ | .committed _ | .finished => none

/-- How a query treats answers. -/
structure QueryOptions where
  /-- How answers are matched against options. -/
  matching : Matching := .labelOrIndex
  /-- How many answers may be refused in one round before the transformation is given up;
  without a limit, any number. -/
  maxAttempts : Option Nat := none
  deriving Repr, DecidableEq

end TableTalk
