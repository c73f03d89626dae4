import TableTalk.Dialogue.Question
import TableTalk.Plan.Execution

/-!
# Queries

A query acquires one transformation after the other.  Every round presents options or asks
for free text, checks one answer, and moves on, repeats the round, or commits the finished
transformation.  Answers are checked against the schema that the committed transformations
lead to.

Nothing is committed before every round of a transformation is answered, and a refused
answer changes nothing but the counts of refusals, unless it is one too many: then the
transformation in progress is given up.

## Main definitions

* `Query` — the state; `Query.start` — the state before the first answer.
* `Query.question?` — what the next answer has to address.
* `Query.submit` — the state behind an answer, and what came of it.
* `QueryError` — why a query cannot go on as asked.
-/

namespace TableTalk

/-- Why a channel to the answering party failed. -/
inductive ChannelError where
  /-- No answer is left in a script. -/
  | scriptExhausted
  /-- The input came to its end. -/
  | inputClosed
  /-- The input is no text. -/
  | notText
  /-- The channel gave a reason of its own. -/
  | broken (reason : String)
  deriving Repr, DecidableEq

namespace ChannelError

/-- The sentence that reports a failure. -/
def message : ChannelError → String
  | .scriptExhausted => "answer script exhausted"
  | .inputClosed => "input closed before the query finished"
  | .notText => "stream did not contain valid UTF-8"
  | .broken reason => reason

/-- Whether the failure is that nothing is left to read. -/
def isEndOfInput : ChannelError → Bool
  | .scriptExhausted | .inputClosed => true
  | .notText | .broken _ => false

end ChannelError

/-- Why a query cannot go on as asked. -/
inductive QueryError where
  /-- The channel failed. -/
  | channel (cause : ChannelError)
  /-- Too many answers were refused in one round, the last one for the given outcome. -/
  | exhausted (stage : Stage) (attempts : Nat) (last : Outcome)
  /-- Accepted answers do not make up a transformation. -/
  | build (cause : TransformError)
  /-- The query has ended. -/
  | finished
  deriving Repr, DecidableEq

namespace QueryError

/-- The sentence that reports an error. -/
def message : QueryError → String
  | .channel cause => s!"dialogue channel failed: {cause.message}"
  | .exhausted stage attempts _ =>
    s!"gave up on {Vocabulary.label stage} after {attempts} rejected answer(s)"
  | .build cause => s!"failed to build transformation: {cause.message}"
  | .finished => "query is finished"

/-- The sentences that report the causes of an error. -/
def causes : QueryError → List String
  | .channel cause => [cause.message]
  | .build cause => [cause.message]
  | .exhausted _ _ _ | .finished => []

end QueryError

/-- A transformation in progress. -/
structure Pending where
  /-- Its kind. -/
  kind : Kind
  /-- The answers to its rounds so far. -/
  answers : List String := []
  /-- The length of the history before its kind was chosen. -/
  start : Nat
  deriving Repr, DecidableEq

/-- The round whose answer comes next. -/
def Pending.round? (p : Pending) : Option Round := p.kind.round? p.answers.length p.answers[1]?

/-- What a query is doing. -/
inductive Phase where
  /-- The kind of the next transformation is chosen. -/
  | choosing
  /-- A transformation is in progress. -/
  | asking (pending : Pending)
  /-- The query has ended. -/
  | finished
  deriving Repr, DecidableEq

/-- A query in progress. -/
structure Query where
  /-- The schema behind the committed transformations. -/
  schema : Schema
  /-- How answers are treated. -/
  options : QueryOptions
  /-- What the query is doing. -/
  phase : Phase := .choosing
  /-- The committed transformations. -/
  committed : Plan := []
  /-- The accepted answers, those of the transformation in progress among them. -/
  history : List HistoryEntry := []
  /-- How many answers were refused in this round. -/
  attempts : Nat := 0
  /-- How many answers were refused at all. -/
  rejections : Nat := 0
  deriving Repr, DecidableEq

namespace Query

/-- The query before the first answer. -/
def start (schema : Schema) (options : QueryOptions) : Query where
  schema := schema
  options := options

/-- The wording of the choice of a kind. -/
def kindPrompt : String := "Choose next transformation"

/-- Whether the query has ended. -/
def isFinished (q : Query) : Bool := q.phase == .finished

/-- Where the query stands. -/
def stage (q : Query) : Stage :=
  match q.phase with
  | .choosing => .kind
  | .asking p => (p.round?.map Stage.ofRound).getD .kind
  | .finished => .finished

/-- The question that a round of a kind asks. -/
def roundQuestion (schema : Schema) (kind : Kind) (round : Round) : Question where
  stage := .ofRound round
  kind := some kind
  prompt := kind.instruction round
  options := kind.options? round schema

/-- What the next answer has to address, unless the query has ended. -/
def question? (q : Query) : Option Question :=
  match q.phase with
  | .choosing => some ⟨.kind, none, kindPrompt, some Kind.names⟩
  | .asking p => p.round?.map (roundQuestion q.schema p.kind)
  | .finished => none

/-- How many accepted answers came from a source. -/
def roundsFrom (q : Query) (source : Source) : Nat :=
  (q.history.filter fun entry => entry.source == source).length

/-! ### What an answer does -/

/-- The history with one more accepted answer. -/
def record (q : Query) (stage : Stage) (resolved : String) (source : Source) :
    List HistoryEntry :=
  q.history ++ [⟨q.committed.length, stage, resolved, source⟩]

/-- The query without the transformation in progress and its answers. -/
def discard (q : Query) : Query :=
  match q.phase with
  | .asking p => { q with phase := .choosing, history := q.history.take p.start, attempts := 0 }
  | _ => { q with attempts := 0 }

/-- The query behind a refused answer.  One refusal more than the limit allows gives the
transformation in progress up. -/
def refuse (q : Query) (outcome : Outcome) (stage : Stage) : Query × Except QueryError Outcome :=
  let q := { q with attempts := q.attempts + 1, rejections := q.rejections + 1 }
  match q.options.maxAttempts with
  | some limit =>
    if limit < q.attempts then (q.discard, .error (.exhausted stage q.attempts outcome))
    else (q, .ok outcome)
  | none => (q, .ok outcome)

/-- The query behind the answer that ends it. -/
def finish (q : Query) (resolved : String) (source : Source) : Query × Except QueryError Outcome :=
  ({ q with phase := .finished, history := q.record .kind resolved source, attempts := 0 },
    .ok .finished)

/-- The query behind the choice of a kind. -/
def chooseKind (q : Query) (label : String) (source : Source) :
    Query × Except QueryError Outcome :=
  match Kind.read label with
  | .error cause => (q, .error (.build cause))
  | .ok kind =>
    if kind == .empty then q.finish label source
    else if (kind.targets q.schema).isEmpty then q.refuse (.noTargets kind) .kind
    else
      ({ q with
          phase := .asking { kind := kind, start := q.history.length }
          history := q.record .kind label source
          attempts := 0 },
        .ok (.accepted label))

/-- The query behind a finished transformation, whose last answer is in the history. -/
def commit (q : Query) (history : List HistoryEntry) (t : Transformation) : Query :=
  { q with
    schema := t.preview q.schema
    phase := .choosing
    committed := q.committed ++ [t]
    history := history
    attempts := 0 }

/-- The query behind the answer to a round of the transformation in progress. -/
def answerRound (q : Query) (p : Pending) (stage : Stage) (resolved : String) (source : Source) :
    Query × Except QueryError Outcome :=
  let answers := p.answers ++ [resolved]
  let history := q.record stage resolved source
  if answers.length < p.kind.rounds answers[1]? then
    ({ q with phase := .asking { p with answers := answers }, history := history, attempts := 0 },
      .ok (.accepted resolved))
  else
    match Transformation.build p.kind.name answers with
    | .ok t => (q.commit history t, .ok (.committed t))
    | .error cause =>
      -- The answers of earlier rounds stay; only the last one is asked for again.
      if cause.isRecoverable then q.refuse (.unbuildable cause) stage
      else (q.discard, .error (.build cause))

/-- The label or text that an answer to a question stands for, none if it stops the query.
Only the choice of a kind may be answered by stopping. -/
def resolve (q : Query) (question : Question) (answer : String) :
    Except Invalid (Option String) :=
  match question.options with
  | some options =>
    (choose answer options q.options.matching (question.stage == .kind)).map Choice.label?
  | none => (freeText answer).map some

/-- The query behind an answer, and what came of the answer. -/
def submit (q : Query) (answer : String) (source : Source) : Query × Except QueryError Outcome :=
  match q.question? with
  | none => (q, .error .finished)
  | some question =>
    match q.resolve question answer with
    | .error reason => q.refuse (.rejected reason) question.stage
    | .ok none => q.finish "" source
    | .ok (some resolved) =>
      match q.phase with
      | .asking p => q.answerRound p question.stage resolved source
      | _ => q.chooseKind resolved source

/-- The query behind a list of answers. -/
def submitAll (q : Query) (answers : List (String × Source)) : Query :=
  answers.foldl (fun q (answer, source) => (q.submit answer source).1) q

end Query
end TableTalk
