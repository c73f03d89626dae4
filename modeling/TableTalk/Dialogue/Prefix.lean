import TableTalk.Dialogue.Query

/-!
# Resolving answers without a dialogue

Given the answers so far, what do they commit, which of them are refused, and what does the
next answer have to address?  With the report a front end can take a dialogue up again, or
offer the next options.

## Main definitions

* `RejectedAnswer`, `PrefixReport` — the report.
* `resolveAnswers` — the report on a list of answers.
-/

namespace TableTalk

/-- An answer that did not advance the query. -/
structure RejectedAnswer where
  /-- Its position among the answers. -/
  position : Nat
  /-- The answer. -/
  answer : String
  /-- Why it was refused, if it was refused as an answer to its question. -/
  invalid : Option Invalid
  /-- The sentence that reports it. -/
  message : String
  deriving Repr, DecidableEq

/-- What a list of answers comes to. -/
structure PrefixReport where
  /-- The token lines of the committed transformations. -/
  committed : List (List String)
  /-- The number of accepted answers. -/
  roundsResolved : Nat
  /-- The answers that did not advance the query. -/
  rejected : List RejectedAnswer
  /-- The number of answers behind the end of the query, which were not read. -/
  ignored : Nat
  /-- Whether the query has ended. -/
  finished : Bool
  /-- What the next answer has to address, unless the query has ended. -/
  pending : Option Question
  /-- What the last accepted answer stands for. -/
  lastResolved : Option String
  deriving Repr, DecidableEq

namespace PrefixReport

/-- A query and what has been found out about the answers so far. -/
structure Progress where
  /-- The query. -/
  query : Query
  /-- The answers that did not advance it. -/
  rejected : List RejectedAnswer := []
  /-- What the last accepted answer stands for. -/
  lastResolved : Option String := none
  deriving Repr, DecidableEq

/-- Why an answer was refused, if it was refused as an answer to its question. -/
def invalid? : Outcome → Option Invalid
  | .rejected reason => some reason
  | _ => none

/-- The progress behind one more answer.  Going over the limit of refusals is noted down as
a refusal; only what no other answer could mend is an error. -/
def Progress.take (p : Progress) (position : Nat) (answer : String) : Except QueryError Progress :=
  let reject := fun query invalid message =>
    { p with query := query, rejected := p.rejected ++ [⟨position, answer, invalid, message⟩] }
  match p.query.submit answer .replayed with
  | (query, .ok outcome) =>
    match outcome.rejection? with
    | some message => .ok (reject query (invalid? outcome) message)
    | none =>
      let grown := p.query.history.length < query.history.length
      .ok { p with
        query := query
        lastResolved :=
          if grown then query.history.getLast?.map (·.resolved) else p.lastResolved }
  | (query, .error (.exhausted stage attempts last)) =>
    .ok (reject query none (QueryError.exhausted stage attempts last).message)
  | (_, .error e) => .error e

/-- The progress behind a list of answers, the first of which has the given position, and
the number of answers that were not read. -/
def Progress.takeAll (p : Progress) (position : Nat) :
    List String → Except QueryError (Progress × Nat)
  | [] => .ok (p, 0)
  | answer :: answers =>
    if p.query.isFinished then .ok (p, answers.length + 1)
    else do
      let p ← p.take position answer
      p.takeAll (position + 1) answers

/-- The report on a progress. -/
def Progress.report (p : Progress) (ignored : Nat) : PrefixReport where
  committed := p.query.committed.map Transformation.tokens
  roundsResolved := p.query.roundsFrom .replayed
  rejected := p.rejected
  ignored := ignored
  finished := p.query.isFinished
  pending := p.query.question?
  lastResolved := p.lastResolved

end PrefixReport

/-- The report on a list of answers to a query on the given schema. -/
def resolveAnswers (schema : Schema) (answers : List String) (options : QueryOptions) :
    Except QueryError PrefixReport := do
  let (p, ignored) ← PrefixReport.Progress.takeAll ⟨.start schema options, [], none⟩ 0 answers
  return p.report ignored

end TableTalk
