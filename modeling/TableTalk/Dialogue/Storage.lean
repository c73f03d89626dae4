import TableTalk.Dialogue.Prefix
import TableTalk.Json.Document
import TableTalk.Table.Storage

/-!
# Stored parts of a dialogue

## Main definitions

* `PrefixReport.toJson`, `Question.toJson` — a report and a question as documents.
* An instance of `Stored` for the options of a query.
-/

namespace TableTalk

instance : Stored QueryOptions where
  toJson o := .object [("matching", Stored.toJson o.matching),
    ("max_attempts_per_round", Json.orNull .natural o.maxAttempts)]
  ofJson? j := match j.fields? ["matching", "max_attempts_per_round"] with
    | some [some matching, maxAttempts] => do
      return ⟨← Stored.ofJson? matching, ← Json.optional? position? maxAttempts⟩
    | _ => none

/-- A question as a document. -/
def Question.toJson (q : Question) : Json :=
  .object [("state", Stored.toJson q.stage), ("variant", Json.orNull Stored.toJson q.kind),
    ("prompt", .string q.prompt), ("options", Json.orNull Json.strings q.options)]

/-- A refused answer as a document. -/
def RejectedAnswer.toJson (r : RejectedAnswer) : Json :=
  .object [("position", .natural r.position), ("answer", .string r.answer),
    ("invalid", Json.orNull Stored.toJson r.invalid), ("message", .string r.message)]

/-- A report as a document. -/
def PrefixReport.toJson (r : PrefixReport) : Json :=
  .object [("committed", .array (r.committed.map Json.strings)),
    ("rounds_resolved", .natural r.roundsResolved),
    ("rejected", .array (r.rejected.map RejectedAnswer.toJson)),
    ("ignored", .natural r.ignored),
    ("finished", .bool r.finished),
    ("pending", Json.orNull Question.toJson r.pending),
    ("last_resolved", Json.orNull .string r.lastResolved)]

end TableTalk
