import TableTalk.Dialogue.Channel

/-!
# Dialogues over a channel

A session is a query together with answers given in advance.  Each turn takes one answer,
the next one given in advance as long as there is one, and one read from the channel behind
its question otherwise.  Refusals are passed on to the channel whichever way the answer came.

Every turn that goes on has used an answer up, so a session runs until a transformation is
committed, or to the end of the query, by recursion on the answers that are left.

## Main definitions

* `Session` — a query and the answers given in advance.
* `Session.turn` — one answer.
* `Session.next`, `Session.run` — turns until a transformation is committed, and until the
  query ends.

## Main results

* `Session.turn_weight` — a turn behind which the session goes on uses an answer up.
-/

namespace TableTalk

/-- How a turn ends. -/
inductive Turn where
  /-- More answers are needed for the transformation in progress. -/
  | more
  /-- A transformation was committed. -/
  | committed (t : Transformation)
  /-- The query has ended. -/
  | finished
  /-- The query could not go on. -/
  | failed (e : QueryError)
  deriving Repr, DecidableEq

/-- Whether the session goes on behind a turn. -/
def Turn.goesOn : Turn → Bool
  | .more | .committed _ => true
  | .finished | .failed _ => false

/-- What is passed on to the answering party, and how the turn ends once that is done. -/
def Turn.ofResult : Except QueryError Outcome → Option String × Turn
  | .ok (.committed t) => (none, .committed t)
  | .ok .finished => (none, .finished)
  | .ok outcome => (outcome.rejection?, .more)
  | .error (.exhausted stage attempts last) =>
    (last.rejection?, .failed (.exhausted stage attempts last))
  | .error e => (none, .failed e)

/-- A query and the answers given in advance that are left. -/
structure Session where
  /-- The query. -/
  query : Query
  /-- The answers given in advance. -/
  replay : List String := []
  deriving Repr, DecidableEq

namespace Session

/-- The question that has to be asked next, unless an answer was given in advance or the
query has ended. -/
def asks? (s : Session) : Option Question :=
  if s.replay.isEmpty then s.query.question? else none

section

variable {σ : Type} [Port σ]

/-- The end of a turn: a refusal is passed on, and if that fails so does the turn. -/
def settle (result : Except QueryError Outcome) (c : σ) : σ × Turn :=
  match Turn.ofResult result with
  | (none, turn) => (c, turn)
  | (some message, turn) =>
    match Port.report message c with
    | (.ok (), c) => (c, turn)
    | (.error e, c) => (c, .failed (.channel e))

/-- A question shown and its answer read. -/
def ask (question : Question) (c : σ) : Except ChannelError String × σ :=
  match Port.present question.prompt question.shown c with
  | (.ok (), c) => Port.read c
  | (.error e, c) => (.error e, c)

/-- One answer: the session and the channel behind it, and how the turn ended. -/
def turn (s : Session) (c : σ) : Session × σ × Turn :=
  match s.query.question? with
  | none => (s, c, .finished)
  | some question =>
    match s.replay with
    -- An answer given in advance needs no question, but its refusal is passed on.
    | answer :: replay =>
      let (query, result) := s.query.submit answer .replayed
      (⟨query, replay⟩, settle result c)
    | [] =>
      match ask question c with
      | (.error e, c) => (s, c, .failed (.channel e))
      | (.ok answer, c) =>
        let (query, result) := s.query.submit answer .live
        (⟨query, []⟩, settle result c)

end

variable {σ : Type} [Channel σ]

/-- How many answers are left at most. -/
def weight (s : Session) (c : σ) : Nat := s.replay.length + Channel.remaining c

theorem remaining_settle (result : Except QueryError Outcome) (c : σ) :
    Channel.remaining (settle result c).1 ≤ Channel.remaining c := by
  unfold settle
  split
  · exact Nat.le_refl _
  · next message turn _ =>
    have h := Channel.remaining_report message c
    split <;> next heq => rw [heq] at h; exact h

theorem remaining_ask {question : Question} {c c' : σ} {answer : String}
    (h : ask question c = (.ok answer, c')) : Channel.remaining c' < Channel.remaining c := by
  unfold ask at h
  have hp := Channel.remaining_present question.prompt question.shown c
  split at h
  · next c₁ heq =>
    rw [heq] at hp
    have hr := Channel.remaining_read c₁ answer (by rw [h])
    rw [h] at hr
    exact Nat.lt_of_lt_of_le hr hp
  · simp at h

/-- A turn behind which the session goes on uses an answer up. -/
theorem turn_weight (s : Session) (c : σ) (h : (s.turn c).2.2.goesOn = true) :
    weight (s.turn c).1 (s.turn c).2.1 < weight s c := by
  unfold turn at h ⊢
  split at h
  · simp [Turn.goesOn] at h
  · next question _ =>
    split at h
    · next answer replay hreplay =>
      have hs := remaining_settle (s.query.submit answer .replayed).2 c
      simp only [weight, hreplay, List.length_cons]
      omega
    · next hreplay =>
      split at h
      · simp [Turn.goesOn] at h
      · next answer c' hask =>
        have ha := remaining_ask hask
        have hs := remaining_settle (s.query.submit answer .live).2 c'
        simp only [weight, hreplay, List.length_nil]
        omega

/-- What a call to acquire transformations comes to: the transformation, or none behind the
end of the query. -/
abbrev Result (α : Type) := Except QueryError α

/-- Turns until a transformation is committed. -/
def next (s : Session) (c : σ) : Session × σ × Result (Option Transformation) :=
  match h : s.turn c with
  | (s', c', .more) =>
    have : weight s' c' < weight s c := by
      have := turn_weight s c
      rw [h] at this
      exact this rfl
    next s' c'
  | (s', c', .committed t) => (s', c', .ok (some t))
  | (s', c', .finished) => (s', c', .ok none)
  | (s', c', .failed e) => (s', c', .error e)
  termination_by weight s c

/-- Turns until the query ends; then the transformations that were committed. -/
def run (s : Session) (c : σ) : Session × σ × Result Plan :=
  match h : s.turn c with
  | (s', c', .more) =>
    have : weight s' c' < weight s c := by
      have := turn_weight s c
      rw [h] at this
      exact this rfl
    run s' c'
  | (s', c', .committed _) =>
    have : weight s' c' < weight s c := by
      have := turn_weight s c
      rw [h] at this
      exact this rfl
    run s' c'
  | (s', c', .finished) => (s', c', .ok s'.query.committed)
  | (s', c', .failed e) => (s', c', .error e)
  termination_by weight s c

end Session
end TableTalk
