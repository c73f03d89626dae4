import TableTalk.Proofs.Calls

/-!
# Answers given in advance and answers read

A query notes where each accepted answer came from and never looks at its notes again.  So it
makes no difference to a dialogue over a script which of the answers were given in advance:
two sessions that have the same answers left, some in advance and the others in the script,
take the same turns in lockstep, whether answers are accepted or refused, until the query ends
or cannot go on.

## Main definitions

* `HistoryEntry.unsourced`, `Query.unsourced` — an accepted answer and a query without the
  notes.
* `Session.unread` — the answers that are left, those given in advance in front.
* `Session.Agree` — turns that are the same, or that both fail.
* `Session.Drawn` — what a turn over a script can do.
* `Session.Alike` — two sessions over scripts that differ in their notes at most.

## Main results

* `Query.submit_unsourced` — what an answer does does not depend on any note.
* `Session.run_of_agree`, `Session.run_of_lockstep` — what turns in lockstep keep, runs keep.
* `Session.run_of_split` — **a run does not depend on which answers were given in advance.**
-/

namespace TableTalk

/-! ### Notes on where answers came from -/

/-- The entry as if its answer had been read. -/
def HistoryEntry.unsourced (e : HistoryEntry) : HistoryEntry := { e with source := .live }

namespace Query

/-- The query as if all of its answers had been read. -/
def unsourced (q : Query) : Query := { q with history := q.history.map HistoryEntry.unsourced }

theorem question?_unsourced (q : Query) : q.unsourced.question? = q.question? := rfl

theorem record_unsourced (q : Query) (stage : Stage) (resolved : String) (source : Source) :
    q.unsourced.record stage resolved .live =
      (q.record stage resolved source).map HistoryEntry.unsourced := by
  rw [record, record, List.map_append]
  rfl

theorem discard_unsourced (q : Query) : q.unsourced.discard = q.discard.unsourced := by
  unfold discard
  cases hphase : q.phase with
  | choosing | finished => simp only [unsourced, hphase]
  | asking p => simp only [unsourced, hphase, List.map_take]

theorem refuse_unsourced (q : Query) (outcome : Outcome) (stage : Stage) :
    q.unsourced.refuse outcome stage = Prod.map unsourced id (q.refuse outcome stage) := by
  have hoptions : q.unsourced.options = q.options := rfl
  have hattempts : q.unsourced.attempts = q.attempts := rfl
  cases hlimit : q.options.maxAttempts with
  | none =>
    rw [refuse_of_unlimited hlimit, refuse_of_unlimited (hoptions ▸ hlimit)]
    rfl
  | some limit =>
    rw [refuse_of_limit hlimit, refuse_of_limit (hoptions ▸ hlimit), hattempts]
    split
    · rfl
    · exact Prod.ext (discard_unsourced q.tally) rfl

theorem finish_unsourced (q : Query) (resolved : String) (source : Source) :
    q.unsourced.finish resolved .live = Prod.map unsourced id (q.finish resolved source) := by
  have hrecord := q.record_unsourced .kind resolved source
  simp only [finish, Prod.map_apply, id_eq, hrecord]
  rfl

theorem chooseKind_unsourced (q : Query) (label : String) (source : Source) :
    q.unsourced.chooseKind label .live = Prod.map unsourced id (q.chooseKind label source) := by
  unfold chooseKind
  cases Kind.read label with
  | error cause => rfl
  | ok kind =>
    have hrecord := q.record_unsourced .kind label source
    have hlength : q.unsourced.history.length = q.history.length := List.length_map _
    have hschema : q.unsourced.schema = q.schema := rfl
    simp only [hrecord, hlength, hschema]
    by_cases hkind : kind == .empty
    · rw [if_pos hkind, if_pos hkind]
      exact q.finish_unsourced label source
    · rw [if_neg hkind, if_neg hkind]
      by_cases htargets : (kind.targets q.schema).isEmpty
      · rw [if_pos htargets, if_pos htargets]
        exact q.refuse_unsourced (.noTargets kind) .kind
      · rw [if_neg htargets, if_neg htargets]
        rfl

theorem answerRound_unsourced (q : Query) (p : Pending) (stage : Stage) (resolved : String)
    (source : Source) :
    q.unsourced.answerRound p stage resolved .live =
      Prod.map unsourced id (q.answerRound p stage resolved source) := by
  have hrecord := q.record_unsourced stage resolved source
  simp only [answerRound, hrecord]
  split
  · rfl
  · cases Transformation.build p.kind.name (p.answers ++ [resolved]) with
    | ok t => rfl
    | error cause =>
      dsimp only
      split
      · exact q.refuse_unsourced (.unbuildable cause) stage
      · exact Prod.ext q.discard_unsourced rfl

/-- What an answer does does not depend on any note. -/
theorem submit_unsourced (q : Query) (answer : String) (source : Source) :
    q.unsourced.submit answer .live = Prod.map unsourced id (q.submit answer source) :=
  submit_rel (R := fun out out' => out = Prod.map unsourced id out') q.question?_unsourced
    (fun _ => rfl) rfl rfl q.refuse_unsourced (q.finish_unsourced "" source)
    (fun p stage resolved => q.answerRound_unsourced p stage resolved source)
    fun label => q.chooseKind_unsourced label source

/-- Queries that differ in their notes at most do the same with an answer, wherever it came
from. -/
theorem submit_eq_of_unsourced {q q' : Query} (h : q.unsourced = q'.unsourced) (answer : String)
    (source source' : Source) :
    (q.submit answer source).1.unsourced = (q'.submit answer source').1.unsourced ∧
      (q.submit answer source).2 = (q'.submit answer source').2 := by
  have hsubmit := q.submit_unsourced answer source
  rw [h, q'.submit_unsourced answer source'] at hsubmit
  exact ⟨(congrArg Prod.fst hsubmit).symm, (congrArg Prod.snd hsubmit).symm⟩

end Query

namespace Session

/-! ### Turns over a script -/

/-- The answers that are left, those given in advance in front. -/
def unread (s : Session) (c : Script) : List String := s.replay ++ c.answers

/-- A script takes note of every refusal that is passed on. -/
theorem settle_script (result : Except QueryError Outcome) (c : Script) :
    settle result c =
      ({ c with errors := c.errors ++ (Turn.ofResult result).1.toList },
        (Turn.ofResult result).2) := by
  unfold settle
  split
  · next turn heq =>
    rw [heq]
    simp
  · next message turn heq =>
    rw [heq]
    rfl

/-- Only where no answer is left a script gives none. -/
theorem ask_script_eq_error {question : Question} {c c' : Script} {e : ChannelError}
    (h : ask question c = (.error e, c')) :
    e = .scriptExhausted ∧ c.answers = [] ∧ c'.answers = [] ∧ c'.errors = c.errors := by
  cases hanswers : c.answers with
  | nil =>
    simp only [ask, Port.present, Port.read, Script.read, hanswers] at h
    cases h
    exact ⟨rfl, rfl, rfl, rfl⟩
  | cons answer answers =>
    simp only [ask, Port.present, Port.read, Script.read, hanswers] at h
    cases h

/-- A script gives the first of the answers that are left. -/
theorem ask_script_eq_ok {question : Question} {c c' : Script} {answer : String}
    (h : ask question c = (.ok answer, c')) :
    c.answers = answer :: c'.answers ∧ c'.errors = c.errors := by
  cases hanswers : c.answers with
  | nil =>
    simp only [ask, Port.present, Port.read, Script.read, hanswers] at h
    cases h
  | cons first answers =>
    simp only [ask, Port.present, Port.read, Script.read, hanswers] at h
    cases h
    exact ⟨rfl, rfl⟩

/-- What a turn over a script can do: the next of the answers that are left is taken. -/
inductive Drawn (s : Session) (c : Script) : Session × Script × Turn → Prop
  /-- The query has ended. -/
  | ended (hquestion : s.query.question? = none) : Drawn s c (s, c, .finished)
  /-- No answer is left. -/
  | exhausted {question : Question} {c' : Script} (hquestion : s.query.question? = some question)
    (hunread : unread s c = []) (hunread' : unread s c' = []) (herrors : c'.errors = c.errors) :
    Drawn s c (s, c', .failed (.channel .scriptExhausted))
  /-- The first of the answers that are left is taken. -/
  | drawn {question : Question} {answer : String} {source : Source} {s' : Session} {c' : Script}
    (hquestion : s.query.question? = some question) (hunread : unread s c = answer :: unread s' c')
    (hquery : s'.query = (s.query.submit answer source).1)
    (herrors : c'.errors =
      c.errors ++ (Turn.ofResult (s.query.submit answer source).2).1.toList) :
    Drawn s c (s', c', (Turn.ofResult (s.query.submit answer source).2).2)

/-- Every turn over a script does one of these things. -/
theorem turn_drawn (s : Session) (c : Script) : Drawn s c (s.turn c) := by
  obtain ⟨query, replay⟩ := s
  have hturned := turn_turned ⟨query, replay⟩ c
  generalize turn ⟨query, replay⟩ c = out at hturned
  generalize taken ⟨query, replay⟩ c = used at hturned
  cases hturned with
  | ended hquestion => exact .ended hquestion
  | replayed hquestion hreplay =>
    subst hreplay
    rw [settle_script]
    exact .drawn hquestion rfl rfl rfl
  | unread hquestion hreplay hask =>
    subst hreplay
    obtain ⟨rfl, hanswers, hanswers', herrors⟩ := ask_script_eq_error hask
    exact .exhausted hquestion hanswers hanswers' herrors
  | live hquestion hreplay hask =>
    subst hreplay
    obtain ⟨hanswers, herrors⟩ := ask_script_eq_ok hask
    rw [settle_script]
    exact .drawn hquestion hanswers rfl (congrArg (· ++ _) herrors)

/-! ### Runs -/

section

variable {σ τ : Type} [Channel σ] [Channel τ]

theorem run_of_turn {s s' : Session} {c c' : σ} {turn : Turn} (h : s.turn c = (s', c', turn)) :
    s.run c = match turn with
      | .more | .committed _ => s'.run c'
      | .finished => (s', c', .ok s'.query.committed)
      | .failed e => (s', c', .error e) := by
  rw [run]
  split
  all_goals
    next heq =>
      rw [h] at heq
      cases heq
      rfl

/-- The turns are the same, or both fail for related reasons. -/
def Agree (E : QueryError → QueryError → Prop) (turn turn' : Turn) : Prop :=
  turn = turn' ∨ ∃ e e', turn = .failed e ∧ turn' = .failed e' ∧ E e e'

theorem Agree.eq_of_goesOn {E : QueryError → QueryError → Prop} {turn turn' : Turn}
    (h : Agree E turn turn') (hturn : ∀ e, turn ≠ .failed e) : turn' = turn := by
  rcases h with rfl | ⟨e, -, hfailed, -⟩
  · rfl
  · exact absurd hfailed (hturn e)

/-- What two sessions keep while their turns agree, they keep over their runs, which then come to
the same or fail for related reasons. -/
theorem run_of_agree {R : Session → σ → Session → τ → Prop} {E : QueryError → QueryError → Prop}
    (hturn : ∀ {s c s' c'}, R s c s' c' →
      R (s.turn c).1 (s.turn c).2.1 (s'.turn c').1 (s'.turn c').2.1 ∧
        Agree E (s.turn c).2.2 (s'.turn c').2.2)
    (hcommitted : ∀ {s c s' c'}, R s c s' c' → s.query.committed = s'.query.committed)
    {s s' : Session} {c : σ} {c' : τ} (h : R s c s' c') :
    R (s.run c).1 (s.run c).2.1 (s'.run c').1 (s'.run c').2.1 ∧
      ((s.run c).2.2 = (s'.run c').2.2 ∨
        ∃ e e', (s.run c).2.2 = .error e ∧ (s'.run c').2.2 = .error e' ∧ E e e') := by
  induction s, c using run.induct generalizing s' c' with
  | case1 s c s₁ c₁ hfirst hlt ih | case2 s c s₁ c₁ t hfirst hlt ih =>
    obtain ⟨hnext, hturns⟩ := hturn h
    rcases hsecond : s'.turn c' with ⟨s₂, c₂, turn⟩
    rw [hfirst, hsecond] at hnext hturns
    obtain rfl := hturns.eq_of_goesOn fun _ => nofun
    rw [run_of_turn hfirst, run_of_turn hsecond]
    exact ih hnext
  | case3 s c s₁ c₁ hfirst =>
    obtain ⟨hnext, hturns⟩ := hturn h
    rcases hsecond : s'.turn c' with ⟨s₂, c₂, turn⟩
    rw [hfirst, hsecond] at hnext hturns
    obtain rfl := hturns.eq_of_goesOn fun _ => nofun
    rw [run_of_turn hfirst, run_of_turn hsecond]
    exact ⟨hnext, .inl (congrArg Except.ok (hcommitted hnext))⟩
  | case4 s c s₁ c₁ e hfirst =>
    obtain ⟨hnext, hturns⟩ := hturn h
    rcases hsecond : s'.turn c' with ⟨s₂, c₂, turn⟩
    rw [hfirst, hsecond] at hnext hturns
    rw [run_of_turn hfirst, run_of_turn hsecond]
    rcases hturns with rfl | ⟨e₁, e₂, hfailed, rfl, hrelated⟩
    · exact ⟨hnext, .inl rfl⟩
    · cases hfailed
      exact ⟨hnext, .inr ⟨e, e₂, rfl, rfl, hrelated⟩⟩

/-- What two sessions keep while they take the same turns, they keep over their runs, which
then come to the same. -/
theorem run_of_lockstep {R : Session → σ → Session → τ → Prop}
    (hturn : ∀ {s c s' c'}, R s c s' c' →
      R (s.turn c).1 (s.turn c).2.1 (s'.turn c').1 (s'.turn c').2.1 ∧
        (s.turn c).2.2 = (s'.turn c').2.2)
    (hcommitted : ∀ {s c s' c'}, R s c s' c' → s.query.committed = s'.query.committed)
    {s s' : Session} {c : σ} {c' : τ} (h : R s c s' c') :
    R (s.run c).1 (s.run c).2.1 (s'.run c').1 (s'.run c').2.1 ∧
      (s.run c).2.2 = (s'.run c').2.2 := by
  -- No two errors are related, so turns that agree are the same.
  obtain ⟨hend, hresult | ⟨-, -, -, -, hrelated⟩⟩ := run_of_agree (E := fun _ _ => False)
    (fun h => ⟨(hturn h).1, .inl (hturn h).2⟩) hcommitted h
  · exact ⟨hend, hresult⟩
  · exact hrelated.elim

end

/-! ### Sessions with the same answers left -/

/-- Two sessions over scripts that have the same answers left and differ in their notes at
most. -/
structure Alike (s : Session) (c : Script) (s' : Session) (c' : Script) : Prop where
  /-- The queries differ in their notes at most. -/
  query_eq : s.query.unsourced = s'.query.unsourced
  /-- The same answers are left. -/
  unread_eq : unread s c = unread s' c'
  /-- The same refusals were passed on. -/
  errors_eq : c.errors = c'.errors

variable {s s' : Session} {c c' : Script}

theorem Alike.question?_eq (h : Alike s c s' c') : s.query.question? = s'.query.question? := by
  rw [← s.query.question?_unsourced, h.query_eq, s'.query.question?_unsourced]

theorem Alike.committed_eq (h : Alike s c s' c') : s.query.committed = s'.query.committed := by
  have hcommitted := congrArg Query.committed h.query_eq
  exact hcommitted

/-- Sessions that are alike take the same turn and stay alike. -/
theorem Alike.turn (h : Alike s c s' c') :
    Alike (s.turn c).1 (s.turn c).2.1 (s'.turn c').1 (s'.turn c').2.1 ∧
      (s.turn c).2.2 = (s'.turn c').2.2 := by
  have hquestions := h.question?_eq
  have hunread := h.unread_eq
  have hdrawn := turn_drawn s c
  have hdrawn' := turn_drawn s' c'
  generalize s.turn c = out at hdrawn
  generalize s'.turn c' = out' at hdrawn'
  -- Whether there is a question and whether an answer is left is the same on both sides.
  cases hdrawn with
  | ended hquestion =>
    rw [hquestion] at hquestions
    cases hdrawn' with
    | ended => exact ⟨h, rfl⟩
    | exhausted hquestion' | drawn hquestion' =>
      rw [hquestion'] at hquestions
      cases hquestions
  | exhausted hquestion hnone hnone₁ herrors =>
    rw [hquestion] at hquestions
    rw [hnone] at hunread
    cases hdrawn' with
    | ended hquestion' =>
      rw [hquestion'] at hquestions
      cases hquestions
    | exhausted hquestion' hnone' hnone₁' herrors' =>
      refine ⟨⟨h.query_eq, hnone₁.trans hnone₁'.symm, ?_⟩, rfl⟩
      rw [herrors, herrors', h.errors_eq]
    | drawn hquestion' hunread' =>
      rw [hunread'] at hunread
      cases hunread
  | @drawn question answer source s₁ c₁ hquestion hsome hquery herrors =>
    rw [hquestion] at hquestions
    rw [hsome] at hunread
    cases hdrawn' with
    | ended hquestion' =>
      rw [hquestion'] at hquestions
      cases hquestions
    | exhausted hquestion' hnone' =>
      rw [hnone'] at hunread
      cases hunread
    | @drawn question' answer' source' s₁' c₁' hquestion' hsome' hquery' herrors' =>
      rw [hsome', List.cons.injEq] at hunread
      obtain ⟨rfl, hrest⟩ := hunread
      obtain ⟨hqueries, hresults⟩ :=
        Query.submit_eq_of_unsourced h.query_eq answer source source'
      refine ⟨⟨?_, hrest, ?_⟩, ?_⟩
      · rw [hquery, hquery', hqueries]
      · rw [herrors, herrors', h.errors_eq, hresults]
      · rw [hresults]

/-- **A run does not depend on which answers were given in advance.**  Wherever a list of
answers is cut in two, the first part given in advance and the second one written in a script,
the run comes to what it comes to with the whole list in the script: the same plan or the same
error, the same query but for the notes on where the answers came from, the same refusals
passed on, and the same answers left unread. -/
theorem run_of_split (schema : Schema) (options : QueryOptions) (given rest : List String) :
    let split := run ⟨.start schema options, given⟩ ({ answers := rest } : Script)
    let whole := run ⟨.start schema options, []⟩ ({ answers := given ++ rest } : Script)
    split.2.2 = whole.2.2 ∧
    split.1.query.committed = whole.1.query.committed ∧
    split.1.query.schema = whole.1.query.schema ∧
    split.1.query.question? = whole.1.query.question? ∧
    split.1.query.rejections = whole.1.query.rejections ∧
    split.2.1.errors = whole.2.1.errors ∧
    split.1.replay ++ split.2.1.answers = whole.1.replay ++ whole.2.1.answers ∧
    split.1.query.history.map HistoryEntry.unsourced =
      whole.1.query.history.map HistoryEntry.unsourced := by
  intro split whole
  have hstart : Alike ⟨.start schema options, given⟩ { answers := rest }
      ⟨.start schema options, []⟩ { answers := given ++ rest } := ⟨rfl, rfl, rfl⟩
  obtain ⟨halike, hresult⟩ := run_of_lockstep (fun h => h.turn) (fun h => h.committed_eq) hstart
  have hschema := congrArg Query.schema halike.query_eq
  have hrejections := congrArg Query.rejections halike.query_eq
  have hhistory := congrArg Query.history halike.query_eq
  exact ⟨hresult, halike.committed_eq, hschema, halike.question?_eq, hrejections,
    halike.errors_eq, halike.unread_eq, hhistory⟩

end Session
end TableTalk
