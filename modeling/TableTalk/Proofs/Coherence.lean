import TableTalk.Proofs.Acquisition

/-!
# What is true of every query

The schema, the phase, the history and the counts of a query are kept in step by every
answer: the schema is the one that the committed transformations lead to, and the history
tells, one segment after the other, how each of them was acquired, and then how far the
dialogue has come since.

## Main definitions

* `Segment` — the accepted answers to one transformation.
* `Tail` — the accepted answers behind the last committed transformation.
* `Query.Coherent` — the invariant.

## Main results

* `Query.Coherent.submit` — an answer keeps the invariant.
* `Query.coherent_of_answers` — **every query that answers lead to is coherent.**
-/

namespace TableTalk

/-- The stages in which the answers to one transformation are given. -/
def Stage.order : List Stage := [.kind, .target, .argument, .freeform]

/-- The round of a transformation in progress is asked in the stage behind those of the
answers so far. -/
theorem Stage.order_take_succ {p : Pending} {round : Round} (h : p.round? = some round) :
    order.take (p.answers.length + 2) = order.take (p.answers.length + 1) ++ [.ofRound round] := by
  rw [Kind.eq_position_of_round? h]
  cases round <;> rfl

/-! ### Segments of a history -/

/-- The accepted answers to the transformation at the given position of a plan. -/
structure Segment (position : Nat) (t : Transformation) (entries : List HistoryEntry) : Prop where
  /-- They carry the position. -/
  position_eq : ∀ e ∈ entries, e.transformation = position
  /-- There is one for the kind and one for each round, in order. -/
  stages_eq : entries.map (·.stage) = Stage.order.take (t.rounds + 1)
  /-- The transformation is built of what they stand for. -/
  build_eq : ∃ kind answers, entries.map (·.resolved) = kind :: answers ∧
    Transformation.build kind answers = .ok t

/-- The accepted answers behind the last of the given number of transformations. -/
inductive Tail (position : Nat) : Phase → List HistoryEntry → Prop
  /-- There are none before a kind is chosen. -/
  | choosing : Tail position .choosing []
  /-- There is the kind in progress, and its answers so far. -/
  | asking {p : Pending} {entries : List HistoryEntry}
    (hposition : ∀ e ∈ entries, e.transformation = position)
    (hstages : entries.map (·.stage) = Stage.order.take (p.answers.length + 1))
    (hresolved : entries.map (·.resolved) = p.kind.name :: p.answers) :
    Tail position (.asking p) entries
  /-- There is the answer that ended the query: a blank one, or the choice of nothing. -/
  | finished {resolved : String} (source : Source)
    (hresolved : resolved = "" ∨ resolved = Kind.empty.name) :
    Tail position .finished [⟨position, .kind, resolved, source⟩]

namespace Query

/-- The history of a query in its parts. -/
structure Parts (q : Query) (segments : List (List HistoryEntry)) (tail : List HistoryEntry) :
    Prop where
  /-- The parts in order are the history. -/
  history_eq : q.history = segments.flatten ++ tail
  /-- There is one segment for each committed transformation. -/
  length_eq : segments.length = q.committed.length
  /-- Each segment belongs to the transformation at its position. -/
  segment : ∀ i t, q.committed[i]? = some t → ∃ s, segments[i]? = some s ∧ Segment i t s
  /-- The rest belongs to the phase. -/
  tail : Tail q.committed.length q.phase tail
  /-- The transformation in progress started behind the last segment. -/
  start_eq : ∀ p, q.phase = .asking p → p.start = segments.flatten.length

/-- What is true of every query that started on the given schema. -/
structure Coherent (initial : Schema) (q : Query) : Prop where
  /-- The schema is the one that the committed transformations lead to. -/
  schema_eq : q.schema = q.committed.preview initial
  /-- The history tells how they were acquired, and what has been answered since. -/
  parts : ∃ segments tail, Parts q segments tail
  /-- A transformation in progress has a round that is open. -/
  pending : ∀ p, q.phase = .asking p →
    p.kind ≠ .empty ∧ p.answers.length < p.kind.rounds p.answers[1]?
  /-- No more answers were refused in this round than the limit allows. -/
  attempts_le : ∀ limit, q.options.maxAttempts = some limit → q.attempts ≤ limit

theorem coherent_start (initial : Schema) (options : QueryOptions) :
    Coherent initial (start initial options) where
  schema_eq := rfl
  parts := by
    refine ⟨[], [], rfl, rfl, ?_, .choosing, ?_⟩
    · intro i t h
      cases h
    · intro p h
      cases h
  pending _ h := by cases h
  attempts_le _ _ := Nat.zero_le _

/-! ### What an answer does to the parts -/

section

variable {q : Query} {segments : List (List HistoryEntry)} {tail : List HistoryEntry}

theorem parts_of_choosing (h : Parts q segments tail) (hphase : q.phase = .choosing) :
    tail = [] := by
  have ht := h.tail
  rw [hphase] at ht
  cases ht
  rfl

/-- A refusal is counted apart from the history. -/
theorem Parts.tally (h : Parts q segments tail) : Parts q.tally segments tail :=
  ⟨h.history_eq, h.length_eq, h.segment, h.tail, h.start_eq⟩

/-- Without the transformation in progress only the segments are left. -/
theorem Parts.discard (h : Parts q segments tail) (hphase : q.phase ≠ .finished) :
    Parts q.discard segments [] := by
  cases hq : q.phase with
  | choosing =>
    have heq : q.discard = { q with attempts := 0 } := by simp only [Query.discard, hq]
    rw [heq]
    have := parts_of_choosing h hq
    subst this
    exact ⟨h.history_eq, h.length_eq, h.segment, h.tail, h.start_eq⟩
  | asking p =>
    have heq : q.discard =
        { q with phase := .choosing, history := q.history.take p.start, attempts := 0 } := by
      simp only [Query.discard, hq]
    rw [heq]
    refine ⟨?_, h.length_eq, h.segment, .choosing, fun _ h => by cases h⟩
    show q.history.take p.start = segments.flatten ++ []
    rw [h.history_eq, h.start_eq p hq, List.take_left, List.append_nil]
  | finished => exact absurd hq hphase

/-- The choice of a kind opens a tail. -/
theorem Parts.choose (h : Parts q segments tail) (hphase : q.phase = .choosing) (kind : Kind)
    (source : Source) :
    Parts
      { q with
          phase := .asking { kind := kind, start := q.history.length }
          history := q.record .kind kind.name source
          attempts := 0 }
      segments [⟨q.committed.length, .kind, kind.name, source⟩] := by
  have hhistory := h.history_eq
  rw [parts_of_choosing h hphase, List.append_nil] at hhistory
  refine ⟨?_, h.length_eq, h.segment, .asking ?_ rfl rfl, ?_⟩
  · show q.record .kind kind.name source = _
    rw [record, hhistory]
  · intro e he
    rw [List.mem_singleton.1 he]
  · intro p hp
    cases hp
    show q.history.length = _
    rw [hhistory]

/-- The end of the query leaves one last answer. -/
theorem Parts.finish (h : Parts q segments tail) (hphase : q.phase = .choosing)
    {resolved : String} (hresolved : resolved = "" ∨ resolved = Kind.empty.name)
    (source : Source) :
    Parts (q.finish resolved source).1 segments
      [⟨q.committed.length, .kind, resolved, source⟩] := by
  have hhistory := h.history_eq
  rw [parts_of_choosing h hphase, List.append_nil] at hhistory
  refine ⟨?_, h.length_eq, h.segment, .finished source hresolved, fun p hp => by cases hp⟩
  show q.record .kind resolved source = _
  rw [record, hhistory]

/-- An answer to a round lengthens the tail. -/
theorem Parts.answer (h : Parts q segments tail) {p : Pending} (hphase : q.phase = .asking p)
    {round : Round} (hround : p.round? = some round) (resolved : String) (source : Source) :
    Parts
      { q with
          phase := .asking { p with answers := p.answers ++ [resolved] }
          history := q.record (.ofRound round) resolved source
          attempts := 0 }
      segments (tail ++ [⟨q.committed.length, .ofRound round, resolved, source⟩]) := by
  have htail := h.tail
  rw [hphase] at htail
  cases htail with
  | asking hposition hstages hresolved =>
    refine ⟨?_, h.length_eq, h.segment, .asking ?_ ?_ ?_, ?_⟩
    · show q.record (.ofRound round) resolved source = _
      rw [record, h.history_eq, List.append_assoc]
    · intro e he
      rcases List.mem_append.1 he with he | he
      · exact hposition e he
      · rw [List.mem_singleton.1 he]
    · rw [List.map_append, hstages, List.length_append]
      exact (Stage.order_take_succ hround).symm
    · rw [List.map_append, hresolved]
      rfl
    · intro p' hp
      cases hp
      exact h.start_eq p hphase

/-- The last answer to a transformation turns the tail into a segment. -/
theorem Parts.commit (h : Parts q segments tail) {p : Pending} (hphase : q.phase = .asking p)
    {round : Round} (hround : p.round? = some round) {resolved : String} (source : Source)
    {t : Transformation} (hbuilt : Transformation.Built p.kind (p.answers ++ [resolved]) t)
    (hlength : t.rounds = p.answers.length + 1) :
    Parts (q.commit (q.record (.ofRound round) resolved source) t)
      (segments ++ [tail ++ [⟨q.committed.length, .ofRound round, resolved, source⟩]]) [] := by
  have hnext := h.answer hphase hround resolved source
  have htail := hnext.tail
  cases htail with
  | asking hposition hstages hresolved =>
    refine ⟨?_, ?_, ?_, .choosing, fun p hp => by cases hp⟩
    · rw [List.flatten_append, List.flatten_singleton, List.append_nil]
      exact hnext.history_eq
    · show _ = (q.committed ++ [t]).length
      rw [List.length_append, List.length_append, h.length_eq]
      rfl
    · intro i t' hi
      replace hi : (q.committed ++ [t])[i]? = some t' := hi
      rcases Nat.lt_or_ge i q.committed.length with hlt | hge
      · rw [List.getElem?_append_left hlt] at hi
        obtain ⟨s, hs, hsegment⟩ := h.segment i t' hi
        refine ⟨s, ?_, hsegment⟩
        rw [List.getElem?_append_left (h.length_eq ▸ hlt), hs]
      · have heq : i = q.committed.length := by
          have := (List.getElem?_eq_some_iff.1 hi).1
          rw [List.length_append, List.length_singleton] at this
          omega
        subst heq
        rw [List.getElem?_concat_length] at hi
        cases hi
        refine ⟨_, by rw [← h.length_eq, List.getElem?_concat_length], hposition, ?_, ?_⟩
        · rw [hstages, hlength, List.length_append]
          rfl
        · refine ⟨_, _, hresolved, ?_⟩
          rw [Transformation.build_name]
          exact hbuilt.ofArguments_eq

end

/-! ### An answer keeps the invariant -/

/-- The last answer to a transformation is the one behind which no round is left. -/
theorem rounds_eq_of_last {p : Pending} {resolved : String} {t : Transformation}
    (hopen : p.answers.length < p.kind.rounds p.answers[1]?)
    (hlast : ¬(p.answers ++ [resolved]).length < p.kind.rounds (p.answers ++ [resolved])[1]?)
    (hbuilt : Transformation.Built p.kind (p.answers ++ [resolved]) t) :
    t.rounds = p.answers.length + 1 := by
  have hle := Kind.length_le_rounds hopen resolved
  rw [hbuilt.rounds_eq]
  rw [List.length_append, List.length_singleton] at hle hlast
  omega

variable {initial : Schema} {q : Query}

/-- Giving a transformation up touches neither the schema nor what is committed. -/
theorem Coherent.discard (h : Coherent initial q) (hphase : q.phase ≠ .finished) :
    Coherent initial q.discard where
  schema_eq := by
    rw [discard_schema, discard_committed]
    exact h.schema_eq
  parts := by
    obtain ⟨segments, tail, hparts⟩ := h.parts
    exact ⟨segments, [], hparts.discard hphase⟩
  pending p hp := by
    rw [discard_phase hphase] at hp
    cases hp
  attempts_le limit _ := by
    rw [discard_attempts]
    exact Nat.zero_le limit

/-- An answer keeps the invariant. -/
theorem Coherent.submit (h : Coherent initial q) (answer : String) (source : Source) :
    Coherent initial (q.submit answer source).1 := by
  obtain ⟨segments, tail, hparts⟩ := h.parts
  have hstep := submit_step q answer source
  generalize q.submit answer source = result at hstep
  cases hstep with
  | ended hquestion => exact h
  | refused hquestion houtcome hlimit =>
    exact ⟨h.schema_eq, ⟨segments, tail, hparts.tally⟩, h.pending, hlimit⟩
  | exhausted hquestion houtcome hoptions hlimit =>
    have hphase := phase_ne_finished hquestion
    obtain ⟨hschema, ⟨segments, tail, hparts⟩, hpending, hattempts⟩ := h.discard hphase
    rw [discard_tally]
    exact ⟨hschema, ⟨segments, tail, hparts.history_eq, hparts.length_eq, hparts.segment,
      hparts.tail, hparts.start_eq⟩, hpending, hattempts⟩
  | stopped hphase hresolved =>
    refine ⟨h.schema_eq, ⟨_, _, hparts.finish hphase hresolved source⟩, ?_, ?_⟩
    · intro p hp
      cases hp
    · intro limit _
      exact Nat.zero_le limit
  | chosen hphase hkind htargets =>
    refine ⟨h.schema_eq, ⟨_, _, hparts.choose hphase _ source⟩, ?_, ?_⟩
    · intro p hp
      cases hp
      exact ⟨hkind, Kind.rounds_pos hkind _⟩
    · intro limit _
      exact Nat.zero_le limit
  | answered hphase hround hoffered hmore =>
    refine ⟨h.schema_eq, ⟨_, _, hparts.answer hphase hround _ source⟩, ?_, ?_⟩
    · intro p hp
      cases hp
      exact ⟨(h.pending _ hphase).1, hmore⟩
    · intro limit _
      exact Nat.zero_le limit
  | committed hphase hround hoffered hlast hbuilt =>
    have hrounds := rounds_eq_of_last (h.pending _ hphase).2 hlast hbuilt
    refine ⟨?_, ⟨_, _, hparts.commit hphase hround source hbuilt hrounds⟩, ?_, ?_⟩
    · show Transformation.preview q.schema _ = Plan.preview initial (q.committed ++ [_])
      rw [Plan.preview, List.foldl_append, h.schema_eq]
      rfl
    · intro p hp
      cases hp
    · intro limit _
      exact Nat.zero_le limit

/-- Answers keep the invariant. -/
theorem Coherent.submitAll (h : Coherent initial q) (answers : List (String × Source)) :
    Coherent initial (q.submitAll answers) :=
  submitAll_induction (fun _ answer source h => h.submit answer source) h answers

/-! ### What a coherent query looks like -/

/-- A transformation in progress has an open round, in which the query stands. -/
theorem Coherent.exists_round (h : Coherent initial q) {p : Pending}
    (hphase : q.phase = .asking p) :
    ∃ round, p.round? = some round ∧ q.stage = .ofRound round := by
  have hopen : p.round? ≠ none := fun hnone =>
    absurd (h.pending p hphase).2 (Nat.not_lt.2 (Kind.round?_eq_none_iff.1 hnone))
  obtain ⟨round, hround⟩ := Option.ne_none_iff_exists'.1 hopen
  refine ⟨round, hround, ?_⟩
  simp only [stage, hphase, hround, Option.map_some, Option.getD_some]

/-- Only at the end of the query there is nothing to be answered. -/
theorem Coherent.question?_eq_none_iff (h : Coherent initial q) :
    q.question? = none ↔ q.phase = .finished := by
  constructor
  · intro hquestion
    cases hphase : q.phase with
    | choosing =>
      rw [question?_of_choosing hphase] at hquestion
      cases hquestion
    | asking p =>
      obtain ⟨round, hround, -⟩ := h.exists_round hphase
      rw [question?_of_asking hphase, hround] at hquestion
      cases hquestion
    | finished => rfl
  · exact question?_of_finished

/-- A query that has not ended asks something. -/
theorem Coherent.exists_question (h : Coherent initial q) (hopen : q.isFinished = false) :
    ∃ question, q.question? = some question := by
  refine Option.ne_none_iff_exists'.1 ?_
  rw [ne_eq, h.question?_eq_none_iff]
  exact beq_eq_false_iff_ne.1 hopen

/-- The kind of the transformation in progress. -/
def pending? (q : Query) : Option Kind :=
  match q.phase with
  | .asking p => some p.kind
  | _ => none

/-- The answers to the rounds of the transformation in progress. -/
def answers (q : Query) : List String :=
  match q.phase with
  | .asking p => p.answers
  | _ => []

theorem pending?_eq_some {kind : Kind} (h : q.pending? = some kind) :
    ∃ p, q.phase = .asking p ∧ p.kind = kind := by
  unfold pending? at h
  split at h
  · next p hphase =>
    cases h
    exact ⟨p, hphase, rfl⟩
  · cases h

theorem answers_of_asking {p : Pending} (h : q.phase = .asking p) : q.answers = p.answers := by
  simp only [answers, h]

theorem answers_of_pending?_eq_none (h : q.pending? = none) : q.answers = [] := by
  unfold pending? at h
  split at h
  · cases h
  · next hphase =>
    unfold answers
    split
    · next p hp => exact absurd hp (hphase p)
    · rfl

/-- A query stands where its question stands. -/
theorem Coherent.stage_eq (h : Coherent initial q) :
    q.stage = (q.question?.map Question.stage).getD .finished := by
  cases hphase : q.phase with
  | choosing =>
    rw [question?_of_choosing hphase]
    simp only [stage, hphase, Option.map_some, Option.getD_some]
  | asking p =>
    obtain ⟨round, hround, hstage⟩ := h.exists_round hphase
    rw [hstage, question?_of_asking hphase, hround]
    rfl
  | finished =>
    rw [question?_of_finished hphase]
    simp only [stage, hphase, Option.map_none, Option.getD_none]

/-- **Every query that answers lead to is coherent**: its schema is the one that the committed
transformations lead to, its history is made of a segment for each of them and a tail, a
transformation in progress has an open round and only then answers are kept, and no more
answers were refused in the round than the limit allows. -/
theorem coherent_of_answers (initial : Schema) (options : QueryOptions)
    (given : List (String × Source)) :
    let q := (start initial options).submitAll given
    q.schema = q.committed.preview initial ∧
    (∃ segments tail, Parts q segments tail) ∧
    (∀ kind, q.pending? = some kind →
      kind ≠ .empty ∧ q.answers.length < kind.rounds q.answers[1]?) ∧
    (q.pending? = none → q.answers = []) ∧
    (q.question? = none ↔ q.isFinished = true) ∧
    q.stage = (q.question?.map Question.stage).getD .finished ∧
    (∀ limit, options.maxAttempts = some limit → q.attempts ≤ limit) := by
  intro q
  have h : Coherent initial q := (coherent_start initial options).submitAll given
  refine ⟨h.schema_eq, h.parts, ?_, answers_of_pending?_eq_none, ?_, h.stage_eq, ?_⟩
  · intro kind hkind
    obtain ⟨p, hphase, rfl⟩ := pending?_eq_some hkind
    rw [answers_of_asking hphase]
    exact h.pending p hphase
  · rw [h.question?_eq_none_iff, isFinished, beq_iff_eq]
  · intro limit hlimit
    have hoptions : q.options = options := submitAll_options _ given
    exact h.attempts_le limit (by rw [hoptions, hlimit])

end Query
end TableTalk
