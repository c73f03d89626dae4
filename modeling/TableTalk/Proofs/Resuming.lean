import TableTalk.Proofs.Answering
import TableTalk.Proofs.Lockstep

/-!
# Resuming a query from its history

The history of a query keeps what the accepted answers stood for, in the order in which they
were accepted, and drops what was given up.  Told again to a new query under which labels
count, it is a dialogue in which nothing is refused and which leads to where the first query
stands, whatever that one went through: answers by number, refusals, answers that made up
nothing, transformations given up, and the end.

## Main definitions

* `Query.Agrees` — queries that stand at the same point.
* `Query.Resumable` — the history of a query, told again, leads to where it stands.
* `Query.Faithful` — the invariant: a query is resumable, and stays so if it gives up the
  transformation in progress.

## Main results

* `Query.Faithful.submit` — an answer keeps the invariant.
* `Query.resume_of_history` — **a query can be resumed from its history.**
-/

namespace TableTalk
namespace Query

/-! ### Queries that stand at the same point -/

/-- The queries stand at the same point; they may differ in how they treat answers, in what
they count and in where their answers came from. -/
structure Agrees (q q' : Query) : Prop where
  /-- They see the same schema. -/
  schema_eq : q'.schema = q.schema
  /-- They do the same. -/
  phase_eq : q'.phase = q.phase
  /-- They committed the same. -/
  committed_eq : q'.committed = q.committed
  /-- They accepted the same answers. -/
  history_eq : q'.history.map HistoryEntry.unsourced = q.history.map HistoryEntry.unsourced

namespace Agrees

variable {q q' q'' : Query}

theorem trans (h : Agrees q q') (h' : Agrees q' q'') : Agrees q q'' :=
  ⟨h'.schema_eq.trans h.schema_eq, h'.phase_eq.trans h.phase_eq,
    h'.committed_eq.trans h.committed_eq, h'.history_eq.trans h.history_eq⟩

theorem symm (h : Agrees q q') : Agrees q' q :=
  ⟨h.schema_eq.symm, h.phase_eq.symm, h.committed_eq.symm, h.history_eq.symm⟩

theorem length_eq (h : Agrees q q') : q'.history.length = q.history.length := by
  have hlength := congrArg List.length h.history_eq
  rwa [List.length_map, List.length_map] at hlength

/-- The accepted answers stand for the same. -/
theorem resolved_eq (h : Agrees q q') :
    q'.history.map HistoryEntry.resolved = q.history.map HistoryEntry.resolved := by
  have hresolved := congrArg (List.map HistoryEntry.resolved) h.history_eq
  rwa [List.map_map, List.map_map] at hresolved

theorem record_eq (h : Agrees q q') (stage : Stage) (resolved : String)
    (source source' : Source) :
    (q'.record stage resolved source').map HistoryEntry.unsourced =
      (q.record stage resolved source).map HistoryEntry.unsourced := by
  rw [record, record, List.map_append, List.map_append, h.history_eq, h.committed_eq]
  rfl

theorem question?_eq (h : Agrees q q') : q'.question? = q.question? := by
  simp only [question?, h.phase_eq, h.schema_eq]

end Agrees

/-- Nothing is given up where no transformation is in progress. -/
theorem agrees_discard {q : Query} (h : ∀ p, q.phase ≠ .asking p) : Agrees q q.discard := by
  unfold discard
  split
  · next p hp => exact absurd hp (h p)
  · exact ⟨rfl, rfl, rfl, rfl⟩

theorem agrees_tally_discard (q : Query) : Agrees q.discard q.tally.discard := by
  rw [discard_tally]
  exact ⟨rfl, rfl, rfl, rfl⟩

/-! ### Telling a history again -/

/-- A blank answer to the choice of a kind ends the query. -/
theorem submit_blank {q : Query} (hphase : q.phase = .choosing) (source : Source) :
    q.submit "" source = q.finish "" source := by
  have hresolve : q.resolve ⟨.kind, none, kindPrompt, some Kind.names⟩ "" = .ok none := rfl
  simp only [submit, question?_of_choosing hphase, hresolve]

/-- The history of the query, told to a new one under which labels count, is accepted, and
leads to where the query stands. -/
def Resumable (initial : Schema) (q : Query) : Prop :=
  ∀ (options : QueryOptions) (retold : List (String × Source)), options.matching = .labelOrIndex →
    retold.map Prod.fst = q.history.map HistoryEntry.resolved →
    ∃ q', Accepts (start initial options) retold q' ∧ Agrees q q'

section

variable {initial : Schema} {q r : Query}

theorem resumable_start (initial : Schema) (options : QueryOptions) :
    Resumable initial (start initial options) := by
  intro options' retold _ hretold
  have hnil : retold = [] := List.map_eq_nil_iff.1 hretold
  subst hnil
  exact ⟨start initial options', .nil _, rfl, rfl, rfl, rfl⟩

theorem Resumable.congr (h : Resumable initial q) (hagrees : Agrees q r) :
    Resumable initial r := by
  intro options retold hmatching hretold
  rw [hagrees.resolved_eq] at hretold
  obtain ⟨q', haccepts, hq'⟩ := h options retold hmatching hretold
  exact ⟨q', haccepts, hagrees.symm.trans hq'⟩

/-- One more accepted answer is told again behind the others. -/
theorem Resumable.extend (h : Resumable initial q) {entry : HistoryEntry}
    (hhistory : r.history = q.history ++ [entry])
    (hnext : ∀ q', Agrees q q' → q'.options.matching = .labelOrIndex → ∀ source,
      ∃ r' outcome, q'.submit entry.resolved source = (r', .ok outcome) ∧
        outcome.rejection? = none ∧ Agrees r r') :
    Resumable initial r := by
  intro options retold hmatching hretold
  rw [hhistory, List.map_append] at hretold
  obtain ⟨front, last, rfl, hfront, hlast⟩ := List.map_eq_append_iff.1 hretold
  obtain ⟨⟨resolved, source⟩, rfl, rfl⟩ := List.map_eq_singleton_iff.1 hlast
  obtain ⟨q', haccepts, hagrees⟩ := h options front hmatching hfront
  have hoptions : q'.options = options := by
    rw [haccepts.eq_submitAll]
    exact submitAll_options _ front
  obtain ⟨r', outcome, hsubmit, haccepted, hr'⟩ :=
    hnext q' hagrees (hoptions ▸ hmatching) source
  exact ⟨r', haccepts.append (accepts_of_submit_eq hsubmit haccepted), hr'⟩

/-! ### An answer keeps a query resumable -/

/-- The query can be resumed, and so it can after it has given up the transformation in
progress. -/
structure Faithful (initial : Schema) (q : Query) : Prop where
  /-- The schema, the phase and the history are in step. -/
  coherent : Coherent initial q
  /-- The columns have proper names. -/
  proper : ∀ name ∈ q.schema.names, Text.Proper name
  /-- The history can be told again. -/
  resumable : Resumable initial q
  /-- What is left of the history can be told again. -/
  discarded : Resumable initial q.discard

theorem faithful_start (hnames : ∀ name ∈ initial.names, Text.Proper name)
    (options : QueryOptions) : Faithful initial (start initial options) :=
  ⟨coherent_start initial options, hnames, resumable_start initial options,
    resumable_start initial options⟩

/-- The transformation in progress was started within the history. -/
theorem Coherent.start_le (h : Coherent initial q) {p : Pending} (hphase : q.phase = .asking p) :
    p.start ≤ q.history.length := by
  obtain ⟨segments, tail, hparts⟩ := h.parts
  rw [hparts.start_eq p hphase, hparts.history_eq, List.length_append]
  exact Nat.le_add_right _ _

/-- An answer keeps the invariant. -/
theorem Faithful.submit (h : Faithful initial q) (answer : String) (source : Source) :
    Faithful initial (q.submit answer source).1 := by
  have hcoherent := h.coherent.submit answer source
  have hstep := submit_step q answer source
  generalize q.submit answer source = result at hstep hcoherent
  cases hstep with
  | ended hquestion => exact h
  | refused hquestion houtcome hlimit =>
    exact ⟨hcoherent, h.proper, h.resumable.congr ⟨rfl, rfl, rfl, rfl⟩,
      h.discarded.congr (agrees_tally_discard q)⟩
  | exhausted hquestion houtcome hoptions hlimit =>
    have hphase : q.tally.discard.phase = .choosing :=
      discard_phase (q := q.tally) (phase_ne_finished hquestion)
    have hresumable := h.discarded.congr (agrees_tally_discard q)
    refine ⟨hcoherent, ?_, hresumable, hresumable.congr (agrees_discard fun p hp => ?_)⟩
    · rw [discard_schema]
      exact h.proper
    · rw [hphase] at hp
      cases hp
  | @stopped resolved hphase hresolved =>
    have hresumable : Resumable initial (q.finish resolved source).1 := by
      refine h.resumable.extend rfl fun q' hagrees hmatching source' => ?_
      have hphase' := hagrees.phase_eq.trans hphase
      refine ⟨(q'.finish resolved source').1, .finished, ?_, rfl, hagrees.schema_eq, rfl,
        hagrees.committed_eq, hagrees.record_eq .kind resolved source source'⟩
      rcases hresolved with rfl | rfl
      · exact submit_blank hphase' source'
      · exact (submit_kind hmatching hphase' .empty source').trans (chooseKind_empty source')
    refine ⟨hcoherent, h.proper, hresumable, hresumable.congr (agrees_discard fun p hp => ?_)⟩
    cases hp
  | @chosen kind hphase hkind htargets =>
    refine ⟨hcoherent, h.proper, ?_, h.resumable.congr ⟨rfl, hphase.symm, rfl, ?_⟩⟩
    · refine h.resumable.extend rfl fun q' hagrees hmatching source' => ?_
      have hnames : q'.schema.names ≠ [] := hagrees.schema_eq ▸ htargets
      have hsubmit := submit_kind hmatching (hagrees.phase_eq.trans hphase) kind source'
      rw [chooseKind_name hkind hnames] at hsubmit
      refine ⟨_, _, hsubmit, rfl, hagrees.schema_eq, ?_, hagrees.committed_eq,
        hagrees.record_eq .kind kind.name source source'⟩
      simp only [await, hagrees.length_eq]
    · exact congrArg (List.map _) (List.take_left)
  | @answered p round resolved hphase hround hoffered hmore hproper =>
    have hresolved := Kind.proper_of_offered h.proper hoffered hproper
    refine ⟨hcoherent, h.proper, ?_, h.discarded.congr ?_⟩
    · refine h.resumable.extend rfl fun q' hagrees hmatching source' => ?_
      have hsubmit := submit_offered hmatching (hagrees.phase_eq.trans hphase) hround hresolved
        (hagrees.schema_eq ▸ hoffered) source'
      rw [answerRound_more hmore] at hsubmit
      exact ⟨_, _, hsubmit, rfl, hagrees.schema_eq, rfl, hagrees.committed_eq,
        hagrees.record_eq _ resolved source source'⟩
    · -- Giving the transformation up takes the answer away again.
      have hle := h.coherent.start_le hphase
      have hdiscard : q.discard =
          { q with phase := .choosing, history := q.history.take p.start, attempts := 0 } := by
        simp only [discard, hphase]
      rw [hdiscard]
      refine ⟨rfl, rfl, rfl, congrArg (List.map _) ?_⟩
      exact List.take_append_of_le_length hle
  | @committed p round resolved t hphase hround hoffered hlast hbuilt hproper =>
    have hresolved := Kind.proper_of_offered h.proper hoffered hproper
    have hresumable :
        Resumable initial (q.commit (q.record (.ofRound round) resolved source) t) := by
      refine h.resumable.extend rfl fun q' hagrees hmatching source' => ?_
      have hsubmit := submit_offered hmatching (hagrees.phase_eq.trans hphase) hround hresolved
        (hagrees.schema_eq ▸ hoffered) source'
      rw [answerRound_last hlast hbuilt] at hsubmit
      refine ⟨_, _, hsubmit, rfl, ?_, rfl, ?_, hagrees.record_eq _ resolved source source'⟩
      · simp only [commit, hagrees.schema_eq]
      · simp only [commit, hagrees.committed_eq]
    refine ⟨hcoherent, fun name hname => h.proper name ?_, hresumable,
      hresumable.congr (agrees_discard fun p hp => ?_)⟩
    · exact Transformation.names_preview_subset q.schema t hname
    · cases hp

/-- Answers keep the invariant. -/
theorem Faithful.submitAll (h : Faithful initial q) (answers : List (String × Source)) :
    Faithful initial (q.submitAll answers) :=
  submitAll_induction (fun _ answer source h => h.submit answer source) h answers

end

/-- **A query can be resumed from its history.**  Whatever answers led a query to where it
stands, and however it treated them, what its history holds can be told again to a new query
under which labels count: each entry is accepted, nothing is refused, and the new query has
committed the same, sees the same schema, asks the same question, has ended if the other has,
and holds the same history but for where the answers came from. -/
theorem resume_of_history {initial : Schema}
    (hnames : ∀ name ∈ initial.names, Text.Proper name) (options options' : QueryOptions)
    (hmatching : options'.matching = .labelOrIndex) (given retold : List (String × Source))
    (hretold : retold.map Prod.fst =
      ((start initial options).submitAll given).history.map HistoryEntry.resolved) :
    let q := (start initial options).submitAll given
    let q' := (start initial options').submitAll retold
    Accepts (start initial options') retold q' ∧ q'.rejections = 0 ∧
      q'.committed = q.committed ∧ q'.schema = q.schema ∧ q'.question? = q.question? ∧
      q'.isFinished = q.isFinished ∧
      q'.history.map HistoryEntry.unsourced = q.history.map HistoryEntry.unsourced := by
  intro q q'
  have hfaithful : Faithful initial q := (faithful_start hnames options).submitAll given
  obtain ⟨r, haccepts, hagrees⟩ := hfaithful.resumable options' retold hmatching hretold
  have heq : r = q' := haccepts.eq_submitAll
  subst heq
  refine ⟨haccepts, haccepts.rejections_eq, hagrees.committed_eq, hagrees.schema_eq,
    hagrees.question?_eq, ?_, hagrees.history_eq⟩
  rw [isFinished, hagrees.phase_eq]
  rfl

/-- Answers by number: a sort, a refused word, a grouping that is given up for its keys are
blank twice, a column that is dropped after a blank answer was refused, and the end. -/
def waveringAnswers : List (String × Source) :=
  ["2", "2", "1", "GroupBy", "3", "1", "4", " , ", ",", "1", "", "0", ""].map (·, .live)

/-- Four refusals and a transformation given up leave no trace in what is told again. -/
theorem resume_of_history_wavering :
    let q := (start Table.people.schema { matching := .indexOnly, maxAttempts := some 1 }).submitAll
      waveringAnswers
    let retold := ["SortBy", "Rank", "Descending", "DropColumn", "Name", ""].map (·, Source.replayed)
    let q' := (start Table.people.schema {}).submitAll retold
    retold.map Prod.fst = q.history.map HistoryEntry.resolved ∧ q.rejections = 4 ∧
      q'.rejections = 0 ∧ q'.committed = q.committed ∧ q'.schema = q.schema ∧
      q'.isFinished = q.isFinished := by
  intro q retold q'
  have hnames : ∀ name ∈ Table.people.schema.names, Text.Proper name := by decide
  have hretold : retold.map Prod.fst = q.history.map HistoryEntry.resolved := by rfl
  have hcount : q.rejections = 4 := by rfl
  obtain ⟨-, hnone, hcommitted, hschema, -, hfinished, -⟩ :=
    resume_of_history hnames { matching := .indexOnly, maxAttempts := some 1 } {} rfl
      waveringAnswers retold hretold
  exact ⟨hretold, hcount, hnone, hcommitted, hschema, hfinished⟩

end Query
end TableTalk
