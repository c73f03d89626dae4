import TableTalk.Dialogue.Query
import TableTalk.Proofs.Spelling

/-!
# What an answer can do to a query

An answer is turned away because the query has ended, refused, refused once too often, taken
as the end, taken as the choice of a kind, taken as one of several answers, or taken as the
last answer to a transformation, which is then committed.  `Query.Step` has one case for each
of these, with all that is known there; invariants of a query are shown by going through
these cases and never by unfolding `Query.submit`.

## Main definitions

* `Query.tally` — a query in which one more refusal is counted.
* `Query.Step` — what an answer can do.

## Main results

* `Query.submit_step` — every answer does one of these things.
* `Query.submit_rel` — what an answer does to two queries, compared part by part.
* `Query.submitAll_induction` — what answers keep, lists of answers keep.
-/

namespace TableTalk

/-! ### The answer to a question -/

/-- A choice is to stop, where that is allowed, or one of the options. -/
theorem choose_cases {answer : String} {options : List String} {matching : Matching}
    {allowStop : Bool} {choice : Choice}
    (h : choose answer options matching allowStop = .ok choice) :
    (choice = .stop ∧ allowStop = true) ∨
      ∃ index label, choice = .option index label ∧ options[index]? = some label := by
  simp only [choose] at h
  split at h
  · split at h
    · next hstop =>
      cases h
      exact .inl ⟨rfl, hstop⟩
    · cases h
  · split at h
    · next index hindex =>
      cases h
      have hlt : index < options.length := by
        unfold labelIndex? at hindex
        split at hindex
        · exact (List.findIdx?_eq_some_iff_getElem.1 hindex).1
        · cases hindex
      refine .inr ⟨index, _, rfl, ?_⟩
      rw [List.getElem?_eq_getElem hlt]
      rfl
    · split at h
      · next number _ =>
        unfold optionAt at h
        split at h
        · cases h
        · split at h
          · next label hlabel =>
            cases h
            exact .inr ⟨_, label, rfl, hlabel⟩
          · cases h
      · cases h

/-- A text that is given is proper. -/
theorem proper_of_freeText {answer text : String} (h : freeText answer = .ok text) :
    Text.Proper text := by
  simp only [freeText] at h
  split at h
  · cases h
  · next hne =>
    cases h
    exact Text.proper_trim (Bool.eq_false_iff.2 hne)

namespace Query

/-- An answer stops the query, which only the choice of a kind may do, or stands for one of
the options if there are any, and for a proper text otherwise. -/
theorem resolve_cases {q : Query} {question : Question} {answer : String}
    {choice : Option String} (h : q.resolve question answer = .ok choice) :
    (choice = none ∧ question.stage = .kind) ∨
      ∃ resolved, choice = some resolved ∧
        (∀ options, question.options = some options → resolved ∈ options) ∧
        (question.options = none → Text.Proper resolved) := by
  cases hoptions : question.options with
  | none =>
    simp only [resolve, hoptions] at h
    cases htext : freeText answer with
    | error e =>
      rw [htext] at h
      cases h
    | ok text =>
      rw [htext] at h
      cases h
      refine .inr ⟨text, rfl, fun options ho => ?_, fun _ => proper_of_freeText htext⟩
      cases ho
  | some options =>
    simp only [resolve, hoptions] at h
    cases hchoose : choose answer options q.options.matching (question.stage == .kind) with
    | error e =>
      rw [hchoose] at h
      cases h
    | ok choice =>
      rw [hchoose] at h
      cases h
      rcases choose_cases hchoose with ⟨rfl, hstop⟩ | ⟨index, label, rfl, hlabel⟩
      · exact .inl ⟨rfl, by simpa using hstop⟩
      · refine .inr ⟨label, rfl, fun options ho => ?_, fun ho => ?_⟩
        · cases ho
          exact List.mem_of_getElem? hlabel
        · cases ho

/-! ### The cases -/

/-- The query in which one more refusal is counted. -/
def tally (q : Query) : Query :=
  { q with attempts := q.attempts + 1, rejections := q.rejections + 1 }

/-- Without a limit a refusal is only counted. -/
theorem refuse_of_unlimited {q : Query} (h : q.options.maxAttempts = none) (outcome : Outcome)
    (stage : Stage) : q.refuse outcome stage = (q.tally, .ok outcome) := by
  simp only [refuse, h, tally]

/-- Within the limit a refusal is only counted, and behind it the transformation in progress is
given up as well. -/
theorem refuse_of_limit {q : Query} {limit : Nat} (h : q.options.maxAttempts = some limit)
    (outcome : Outcome) (stage : Stage) :
    q.refuse outcome stage =
      if q.attempts < limit then (q.tally, .ok outcome)
      else (q.tally.discard, .error (.exhausted stage (q.attempts + 1) outcome)) := by
  simp only [refuse, h]
  by_cases hlt : q.attempts < limit
  · rw [if_pos hlt, if_neg (by omega)]
    rfl
  · rw [if_neg hlt, if_pos (by omega)]
    rfl

@[simp] theorem discard_schema (q : Query) : q.discard.schema = q.schema := by
  unfold discard
  split <;> rfl

@[simp] theorem discard_committed (q : Query) : q.discard.committed = q.committed := by
  unfold discard
  split <;> rfl

@[simp] theorem discard_options (q : Query) : q.discard.options = q.options := by
  unfold discard
  split <;> rfl

@[simp] theorem discard_attempts (q : Query) : q.discard.attempts = 0 := by
  unfold discard
  split <;> rfl

theorem discard_phase {q : Query} (h : q.phase ≠ .finished) : q.discard.phase = .choosing := by
  unfold discard
  split
  · rfl
  · next hasking =>
    cases hphase : q.phase with
    | choosing => rfl
    | asking p => exact absurd hphase (hasking p)
    | finished => exact absurd hphase h

/-- Giving a transformation up and counting a refusal have nothing to do with each other. -/
theorem discard_tally (q : Query) :
    q.tally.discard = { q.discard with rejections := q.rejections + 1 } := by
  obtain ⟨schema, options, phase, committed, history, attempts, rejections⟩ := q
  cases phase <;> rfl

/-- What an answer can do: the query behind it, and what came of it. -/
inductive Step (q : Query) (source : Source) : Query × Except QueryError Outcome → Prop
  /-- The query has ended. -/
  | ended (hquestion : q.question? = none) : Step q source (q, .error .finished)
  /-- The answer is refused. -/
  | refused {question : Question} {outcome : Outcome} (hquestion : q.question? = some question)
    (houtcome : outcome.rejection?.isSome = true)
    (hlimit : ∀ limit, q.options.maxAttempts = some limit → q.attempts < limit) :
    Step q source (q.tally, .ok outcome)
  /-- The answer is refused, and the transformation in progress is given up. -/
  | exhausted {question : Question} {outcome : Outcome} {limit : Nat}
    (hquestion : q.question? = some question) (houtcome : outcome.rejection?.isSome = true)
    (hoptions : q.options.maxAttempts = some limit) (hlimit : limit ≤ q.attempts) :
    Step q source (q.tally.discard, .error (.exhausted question.stage (q.attempts + 1) outcome))
  /-- The answer ends the query. -/
  | stopped {resolved : String} (hphase : q.phase = .choosing)
    (hresolved : resolved = "" ∨ resolved = Kind.empty.name) :
    Step q source (q.finish resolved source)
  /-- The answer chooses a kind. -/
  | chosen {kind : Kind} (hphase : q.phase = .choosing) (hkind : kind ≠ .empty)
    (htargets : q.schema.names ≠ []) :
    Step q source
      ({ q with
          phase := .asking { kind := kind, start := q.history.length }
          history := q.record .kind kind.name source
          attempts := 0 },
        .ok (.accepted kind.name))
  /-- The answer is taken, and more rounds are left. -/
  | answered {p : Pending} {round : Round} {resolved : String} (hphase : q.phase = .asking p)
    (hround : p.round? = some round)
    (hoffered : ∀ options, p.kind.options? round q.schema = some options → resolved ∈ options)
    (hmore : (p.answers ++ [resolved]).length < p.kind.rounds (p.answers ++ [resolved])[1]?)
    (hproper : p.kind.options? round q.schema = none → Text.Proper resolved) :
    Step q source
      ({ q with
          phase := .asking { p with answers := p.answers ++ [resolved] }
          history := q.record (.ofRound round) resolved source
          attempts := 0 },
        .ok (.accepted resolved))
  /-- The answer is the last one that a transformation takes. -/
  | committed {p : Pending} {round : Round} {resolved : String} {t : Transformation}
    (hphase : q.phase = .asking p) (hround : p.round? = some round)
    (hoffered : ∀ options, p.kind.options? round q.schema = some options → resolved ∈ options)
    (hlast : ¬(p.answers ++ [resolved]).length < p.kind.rounds (p.answers ++ [resolved])[1]?)
    (hbuilt : Transformation.Built p.kind (p.answers ++ [resolved]) t)
    (hproper : p.kind.options? round q.schema = none → Text.Proper resolved) :
    Step q source (q.commit (q.record (.ofRound round) resolved source) t, .ok (.committed t))

/-! ### Every answer is one of the cases -/

section

variable {q : Query} {source : Source}

theorem refuse_step {question : Question} {outcome : Outcome}
    (hquestion : q.question? = some question) (houtcome : outcome.rejection?.isSome = true) :
    Step q source (q.refuse outcome question.stage) := by
  cases hoptions : q.options.maxAttempts with
  | none =>
    rw [refuse_of_unlimited hoptions]
    refine .refused hquestion houtcome fun limit h => ?_
    rw [hoptions] at h
    cases h
  | some limit =>
    rw [refuse_of_limit hoptions]
    split
    · next hlt =>
      refine .refused hquestion houtcome fun limit' h => ?_
      rw [hoptions] at h
      cases h
      exact hlt
    · next hge => exact .exhausted hquestion houtcome hoptions (by omega)

theorem question?_of_choosing (h : q.phase = .choosing) :
    q.question? = some ⟨.kind, none, kindPrompt, some Kind.names⟩ := by
  simp only [question?, h]

theorem question?_of_asking {p : Pending} (h : q.phase = .asking p) :
    q.question? = p.round?.map (roundQuestion q.schema p.kind) := by
  simp only [question?, h]

theorem question?_of_finished (h : q.phase = .finished) : q.question? = none := by
  simp only [question?, h]

theorem phase_ne_finished {question : Question} (h : q.question? = some question) :
    q.phase ≠ .finished := by
  intro hphase
  rw [question?_of_finished hphase] at h
  cases h

/-- The choice of a kind is refused if there are no columns, and opens its rounds otherwise. -/
theorem chooseKind_name_eq {kind : Kind} (hkind : kind ≠ .empty) (source : Source) :
    q.chooseKind kind.name source =
      if q.schema.names.isEmpty then q.refuse (.noTargets kind) .kind
      else
        ({ q with
            phase := .asking { kind := kind, start := q.history.length }
            history := q.record .kind kind.name source
            attempts := 0 },
          .ok (.accepted kind.name)) := by
  unfold chooseKind
  rw [Kind.read_name]
  dsimp only
  rw [if_neg (by simpa using hkind), Kind.targets_of_ne_empty hkind]

theorem chooseKind_step {label : String} (hphase : q.phase = .choosing)
    (hlabel : label ∈ Kind.names) : Step q source (q.chooseKind label source) := by
  obtain ⟨kind, rfl⟩ := Kind.exists_name_of_mem hlabel
  by_cases hkind : kind = .empty
  · subst hkind
    exact .stopped hphase (.inr rfl)
  · rw [chooseKind_name_eq hkind]
    split
    · exact refuse_step (question?_of_choosing hphase) rfl
    · next hnames => exact .chosen hphase hkind fun h => hnames (List.isEmpty_iff.2 h)

theorem answerRound_step {p : Pending} {round : Round} {resolved : String}
    (hphase : q.phase = .asking p) (hround : p.round? = some round)
    (hoffered : ∀ options, p.kind.options? round q.schema = some options → resolved ∈ options)
    (hproper : p.kind.options? round q.schema = none → Text.Proper resolved) :
    Step q source (q.answerRound p (.ofRound round) resolved source) := by
  simp only [answerRound]
  split
  · next hmore => exact .answered hphase hround hoffered hmore hproper
  · next hlast =>
    rw [Transformation.build_name]
    split
    · next t hbuilt =>
      have hbuilt := Transformation.ofArguments_eq_ok_iff.1 hbuilt
      exact .committed hphase hround hoffered hlast hbuilt hproper
    · next e herror =>
      -- No failure to build is final, so the transformation is never given up here.
      rw [if_pos (Transformation.isRecoverable_of_ofArguments herror)]
      have hquestion : q.question? = some (roundQuestion q.schema p.kind round) := by
        rw [question?_of_asking hphase, hround]
        rfl
      exact refuse_step hquestion rfl

end

/-- What an answer does to two queries is alike if they ask the same question, read the answer
alike, and all that can become of an answer is alike. -/
theorem submit_rel
    {R : Query × Except QueryError Outcome → Query × Except QueryError Outcome → Prop} {q q' : Query}
    {answer : String} {source source' : Source}
    (hquestion : q'.question? = q.question?)
    (hresolve : ∀ question, q'.resolve question answer = q.resolve question answer)
    (hphase : q'.phase = q.phase) (hended : R (q', .error .finished) (q, .error .finished))
    (hrefuse : ∀ outcome stage, R (q'.refuse outcome stage) (q.refuse outcome stage))
    (hfinish : R (q'.finish "" source') (q.finish "" source))
    (hround : ∀ p stage resolved, R (q'.answerRound p stage resolved source')
      (q.answerRound p stage resolved source))
    (hkind : ∀ label, R (q'.chooseKind label source') (q.chooseKind label source)) :
    R (q'.submit answer source') (q.submit answer source) := by
  simp only [submit, hquestion, hresolve, hphase]
  cases q.question? with
  | none => exact hended
  | some question =>
    dsimp only
    cases q.resolve question answer with
    | error reason => exact hrefuse (.rejected reason) question.stage
    | ok choice =>
      cases choice with
      | none => exact hfinish
      | some resolved =>
        cases q.phase with
        | asking p => exact hround p question.stage resolved
        | choosing | finished => exact hkind resolved

/-- Every answer does one of the things that an answer can do. -/
theorem submit_step (q : Query) (answer : String) (source : Source) :
    Step q source (q.submit answer source) := by
  unfold submit
  split
  · next hquestion => exact .ended hquestion
  · next question hquestion =>
    split
    · exact refuse_step hquestion rfl
    · next hstop =>
      rcases resolve_cases hstop with ⟨-, hstage⟩ | ⟨_, hnone, -⟩
      · cases hphase : q.phase with
        | choosing => exact .stopped hphase (.inl rfl)
        | asking p =>
          -- A round of a transformation never counts as the choice of a kind.
          rw [question?_of_asking hphase] at hquestion
          obtain ⟨round, -, rfl⟩ := Option.map_eq_some_iff.1 hquestion
          cases round <;> cases hstage
        | finished => exact absurd hphase (phase_ne_finished hquestion)
      · cases hnone
    · next resolved hresolved =>
      rcases resolve_cases hresolved with ⟨hnone, -⟩ | ⟨_, hsome, hoffered, hproper⟩
      · cases hnone
      · cases hsome
        cases hphase : q.phase with
        | choosing =>
          rw [question?_of_choosing hphase] at hquestion
          cases hquestion
          exact chooseKind_step hphase (hoffered _ rfl)
        | asking p =>
          rw [question?_of_asking hphase] at hquestion
          obtain ⟨round, hround, rfl⟩ := Option.map_eq_some_iff.1 hquestion
          exact answerRound_step hphase hround hoffered hproper
        | finished => exact absurd hphase (phase_ne_finished hquestion)

/-- No answer changes how answers are treated. -/
theorem submit_options (q : Query) (answer : String) (source : Source) :
    (q.submit answer source).1.options = q.options := by
  have hstep := submit_step q answer source
  generalize q.submit answer source = result at hstep
  cases hstep with
  | exhausted => exact discard_options q.tally
  | ended | refused | stopped | chosen | answered | committed => rfl

/-- An answer ends a query exactly if it says so. -/
theorem isFinished_submit_iff {q : Query} {question : Question}
    (hquestion : q.question? = some question) (answer : String) (source : Source) :
    (q.submit answer source).1.isFinished = true ↔ (q.submit answer source).2 = .ok .finished := by
  have hopen : q.isFinished = false := beq_eq_false_iff_ne.2 (phase_ne_finished hquestion)
  have hstep := submit_step q answer source
  generalize q.submit answer source = result at hstep
  cases hstep with
  | ended hnone =>
    rw [hquestion] at hnone
    cases hnone
  | @refused _ outcome _ houtcome =>
    have hne : outcome ≠ .finished := by
      rintro rfl
      cases houtcome
    have hopen : q.tally.isFinished = false := hopen
    simp [hne, hopen]
  | exhausted hquestion =>
    have hphase := discard_phase (phase_ne_finished (q := q.tally) hquestion)
    simp [isFinished, hphase]
  | stopped => simp [finish, isFinished]
  | chosen | answered | committed => simp [isFinished, commit]

/-! ### Lists of answers -/

@[simp] theorem submitAll_nil (q : Query) : q.submitAll [] = q := rfl

@[simp] theorem submitAll_cons (q : Query) (answer : String) (source : Source)
    (answers : List (String × Source)) :
    q.submitAll ((answer, source) :: answers) = (q.submit answer source).1.submitAll answers :=
  rfl

theorem submitAll_append (q : Query) (as bs : List (String × Source)) :
    q.submitAll (as ++ bs) = (q.submitAll as).submitAll bs := List.foldl_append ..

/-- What every answer keeps, every list of answers keeps. -/
theorem submitAll_induction {P : Query → Prop}
    (hsubmit : ∀ q answer source, P q → P (q.submit answer source).1) {q : Query} (h : P q)
    (answers : List (String × Source)) : P (q.submitAll answers) := by
  induction answers generalizing q with
  | nil =>
    rw [submitAll_nil]
    exact h
  | cons a answers ih =>
    obtain ⟨answer, source⟩ := a
    rw [submitAll_cons]
    exact ih (hsubmit q answer source h)

theorem submitAll_options (q : Query) (answers : List (String × Source)) :
    (q.submitAll answers).options = q.options :=
  submitAll_induction (P := fun q' => q'.options = q.options)
    (fun q' answer source h => (submit_options q' answer source).trans h) rfl answers

end Query
end TableTalk
