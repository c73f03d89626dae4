import TableTalk.Proofs.Limits
import TableTalk.Proofs.Resolving

/-!
# What becomes of the answers to a report

Every answer of a list is accepted, refused or not read, and the report lists those that were
refused and counts those that were not read.  What it counts as resolved are the accepted
answers that the history still holds in the end.  An answer that goes over the limit takes the
ones to the transformation in progress out of the history, so these are neither resolved nor
refused nor ignored.

## Main definitions

* `Query.inProgress` — the accepted answers to the transformation in progress.
* `Query.givenUp` — the accepted answers to the transformations that were given up.

## Main results

* `Query.history_submit` — what one answer does to the length of the history.
* `Query.history_submitAll` — accepted answers are in the history or were given up.
* `PrefixReport.Progress.exists_takeAll` — which answers are listed, and which are not read.
* `accounted_of_resolveAnswers` — **resolved, given up, refused and ignored answers are all of
  them.**
-/

namespace TableTalk
namespace Query

variable {initial : Schema} {q : Query}

/-! ### Three things that become of an answer -/

/-- Whether an answer was refused, within the limit or over it. -/
def isRefused (reply : Except QueryError Outcome) : Bool := isRefusal reply || isExhaustion reply

/-- Whether an answer came behind the end of the query. -/
def isUnread : Except QueryError Outcome → Bool
  | .error .finished => true
  | _ => false

/-- One of the three becomes of every answer. -/
theorem count_submit (q : Query) (answer : String) (source : Source) :
    [(q.submit answer source).2].countP isAccepted + [(q.submit answer source).2].countP isRefused +
      [(q.submit answer source).2].countP isUnread = 1 := by
  have hstep := submit_step q answer source
  generalize q.submit answer source = result at hstep
  cases hstep with
  | refused hquestion houtcome =>
    have hnone := Option.isNone_eq_false_iff.2 houtcome
    simp [isAccepted, isRefused, isRefusal, isUnread, houtcome, hnone]
  | ended | exhausted | stopped | chosen | answered | committed => rfl

theorem count_replies (q : Query) (given : List (String × Source)) :
    (q.replies given).countP isAccepted + (q.replies given).countP isRefused +
      (q.replies given).countP isUnread = given.length := by
  induction given generalizing q with
  | nil => rfl
  | cons entry given ih =>
    obtain ⟨answer, source⟩ := entry
    have hone := count_submit q answer source
    have hrest := ih (q.submit answer source).1
    rw [replies_cons]
    simp only [List.countP_append, List.length_cons]
    omega

/-! ### Behind the end -/

theorem question?_of_isFinished (h : q.isFinished = true) : q.question? = none :=
  question?_of_finished (beq_iff_eq.1 h)

theorem submit_of_isFinished (h : q.isFinished = true) (answer : String) (source : Source) :
    q.submit answer source = (q, .error .finished) := by
  simp only [submit, question?_of_isFinished h]

/-- An answer to an open question is read. -/
theorem countP_isUnread_submit {question : Question} (hquestion : q.question? = some question)
    (answer : String) (source : Source) : [(q.submit answer source).2].countP isUnread = 0 := by
  have hstep := submit_step q answer source
  generalize q.submit answer source = result at hstep
  cases hstep with
  | ended hnone =>
    rw [hquestion] at hnone
    cases hnone
  | refused | exhausted | stopped | chosen | answered | committed => rfl

theorem submitAll_of_isFinished (h : q.isFinished = true) (given : List (String × Source)) :
    q.submitAll given = q := by
  induction given with
  | nil => rfl
  | cons entry given ih =>
    obtain ⟨answer, source⟩ := entry
    rw [submitAll_cons, submit_of_isFinished h, ih]

theorem countP_isUnread_of_isFinished (h : q.isFinished = true)
    (given : List (String × Source)) : (q.replies given).countP isUnread = given.length := by
  induction given with
  | nil => rfl
  | cons entry given ih =>
    obtain ⟨answer, source⟩ := entry
    rw [replies_cons, submit_of_isFinished h, List.countP_append, ih, List.length_cons,
      Nat.add_comm]
    rfl

/-! ### What the history holds -/

/-- The accepted answers to the transformation in progress: the choice of its kind, and the
answers to its rounds. -/
def inProgress (q : Query) : Nat :=
  match q.phase with
  | .asking p => p.answers.length + 1
  | .choosing | .finished => 0

/-- The accepted answers to the transformations that an answer of the list gives up. -/
def givenUp (q : Query) : List (String × Source) → Nat
  | [] => 0
  | (answer, source) :: given =>
    (if isExhaustion (q.submit answer source).2 then q.inProgress else 0) +
      (q.submit answer source).1.givenUp given

theorem inProgress_of_asking {p : Pending} (h : q.phase = .asking p) :
    q.inProgress = p.answers.length + 1 := by
  simp only [inProgress, h]

theorem inProgress_of_pending?_eq_none (h : q.pending? = none) : q.inProgress = 0 := by
  unfold inProgress
  split
  · next p hphase =>
    rw [pending?_of_asking hphase] at h
    cases h
  · rfl
  · rfl

/-- The accepted answers to the transformation in progress are the last ones of the history. -/
theorem Coherent.length_history (h : Coherent initial q) {p : Pending}
    (hphase : q.phase = .asking p) : q.history.length = p.start + (p.answers.length + 1) := by
  obtain ⟨segments, tail, hparts⟩ := h.parts
  have htail := hparts.tail
  rw [hphase] at htail
  cases htail with
  | asking _ _ hresolved =>
    have hlength := congrArg List.length hresolved
    rw [List.length_map, List.length_cons] at hlength
    rw [hparts.history_eq, List.length_append, ← hparts.start_eq p hphase, hlength]

theorem Coherent.length_discard (h : Coherent initial q) :
    q.discard.history.length + q.inProgress = q.history.length := by
  cases hphase : q.phase with
  | choosing =>
    have hpending := pending?_of_choosing hphase
    rw [discard_history_of_pending?_eq_none hpending, inProgress_of_pending?_eq_none hpending]
    rfl
  | asking p =>
    have hlength := h.length_history hphase
    rw [discard_history_of_asking hphase, inProgress_of_asking hphase, List.length_take, hlength]
    omega
  | finished =>
    have hpending : q.pending? = none := by simp only [pending?, hphase]
    rw [discard_history_of_pending?_eq_none hpending, inProgress_of_pending?_eq_none hpending]
    rfl

theorem length_record (q : Query) (stage : Stage) (resolved : String) (source : Source) :
    (q.record stage resolved source).length = q.history.length + 1 :=
  List.length_append

/-- An accepted answer is one more in the history, and one that goes over the limit takes those
to the transformation in progress away. -/
theorem history_submit (h : Coherent initial q) (answer : String) (source : Source) :
    (q.submit answer source).1.history.length +
        (if isExhaustion (q.submit answer source).2 then q.inProgress else 0) =
      q.history.length + [(q.submit answer source).2].countP isAccepted := by
  have hstep := submit_step q answer source
  generalize q.submit answer source = result at hstep
  cases hstep with
  | ended => rfl
  | refused hquestion houtcome =>
    have hnone := Option.isNone_eq_false_iff.2 houtcome
    simp [isExhaustion, isAccepted, hnone, tally]
  | exhausted =>
    -- The refusal is counted elsewhere; what is left of the history is what is not given up.
    rw [discard_tally_history]
    exact h.length_discard
  | stopped | chosen | answered | committed => exact length_record q _ _ source

/-- An accepted answer is in the history, or was given up. -/
theorem history_submitAll (h : Coherent initial q) (given : List (String × Source)) :
    (q.submitAll given).history.length + q.givenUp given =
      q.history.length + (q.replies given).countP isAccepted := by
  induction given generalizing q with
  | nil => rfl
  | cons entry given ih =>
    obtain ⟨answer, source⟩ := entry
    have hone := history_submit h answer source
    have hrest := ih (h.submit answer source)
    rw [submitAll_cons, givenUp, replies_cons, List.countP_append]
    omega

/-! ### What is given up -/

/-- A query that goes over the limit while a kind is chosen gives nothing up. -/
theorem inProgress_eq_zero_iff {answer : String} {source : Source} {stage : Stage}
    {attempts : Nat} {last : Outcome}
    (hreply : (q.submit answer source).2 = .error (.exhausted stage attempts last)) :
    q.inProgress = 0 ↔ stage = .kind := by
  have hstep := submit_step q answer source
  generalize q.submit answer source = result at hstep hreply
  cases hstep with
  | exhausted hquestion =>
    cases hreply
    have hstage := stage_of_question? hquestion
    cases hphase : q.phase with
    | choosing =>
      have hkind : q.stage = .kind := by simp only [stage, hphase]
      rw [inProgress_of_pending?_eq_none (pending?_of_choosing hphase), ← hstage, hkind]
      exact iff_of_true rfl rfl
    | asking p =>
      rw [question?_of_asking hphase] at hquestion
      obtain ⟨round, -, rfl⟩ := Option.map_eq_some_iff.1 hquestion
      rw [inProgress_of_asking hphase]
      cases round <;> simp [roundQuestion, Stage.ofRound]
    | finished => exact absurd hphase (phase_ne_finished hquestion)
  | ended | refused | stopped | chosen | answered | committed => cases hreply

theorem isExhaustion_iff {reply : Except QueryError Outcome} :
    isExhaustion reply = true ↔
      ∃ stage attempts last, reply = .error (.exhausted stage attempts last) := by
  unfold isExhaustion
  split <;> simp_all

/-- Nothing is given up but by an answer to a round that goes over the limit. -/
theorem givenUp_eq_zero_iff (q : Query) (given : List (String × Source)) :
    q.givenUp given = 0 ↔ ∀ stage attempts last,
      .error (.exhausted stage attempts last) ∈ q.replies given → stage = .kind := by
  induction given generalizing q with
  | nil => simp [givenUp, replies]
  | cons entry given ih =>
    obtain ⟨answer, source⟩ := entry
    rw [givenUp, Nat.add_eq_zero_iff, ih, replies_cons]
    constructor
    · rintro ⟨hone, hothers⟩ stage attempts last hmem
      rcases List.mem_append.1 hmem with hmem | hmem
      · have hreply := (List.mem_singleton.1 hmem).symm
        rw [if_pos (isExhaustion_iff.2 ⟨stage, attempts, last, hreply⟩)] at hone
        exact (inProgress_eq_zero_iff hreply).1 hone
      · exact hothers stage attempts last hmem
    · intro hall
      refine ⟨?_, fun stage attempts last hmem =>
        hall stage attempts last (List.mem_append_right _ hmem)⟩
      by_cases hexhausted : isExhaustion (q.submit answer source).2 = true
      · obtain ⟨stage, attempts, last, hreply⟩ := isExhaustion_iff.1 hexhausted
        rw [if_pos hexhausted]
        refine (inProgress_eq_zero_iff hreply).2 (hall stage attempts last ?_)
        rw [hreply]
        exact List.mem_append_left _ (List.mem_singleton_self _)
      · rw [if_neg hexhausted]

/-- Without a limit no answer goes over it. -/
theorem givenUp_of_unlimited (h : q.options.maxAttempts = none)
    (given : List (String × Source)) : q.givenUp given = 0 := by
  induction given generalizing q with
  | nil => rfl
  | cons entry given ih =>
    obtain ⟨answer, source⟩ := entry
    have hoptions := submit_options q answer source
    have hone : isExhaustion (q.submit answer source).2 = false := by
      have hstep := submit_step q answer source
      generalize q.submit answer source = result at hstep
      cases hstep with
      | exhausted _ _ hlimit =>
        rw [h] at hlimit
        cases hlimit
      | ended | refused | stopped | chosen | answered | committed => rfl
    rw [givenUp, hone, if_neg Bool.false_ne_true, Nat.zero_add]
    exact ih (hoptions ▸ h)

/-! ### What is counted -/

theorem rejections_submit (q : Query) (answer : String) (source : Source) :
    (q.submit answer source).1.rejections =
      q.rejections + [(q.submit answer source).2].countP isRefused := by
  have hstep := submit_step q answer source
  generalize q.submit answer source = result at hstep
  cases hstep with
  | refused hquestion houtcome => simp [isRefused, isRefusal, houtcome, tally]
  | exhausted =>
    rw [discard_tally]
    rfl
  | ended | stopped | chosen | answered | committed => rfl

theorem rejections_submitAll (q : Query) (given : List (String × Source)) :
    (q.submitAll given).rejections = q.rejections + (q.replies given).countP isRefused := by
  induction given generalizing q with
  | nil => rfl
  | cons entry given ih =>
    obtain ⟨answer, source⟩ := entry
    rw [submitAll_cons, ih, rejections_submit, replies_cons, List.countP_append, Nat.add_assoc]

/-- Answers from one source leave a history of answers from that source. -/
theorem source_of_mem_history {source : Source} (h : ∀ e ∈ q.history, e.source = source)
    (answers : List String) :
    ∀ e ∈ (q.submitAll (answers.map (·, source))).history, e.source = source := by
  induction answers generalizing q with
  | nil => exact h
  | cons answer answers ih =>
    rw [List.map_cons, submitAll_cons]
    refine ih ?_
    have hrecord : ∀ stage resolved, ∀ e ∈ q.record stage resolved source, e.source = source := by
      intro stage resolved e he
      rcases List.mem_append.1 he with he | he
      · exact h e he
      · rw [List.mem_singleton.1 he]
    have hstep := submit_step q answer source
    generalize q.submit answer source = result at hstep
    cases hstep with
    | ended | refused => exact h
    | exhausted =>
      -- What is given up is cut off, so the rest was in the history before.
      intro e he
      rw [discard_tally_history] at he
      unfold discard at he
      split at he
      · exact h e (List.mem_of_mem_take he)
      · exact h e he
    | stopped | chosen | answered | committed => exact hrecord _ _

theorem roundsFrom_eq_length {source : Source} (h : ∀ e ∈ q.history, e.source = source) :
    q.roundsFrom source = q.history.length := by
  unfold roundsFrom
  rw [List.filter_eq_self.2 fun e he => beq_iff_eq.2 (h e he)]

end Query

/-! ### The report -/

open Query

namespace PrefixReport.Progress

/-- Answers are taken as they are submitted one by one, those that are refused are listed, and
those behind the end are not read. -/
theorem exists_takeAll {initial : Schema} {p : Progress} (hp : p.query.Coherent initial)
    {given : List String} (hlisted : p.Listed given) (answers : List String) :
    ∃ p' ignored, p.takeAll given.length answers = .ok (p', ignored) ∧
      p'.query = p.query.submitAll (answers.map (·, .replayed)) ∧
      p'.Listed (given ++ answers) ∧
      ignored = (p.query.replies (answers.map (·, .replayed))).countP isUnread := by
  induction answers generalizing p given with
  | nil => exact ⟨p, 0, rfl, rfl, hlisted.append [], rfl⟩
  | cons answer answers ih =>
    -- The answers behind the end are left unread all at once, the others are taken one by one.
    cases hfinished : p.query.isFinished with
    | true =>
      refine ⟨p, _, takeAll_of_isFinished hfinished _ _, ?_, hlisted.append _, ?_⟩
      · rw [submitAll_of_isFinished hfinished]
      · rw [countP_isUnread_of_isFinished hfinished, List.length_map]
    | false =>
      obtain ⟨question, hquestion⟩ := hp.exists_question hfinished
      obtain ⟨p₁, htake, hquery, -⟩ := exists_take hquestion given.length answer
      have hlisted₁ := hlisted.take hquestion htake
      have hcoherent : p₁.query.Coherent initial := hquery ▸ hp.submit answer .replayed
      obtain ⟨p', ignored, htakeAll, hquery', hlisted', hignored⟩ := ih hcoherent hlisted₁
      have hread := countP_isUnread_submit hquestion answer .replayed
      refine ⟨p', ignored, ?_, ?_, ?_, ?_⟩
      · rw [takeAll, if_neg (Bool.eq_false_iff.1 hfinished), htake]
        rw [List.length_append] at htakeAll
        exact htakeAll
      · rw [hquery', hquery]
        rfl
      · rw [List.append_cons given answer answers]
        exact hlisted'
      · rw [hignored, hquery, List.map_cons, replies_cons, List.countP_append, hread, Nat.zero_add]

end PrefixReport.Progress

/-- **Resolved, given up, refused and ignored answers are all of them**: there is a report on
every list of answers, it lists the refused ones and counts those behind the end, and it counts
the accepted ones but for those to a transformation that was given up.  So every answer shows up
in the report unless one goes over the limit in a round, and none of them does without a
limit. -/
theorem accounted_of_resolveAnswers (schema : Schema) (answers : List String)
    (options : QueryOptions) :
    let fresh := Query.start schema options
    let given := answers.map (·, Source.replayed)
    ∃ report, resolveAnswers schema answers options = .ok report ∧
      answers.length =
        report.roundsResolved + fresh.givenUp given + report.rejected.length + report.ignored ∧
      report.roundsResolved + fresh.givenUp given = (fresh.replies given).countP isAccepted ∧
      report.rejected.length = (fresh.replies given).countP isRefused ∧
      report.ignored = (fresh.replies given).countP isUnread ∧
      (fresh.givenUp given = 0 ↔ ∀ stage attempts last,
        .error (.exhausted stage attempts last) ∈ fresh.replies given → stage = .kind) ∧
      (options.maxAttempts = none → fresh.givenUp given = 0) := by
  intro fresh given
  have hcoherent : fresh.Coherent schema := coherent_start schema options
  obtain ⟨p, ignored, htakeAll, hquery, hlisted, hignored⟩ :=
    PrefixReport.Progress.exists_takeAll hcoherent
      (PrefixReport.Progress.listed_start schema options) answers
  have hrounds : p.query.roundsFrom .replayed + fresh.givenUp given =
      (fresh.replies given).countP isAccepted := by
    have hstart : ∀ e ∈ fresh.history, e.source = .replayed := fun e he =>
      absurd he List.not_mem_nil
    have hsources := source_of_mem_history hstart answers
    have hhistory := history_submitAll hcoherent given
    rw [hquery, roundsFrom_eq_length hsources, hhistory]
    exact Nat.zero_add _
  have hrejected : p.rejected.length = (fresh.replies given).countP isRefused := by
    rw [hlisted.length_eq, hquery]
    exact (rejections_submitAll fresh given).trans (Nat.zero_add _)
  replace hignored : ignored = (fresh.replies given).countP isUnread := hignored
  have hall := count_replies fresh given
  rw [List.length_map] at hall
  refine ⟨p.report ignored, ?_, ?_, hrounds, hrejected, hignored,
    givenUp_eq_zero_iff fresh given, fun hlimit => givenUp_of_unlimited hlimit given⟩
  · rw [List.length_nil] at htakeAll
    rw [resolveAnswers, htakeAll]
    rfl
  · show answers.length = p.query.roundsFrom .replayed + fresh.givenUp given + p.rejected.length +
      ignored
    omega

/-- The choice of a kind was accepted, was not refused and was read, and is not counted as
resolved, since the answer behind it goes over the limit. -/
theorem unaccounted_of_givenUp :
    ∃ report, resolveAnswers ⟨[⟨"Name", .text, 0⟩, ⟨"Age", .number, 1⟩]⟩ ["SortBy", "Salary"]
        { matching := .labelOrIndex, maxAttempts := some 0 } = .ok report ∧
      report.roundsResolved = 0 ∧ report.rejected.length = 1 ∧ report.ignored = 0 ∧
      ["SortBy", "Salary"].length ≠
        report.roundsResolved + report.rejected.length + report.ignored := by
  refine ⟨_, rfl, ?_⟩
  decide

end TableTalk
