import TableTalk.Proofs.Answering

/-!
# Which answers are refused

An answer to an open question is refused or taken, and the question, the schema and the answers
so far settle which: how many answers were refused before has no part in it.  It is refused if
it does not answer the question, if it chooses a kind that works on columns where there are
none, or if it is the last answer to a transformation and the answers make up none.  Otherwise
it is taken, and the history ends with what it stands for.

While the answers so far were offered, the last reason is left to lists of keys: whatever else
completes the answers to a transformation, they make one up.

## Main definitions

* `Query.Refused` — the answers that a query refuses, and for what.
* `Query.Takes` — the answers that a query takes, and what they stand for.
* `Query.Barred` — the kinds that cannot be chosen.

## Main results

* `Query.refused_or_takes` — an answer that answers the question is refused or taken.
* `Query.Refused.not_takes` — and not both.
* `Pending.exists_built` — what is built of all the answers to a transformation.
* `Query.Feasible.exists_keys` — only lists of keys make up nothing.
* `Query.Feasible.takes_iff` — which options are taken.
-/

namespace TableTalk
namespace Query

variable {q : Query} {answer : String}

/-- The query refuses the answer, for the outcome. -/
inductive Refused (q : Query) (answer : String) : Outcome → Prop
  /-- It does not answer the question. -/
  | rejected {question : Question} {reason : Invalid} (hquestion : q.question? = some question)
    (hresolve : q.resolve question answer = .error reason) :
    Refused q answer (.rejected reason)
  /-- It chooses a kind that works on columns, and there are none. -/
  | noTargets {question : Question} {kind : Kind} (hphase : q.phase = .choosing)
    (hquestion : q.question? = some question)
    (hresolve : q.resolve question answer = .ok (some kind.name)) (hkind : kind ≠ .empty)
    (hnames : q.schema.names = []) : Refused q answer (.noTargets kind)
  /-- It is the last answer to a transformation, and the answers make up none. -/
  | unbuildable {p : Pending} {question : Question} {resolved : String} {cause : TransformError}
    (hphase : q.phase = .asking p) (hquestion : q.question? = some question)
    (hresolve : q.resolve question answer = .ok (some resolved))
    (hlast : ¬(p.answers ++ [resolved]).length < p.kind.rounds (p.answers ++ [resolved])[1]?)
    (hbuild : Transformation.build p.kind.name (p.answers ++ [resolved]) = .error cause) :
    Refused q answer (.unbuildable cause)

/-- The query takes the answer for the text. -/
structure Takes (q : Query) (answer : String) (source : Source) (resolved : String) : Prop where
  /-- It is accepted. -/
  accepted : ∃ outcome, (q.submit answer source).2 = .ok outcome ∧ outcome.rejection? = none
  /-- What it stands for is entered in the history. -/
  history_eq : (q.submit answer source).1.history = q.record q.stage resolved source

/-- A query stands where its question stands. -/
theorem stage_of_question? {question : Question} (h : q.question? = some question) :
    q.stage = question.stage := by
  cases hphase : q.phase with
  | choosing =>
    rw [question?_of_choosing hphase] at h
    cases h
    simp only [stage, hphase]
  | asking p =>
    rw [question?_of_asking hphase] at h
    obtain ⟨round, hround, rfl⟩ := Option.map_eq_some_iff.1 h
    simp only [stage, hphase, hround, Option.map_some, Option.getD_some, roundQuestion]
  | finished =>
    rw [question?_of_finished hphase] at h
    cases h

/-- Only the choice of a kind is asked for in the stage of kinds. -/
theorem phase_of_stage_eq_kind {question : Question} (hquestion : q.question? = some question)
    (hstage : q.stage = .kind) : q.phase = .choosing := by
  rw [stage_of_question? hquestion] at hstage
  cases hphase : q.phase with
  | choosing => rfl
  | asking p =>
    rw [question?_of_asking hphase] at hquestion
    obtain ⟨round, -, rfl⟩ := Option.map_eq_some_iff.1 hquestion
    cases round <;> cases hstage
  | finished => exact absurd hphase (phase_ne_finished hquestion)

theorem isFinished_eq_false {question : Question} (h : q.question? = some question) :
    q.isFinished = false :=
  beq_eq_false_iff_ne.2 (phase_ne_finished h)

/-! ### Refused answers -/

theorem chooseKind_of_names_eq_nil {kind : Kind} (hkind : kind ≠ .empty)
    (hnames : q.schema.names = []) (source : Source) :
    q.chooseKind kind.name source = q.refuse (.noTargets kind) .kind := by
  rw [chooseKind_name_eq hkind, hnames]
  rfl

theorem answerRound_of_build_eq_error {p : Pending} {resolved : String} {cause : TransformError}
    (hlast : ¬(p.answers ++ [resolved]).length < p.kind.rounds (p.answers ++ [resolved])[1]?)
    (hbuild : Transformation.build p.kind.name (p.answers ++ [resolved]) = .error cause)
    (stage : Stage) (source : Source) :
    q.answerRound p stage resolved source = q.refuse (.unbuildable cause) stage := by
  have hrecoverable : cause.isRecoverable = true := by
    rw [Transformation.build_name] at hbuild
    exact Transformation.isRecoverable_of_ofArguments hbuild
  simp only [answerRound, if_neg hlast, hbuild, hrecoverable, if_true]

namespace Refused

variable {outcome : Outcome}

theorem isSome_rejection? (h : Refused q answer outcome) : outcome.rejection?.isSome = true := by
  cases h <;> rfl

theorem exists_question (h : Refused q answer outcome) :
    ∃ question, q.question? = some question := by
  cases h with
  | rejected hquestion | noTargets _ hquestion | unbuildable _ hquestion => exact ⟨_, hquestion⟩

/-- What becomes of a refused answer is left to the counts. -/
theorem submit_eq (h : Refused q answer outcome) (source : Source) :
    q.submit answer source = q.refuse outcome q.stage := by
  cases h with
  | rejected hquestion hresolve =>
    rw [stage_of_question? hquestion]
    simp only [submit, hquestion, hresolve]
  | noTargets hphase hquestion hresolve hkind hnames =>
    have hstage : q.stage = .kind := by simp only [stage, hphase]
    rw [hstage, ← chooseKind_of_names_eq_nil hkind hnames source]
    simp only [submit, hquestion, hresolve, hphase]
  | unbuildable hphase hquestion hresolve hlast hbuild =>
    rw [stage_of_question? hquestion, ← answerRound_of_build_eq_error hlast hbuild _ source]
    simp only [submit, hquestion, hresolve, hphase]

/-- An answer that stands for a text is refused for what the text leads to. -/
theorem cases_of_resolve (h : Refused q answer outcome) {question : Question} {resolved : String}
    (hquestion : q.question? = some question)
    (hresolve : q.resolve question answer = .ok (some resolved)) :
    (q.phase = .choosing ∧ q.schema.names = [] ∧
        ∃ kind : Kind, kind ≠ .empty ∧ resolved = kind.name ∧ outcome = .noTargets kind) ∨
      ∃ p cause, q.phase = .asking p ∧
        ¬(p.answers ++ [resolved]).length < p.kind.rounds (p.answers ++ [resolved])[1]? ∧
        Transformation.build p.kind.name (p.answers ++ [resolved]) = .error cause ∧
        outcome = .unbuildable cause := by
  cases h with
  | rejected hquestion' hresolve' =>
    rw [hquestion] at hquestion'
    cases hquestion'
    rw [hresolve] at hresolve'
    cases hresolve'
  | noTargets hphase hquestion' hresolve' hkind hnames =>
    rw [hquestion] at hquestion'
    cases hquestion'
    rw [hresolve] at hresolve'
    cases hresolve'
    exact .inl ⟨hphase, hnames, _, hkind, rfl, rfl⟩
  | unbuildable hphase hquestion' hresolve' hlast hbuild =>
    rw [hquestion] at hquestion'
    cases hquestion'
    rw [hresolve] at hresolve'
    cases hresolve'
    exact .inr ⟨_, _, hphase, hlast, hbuild, rfl⟩

/-- No answer is both refused and taken. -/
theorem not_takes (h : Refused q answer outcome) (source : Source) (resolved : String) :
    ¬Takes q answer source resolved := by
  rintro ⟨⟨outcome', hok, haccepted⟩, -⟩
  have hrefusal := h.isSome_rejection?
  rw [h.submit_eq source] at hok
  cases hlimit : q.options.maxAttempts with
  | none =>
    rw [refuse_of_unlimited hlimit] at hok
    cases hok
    rw [haccepted] at hrefusal
    cases hrefusal
  | some limit =>
    rw [refuse_of_limit hlimit] at hok
    split at hok
    · cases hok
      rw [haccepted] at hrefusal
      cases hrefusal
    · cases hok

end Refused

/-! ### Answers that are taken -/

theorem takes_of_submit_eq {q' : Query} {outcome : Outcome} {resolved : String} {source : Source}
    (h : q.submit answer source = (q', .ok outcome)) (haccepted : outcome.rejection? = none)
    (hhistory : q'.history = q.record q.stage resolved source) :
    Takes q answer source resolved := by
  refine ⟨⟨outcome, congrArg Prod.snd h, haccepted⟩, ?_⟩
  rw [h, hhistory]

theorem Takes.unique {source : Source} {resolved resolved' : String}
    (h : Takes q answer source resolved) (h' : Takes q answer source resolved') :
    resolved = resolved' := by
  have heq := h.history_eq.symm.trans h'.history_eq
  have hentry := List.append_cancel_left heq
  cases hentry
  rfl

/-- An answer that answers the question is refused or taken. -/
theorem refused_or_takes {question : Question} (hquestion : q.question? = some question)
    {choice : Option String} (hresolve : q.resolve question answer = .ok choice)
    (source : Source) :
    (∃ outcome, Refused q answer outcome) ∨ Takes q answer source (choice.getD "") := by
  have hstage := stage_of_question? hquestion
  rcases resolve_cases hresolve with ⟨rfl, hkind⟩ | ⟨resolved, rfl, hoffered, -⟩
  · have hsubmit : q.submit answer source = q.finish "" source := by
      simp only [submit, hquestion, hresolve]
    refine .inr (takes_of_submit_eq hsubmit rfl ?_)
    rw [hstage, hkind]
    rfl
  · cases hphase : q.phase with
    | finished => exact absurd hphase (phase_ne_finished hquestion)
    | choosing =>
      have hkinds := hquestion
      rw [question?_of_choosing hphase] at hkinds
      cases hkinds
      obtain ⟨kind, rfl⟩ := Kind.exists_name_of_mem (hoffered _ rfl)
      have hsubmit : q.submit answer source = q.chooseKind kind.name source := by
        simp only [submit, hquestion, hresolve, hphase]
      by_cases hkind : kind = .empty
      · subst hkind
        rw [chooseKind_empty] at hsubmit
        refine .inr (takes_of_submit_eq hsubmit rfl ?_)
        rw [hstage]
        rfl
      · by_cases hnames : q.schema.names = []
        · exact .inl ⟨_, .noTargets hphase hquestion hresolve hkind hnames⟩
        · rw [chooseKind_name hkind hnames] at hsubmit
          refine .inr (takes_of_submit_eq hsubmit rfl ?_)
          rw [hstage]
          rfl
    | asking p =>
      have hsubmit : q.submit answer source =
          q.answerRound p question.stage resolved source := by
        simp only [submit, hquestion, hresolve, hphase]
      rw [← hstage] at hsubmit
      by_cases hmore :
          (p.answers ++ [resolved]).length < p.kind.rounds (p.answers ++ [resolved])[1]?
      · rw [answerRound_more hmore] at hsubmit
        exact .inr (takes_of_submit_eq hsubmit rfl rfl)
      · cases hbuild : Transformation.build p.kind.name (p.answers ++ [resolved]) with
        | ok t =>
          simp only [answerRound, if_neg hmore, hbuild] at hsubmit
          exact .inr (takes_of_submit_eq hsubmit rfl rfl)
        | error cause =>
          exact .inl ⟨_, .unbuildable hphase hquestion hresolve hmore hbuild⟩

/-- An answer to a question is refused or taken. -/
theorem refused_or_exists_takes {question : Question} (hquestion : q.question? = some question)
    (answer : String) (source : Source) :
    (∃ outcome, Refused q answer outcome) ∨ ∃ resolved, Takes q answer source resolved := by
  cases hresolve : q.resolve question answer with
  | error reason => exact .inl ⟨_, .rejected hquestion hresolve⟩
  | ok choice =>
    rcases refused_or_takes hquestion hresolve source with hrefused | htakes
    · exact .inl hrefused
    · exact .inr ⟨_, htakes⟩

/-- An answer that is not refused finds the query ended, or is accepted. -/
theorem refused_or_accepted (q : Query) (answer : String) (source : Source) :
    (∃ outcome, Refused q answer outcome) ∨ (q.submit answer source).2 = .error .finished ∨
      ∃ outcome, (q.submit answer source).2 = .ok outcome ∧ outcome.rejection? = none := by
  cases hquestion : q.question? with
  | none =>
    refine .inr (.inl ?_)
    simp only [submit, hquestion]
  | some question =>
    rcases refused_or_exists_takes hquestion answer source with hrefused | ⟨_, htakes⟩
    · exact .inl hrefused
    · exact .inr (.inr htakes.accepted)

end Query

/-! ### What offered answers make up -/

theorem Kind.name_injective {k l : Kind} (h : k.name = l.name) : k = l := by
  have hread := k.read_name
  rw [h, Kind.read_name] at hread
  cases hread
  rfl

theorem Direction.exists_of_mem_arguments {word : String} (h : word ∈ Kind.sortBy.arguments) :
    ∃ direction : Direction, Vocabulary.read? word = some direction := by
  obtain ⟨direction, -, rfl⟩ := List.mem_map.1 h
  exact ⟨direction, direction.read?_label⟩

theorem Aggregate.exists_of_mem_arguments {word : String} (h : word ∈ Kind.groupBy.arguments) :
    ∃ aggregate : Aggregate, Vocabulary.read? word = some aggregate := by
  obtain ⟨aggregate, -, rfl⟩ := List.mem_map.1 h
  exact ⟨aggregate, aggregate.read?_label⟩

theorem Relation.exists_of_mem_arguments {word : String} (h : word ∈ Kind.filterBy.arguments) :
    ∃ relation : Relation, Vocabulary.read? word = some relation := by
  obtain ⟨relation, -, rfl⟩ := List.mem_map.1 h
  exact ⟨relation, relation.read?_label⟩

/-- Offered answers, one for each round, make up a transformation, unless they are a grouping
and list no key. -/
theorem Pending.exists_built {schema : Schema} {p : Pending} (h : p.Offered schema)
    (hkind : p.kind ≠ .empty) (hlength : p.answers.length = p.kind.rounds p.answers[1]?)
    (hkeys : ∀ text, p.kind = .groupBy → p.answers[2]? = some text →
      (KeySet.ofTokens [text]).isEmpty = false) :
    ∃ t, Transformation.Built p.kind p.answers t := by
  obtain ⟨kind, answers, start⟩ := p
  dsimp only at hkind hlength hkeys ⊢
  have hword := h.argument_mem
  cases kind with
  | empty => exact absurd rfl hkind
  | dropColumn =>
    obtain ⟨column, rfl⟩ := List.length_eq_one_iff.1 hlength
    exact ⟨_, .dropColumn column []⟩
  | sortBy =>
    obtain ⟨column, word, rfl⟩ := List.length_eq_two.1 hlength
    obtain ⟨direction, hdirection⟩ := Direction.exists_of_mem_arguments (hword word rfl)
    exact ⟨_, .sortBy column [] hdirection⟩
  | groupBy =>
    have htwo : 2 ≤ answers.length := hlength ▸ Kind.two_le_rounds_groupBy answers[1]?
    obtain ⟨column, word, lists, rfl⟩ : ∃ column word lists, answers = column :: word :: lists := by
      match answers, htwo with
      | column :: word :: lists, _ => exact ⟨column, word, lists, rfl⟩
    obtain ⟨aggregate, haggregate⟩ := Aggregate.exists_of_mem_arguments (hword word rfl)
    have hrounds : Kind.groupBy.rounds (some word) = if aggregate.needsKeys then 3 else 2 := by
      simp only [Kind.rounds, Option.bind_some, haggregate]
    replace hlength : lists.length + 2 = Kind.groupBy.rounds (some word) := hlength
    cases hneeds : aggregate.needsKeys with
    | false => exact ⟨_, .groupAll column lists haggregate hneeds⟩
    | true =>
      have hone : lists.length = 1 := by
        rw [hrounds, hneeds, if_pos rfl] at hlength
        omega
      obtain ⟨text, rfl⟩ := List.length_eq_one_iff.1 hone
      exact ⟨_, .groupKeys column haggregate hneeds (List.cons_ne_nil _ _) (hkeys text rfl rfl)⟩
  | filterBy =>
    obtain ⟨column, word, literal, rfl⟩ := List.length_eq_three.1 hlength
    obtain ⟨relation, hrelation⟩ := Relation.exists_of_mem_arguments (hword word rfl)
    exact ⟨_, .filterBy column literal [] hrelation⟩

namespace Query

/-- Answers that were all offered make up nothing only if the last one lists no key. -/
theorem Feasible.exists_keys {initial : Schema} {q : Query} (h : Feasible initial q)
    {p : Pending} (hphase : q.phase = .asking p) {round : Round} (hround : p.round? = some round)
    {resolved : String}
    (hoffered : ∀ options, p.kind.options? round q.schema = some options → resolved ∈ options)
    (hlast : ¬(p.answers ++ [resolved]).length < p.kind.rounds (p.answers ++ [resolved])[1]?)
    {cause : TransformError}
    (hbuild : Transformation.build p.kind.name (p.answers ++ [resolved]) = .error cause) :
    p.kind = .groupBy ∧ round = .freeform ∧ (KeySet.ofTokens [resolved]).isEmpty = true := by
  obtain ⟨hkind, hopen⟩ := h.coherent.pending p hphase
  have hle := Kind.length_le_rounds hopen resolved
  have hanswers := (h.offered p hphase).answer hround hoffered
  by_contra hnot
  have hkeys : ∀ text, p.kind = .groupBy → (p.answers ++ [resolved])[2]? = some text →
      (KeySet.ofTokens [text]).isEmpty = false := by
    intro text hgroup htext
    -- The third answer is the last one, and was given in the round for free text.
    have hposition := Kind.eq_position_of_round? hround
    have hthree := Kind.rounds_le_three p.kind (p.answers ++ [resolved])[1]?
    have hlength := (List.getElem?_eq_some_iff.1 htext).1
    rw [List.length_append, List.length_singleton] at hle hlength
    have htwo : p.answers.length = 2 := by omega
    rw [← htwo, List.getElem?_concat_length] at htext
    cases htext
    have hfreeform : round = .freeform := by
      cases round with
      | target | argument =>
        rw [htwo] at hposition
        cases hposition
      | freeform => rfl
    cases hsome : (KeySet.ofTokens [resolved]).isEmpty with
    | false => rfl
    | true => exact absurd ⟨hgroup, hfreeform, hsome⟩ hnot
  obtain ⟨t, hbuilt⟩ := Pending.exists_built hanswers hkind (le_antisymm hle (Nat.not_lt.1 hlast))
    hkeys
  rw [Transformation.build_name, hbuilt.ofArguments_eq] at hbuild
  cases hbuild

/-! ### Options that are refused -/

/-- The option is a kind that works on columns, and there are none. -/
def Barred (q : Query) (label : String) : Prop :=
  q.stage = .kind ∧ q.schema.names = [] ∧ label ≠ Kind.empty.name

section

variable {initial : Schema} {q : Query} {question : Question} {answer label : String}
  (hquestion : q.question? = some question)
  (hresolve : q.resolve question answer = .ok (some label))

include hquestion hresolve

theorem refused_of_barred (hbarred : Barred q label) :
    ∃ kind : Kind, label = kind.name ∧ Refused q answer (.noTargets kind) := by
  obtain ⟨hstage, hnames, hlabel⟩ := hbarred
  have hphase := phase_of_stage_eq_kind hquestion hstage
  have hkinds := hquestion
  rw [question?_of_choosing hphase] at hkinds
  cases hkinds
  rcases resolve_cases hresolve with ⟨hnone, -⟩ | ⟨_, hsome, hoffered, -⟩
  · cases hnone
  · cases hsome
    obtain ⟨kind, rfl⟩ := Kind.exists_name_of_mem (hoffered _ rfl)
    have hkind : kind ≠ .empty := fun heq => hlabel (congrArg Kind.name heq)
    exact ⟨kind, rfl, .noTargets hphase hquestion hresolve hkind hnames⟩

theorem Feasible.barred_of_refused (h : Feasible initial q) {options : List String}
    (hoptions : question.options = some options) {outcome : Outcome}
    (hrefused : Refused q answer outcome) : Barred q label := by
  rcases hrefused.cases_of_resolve hquestion hresolve with
    ⟨hphase, hnames, kind, hkind, rfl, -⟩ | ⟨p, cause, hphase, hlast, hbuild, -⟩
  · have hstage : q.stage = .kind := by simp only [stage, hphase]
    exact ⟨hstage, hnames, fun heq => hkind (Kind.name_injective heq)⟩
  · rw [question?_of_asking hphase] at hquestion
    obtain ⟨round, hround, rfl⟩ := Option.map_eq_some_iff.1 hquestion
    rcases resolve_cases hresolve with ⟨hnone, -⟩ | ⟨_, hsome, hoffered, -⟩
    · cases hnone
    · cases hsome
      -- What is offered is no free text, and only free text makes up nothing.
      obtain ⟨-, rfl, -⟩ := h.exists_keys hphase hround hoffered hlast hbuild
      cases hoptions

/-- An answer that stands for an option is taken, unless the option is a kind that works on
columns where there are none. -/
theorem Feasible.takes_iff (h : Feasible initial q) {options : List String}
    (hoptions : question.options = some options) (source : Source) :
    Takes q answer source label ↔ ¬Barred q label := by
  constructor
  · intro htakes hbarred
    obtain ⟨kind, -, hrefused⟩ := refused_of_barred hquestion hresolve hbarred
    exact hrefused.not_takes source label htakes
  · intro hfree
    rcases refused_or_takes hquestion hresolve source with ⟨outcome, hrefused⟩ | htakes
    · exact absurd (h.barred_of_refused hquestion hresolve hoptions hrefused) hfree
    · exact htakes

end

end Query
end TableTalk
