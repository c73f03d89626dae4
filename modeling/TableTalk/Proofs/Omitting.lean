import TableTalk.Proofs.Limits

/-!
# Refused answers may be left out

A refused answer leaves a query where it stood: two counts of refusals are all that changes.
Without a limit nothing is decided by these counts, so a dialogue comes to the same with and
without the answers that were refused in it, wherever in the dialogue they were given.

## Main definitions

* `Query.uncounted` — a query without its counts of refusals.
* `Query.withoutRefused` — a list of answers without those that are refused.

## Main results

* `Query.submit_of_uncounted` — without a limit, what an answer does does not depend on the
  counts.
* `Query.submitAll_withoutRefused` — leaving refused answers out changes the counts at most.
* `Query.unchanged_of_refusal` — **a refused answer changes nothing but the counts, and may be
  left out.**
-/

namespace TableTalk
namespace Query

variable {q q' : Query}

/-! ### Queries up to their counts -/

/-- The query without its counts of refusals. -/
def uncounted (q : Query) : Query := { q with attempts := 0, rejections := 0 }

@[simp] theorem uncounted_tally (q : Query) : q.tally.uncounted = q.uncounted := rfl

theorem question?_uncounted (q : Query) : q.uncounted.question? = q.question? := rfl

/-- Without a limit a refusal leaves everything but the counts. -/
theorem refuse_uncounted (h : q.options.maxAttempts = none) (outcome : Outcome) (stage : Stage) :
    Prod.map uncounted id (q.uncounted.refuse outcome stage) =
      Prod.map uncounted id (q.refuse outcome stage) := by
  rw [refuse_of_unlimited h, refuse_of_unlimited (q := q.uncounted) h]
  rfl

theorem chooseKind_uncounted (h : q.options.maxAttempts = none) (label : String)
    (source : Source) :
    Prod.map uncounted id (q.uncounted.chooseKind label source) =
      Prod.map uncounted id (q.chooseKind label source) := by
  have hschema : q.uncounted.schema = q.schema := rfl
  unfold chooseKind
  cases Kind.read label with
  | error cause => rfl
  | ok kind =>
    simp only [hschema]
    by_cases hkind : kind == .empty
    · rw [if_pos hkind, if_pos hkind]
      rfl
    · rw [if_neg hkind, if_neg hkind]
      by_cases htargets : (kind.targets q.schema).isEmpty
      · rw [if_pos htargets, if_pos htargets]
        exact refuse_uncounted h (.noTargets kind) .kind
      · rw [if_neg htargets, if_neg htargets]
        rfl

theorem answerRound_uncounted (h : q.options.maxAttempts = none) (p : Pending) (stage : Stage)
    (resolved : String) (source : Source) :
    Prod.map uncounted id (q.uncounted.answerRound p stage resolved source) =
      Prod.map uncounted id (q.answerRound p stage resolved source) := by
  simp only [answerRound]
  split
  · rfl
  · cases Transformation.build p.kind.name (p.answers ++ [resolved]) with
    | ok t => rfl
    | error cause =>
      dsimp only
      split
      · exact refuse_uncounted h (.unbuildable cause) stage
      · obtain ⟨schema, options, phase, committed, history, attempts, rejections⟩ := q
        cases phase <;> rfl

/-- Without a limit, what an answer does does not depend on the counts. -/
theorem submit_uncounted (h : q.options.maxAttempts = none) (answer : String) (source : Source) :
    Prod.map uncounted id (q.uncounted.submit answer source) =
      Prod.map uncounted id (q.submit answer source) :=
  submit_rel (R := fun out out' => Prod.map uncounted id out = Prod.map uncounted id out')
    q.question?_uncounted (fun _ => rfl) rfl rfl (refuse_uncounted h) rfl
    (fun p stage resolved => answerRound_uncounted h p stage resolved source)
    fun label => chooseKind_uncounted h label source

theorem submit_of_uncounted (h : q.options.maxAttempts = none) (heq : q.uncounted = q'.uncounted)
    (answer : String) (source : Source) :
    (q.submit answer source).1.uncounted = (q'.submit answer source).1.uncounted ∧
      (q.submit answer source).2 = (q'.submit answer source).2 := by
  have hoptions := congrArg Query.options heq
  have h' : q'.options.maxAttempts = none :=
    (congrArg QueryOptions.maxAttempts hoptions).symm.trans h
  have hsubmit := submit_uncounted h answer source
  rw [heq, submit_uncounted h'] at hsubmit
  exact ⟨(congrArg Prod.fst hsubmit).symm, (congrArg Prod.snd hsubmit).symm⟩

/-! ### Leaving refused answers out -/

/-- The answers of a list that are not refused when all of them are given in order. -/
def withoutRefused (q : Query) (given : List (String × Source)) : List (String × Source) :=
  ((given.zip (q.replies given)).filter fun entry => !isRefusal entry.2).map Prod.fst

theorem withoutRefused_cons (q : Query) (answer : String) (source : Source)
    (given : List (String × Source)) :
    q.withoutRefused ((answer, source) :: given) =
      (if isRefusal (q.submit answer source).2 then [] else [(answer, source)]) ++
        (q.submit answer source).1.withoutRefused given := by
  simp only [withoutRefused, replies_cons, List.singleton_append, List.zip_cons_cons,
    List.filter_cons]
  cases isRefusal (q.submit answer source).2 <;> rfl

theorem withoutRefused_sublist (q : Query) (given : List (String × Source)) :
    (q.withoutRefused given).Sublist given := by
  have hzip : (given.zip (q.replies given)).map Prod.fst = given :=
    List.map_fst_zip (Nat.le_of_eq (q.length_replies given).symm)
  have hfilter := (List.filter_sublist (l := given.zip (q.replies given))
    (p := fun entry => !isRefusal entry.2)).map Prod.fst
  rw [hzip] at hfilter
  exact hfilter

/-- A refusal is counted, and nothing else changes. -/
theorem submit_of_isRefusal {answer : String} {source : Source}
    (h : isRefusal (q.submit answer source).2 = true) : (q.submit answer source).1 = q.tally := by
  have hstep := submit_step q answer source
  generalize q.submit answer source = result at hstep h
  cases hstep with
  | refused => rfl
  | ended | exhausted | stopped | chosen | answered | committed => cases h

/-- Only refusals and answers over a limit are counted. -/
theorem rejections_of_not_isRefusal (hlimit : q.options.maxAttempts = none) {answer : String}
    {source : Source} (h : isRefusal (q.submit answer source).2 = false) :
    (q.submit answer source).1.rejections = q.rejections := by
  have hstep := submit_step q answer source
  generalize q.submit answer source = result at hstep h
  cases hstep with
  | refused _ houtcome =>
    rw [isRefusal, houtcome] at h
    cases h
  | exhausted _ _ hoptions =>
    rw [hlimit] at hoptions
    cases hoptions
  | ended | stopped | chosen | answered | committed => rfl

/-- Leaving refused answers out changes the counts at most: none of the answers that are left
is refused, and the others are those that were counted. -/
theorem submitAll_withoutRefused (hlimit : q.options.maxAttempts = none)
    (heq : q.uncounted = q'.uncounted) (given : List (String × Source)) :
    (q'.submitAll (q.withoutRefused given)).uncounted = (q.submitAll given).uncounted ∧
      (q'.submitAll (q.withoutRefused given)).rejections = q'.rejections ∧
      (q.submitAll given).rejections + (q.withoutRefused given).length =
        q.rejections + given.length := by
  induction given generalizing q q' with
  | nil => exact ⟨heq.symm, rfl, rfl⟩
  | cons entry given ih =>
    obtain ⟨answer, source⟩ := entry
    have hlimit' : (q.submit answer source).1.options.maxAttempts = none := by
      rw [submit_options, hlimit]
    rw [withoutRefused_cons, submitAll_cons, List.length_cons]
    cases hreply : isRefusal (q.submit answer source).2 with
    | true =>
      -- The answer is left out, and the query that is not asked stays where it is.
      have htally := submit_of_isRefusal hreply
      have heq' : (q.submit answer source).1.uncounted = q'.uncounted := by
        rw [htally, uncounted_tally, heq]
      have hrest := ih hlimit' heq'
      have hcount : (q.submit answer source).1.rejections = q.rejections + 1 := by
        rw [htally]
        rfl
      rw [if_pos rfl, List.nil_append]
      exact ⟨hrest.1, hrest.2.1, by omega⟩
    | false =>
      obtain ⟨hsubmit, hreplies⟩ := submit_of_uncounted hlimit heq answer source
      have hoptions := congrArg Query.options heq
      have hlimit'' : q'.options.maxAttempts = none :=
        (congrArg QueryOptions.maxAttempts hoptions).symm.trans hlimit
      have hcount := rejections_of_not_isRefusal hlimit hreply
      have hcount' := rejections_of_not_isRefusal hlimit'' (hreplies ▸ hreply)
      have hrest := ih hlimit' hsubmit
      rw [if_neg Bool.false_ne_true, List.singleton_append, submitAll_cons, List.length_cons]
      exact ⟨hrest.1, hrest.2.1.trans hcount', by omega⟩

/-- **A refused answer changes nothing but the counts, and may be left out.**  Wherever answers
have led a query, behind one that is refused it asks the same question in the same stage, of
the same schema, with the same transformations committed, the same answers in its history and
the same transformation in progress; one more refusal is counted, in the round and at all.  So
without a limit on refusals, the answers that are not refused lead where all of them lead; none
of them is refused, and the counted refusals are the answers that were left out. -/
theorem unchanged_of_refusal (schema : Schema) (options : QueryOptions)
    (given : List (String × Source)) :
    let fresh := start schema options
    let q := fresh.submitAll given
    (∀ answer source outcome, (q.submit answer source).2 = .ok outcome →
      outcome.rejection?.isSome = true →
      let q' := (q.submit answer source).1
      q'.question? = q.question? ∧ q'.stage = q.stage ∧ q'.schema = q.schema ∧
      q'.committed = q.committed ∧ q'.history = q.history ∧ q'.answers = q.answers ∧
      q'.pending? = q.pending? ∧ q'.attempts = q.attempts + 1 ∧
      q'.rejections = q.rejections + 1 ∧ q'.uncounted = q.uncounted) ∧
    (options.maxAttempts = none →
      let kept := fresh.withoutRefused given
      let q' := fresh.submitAll kept
      q'.committed = q.committed ∧ q'.schema = q.schema ∧ q'.history = q.history ∧
      q'.question? = q.question? ∧ q'.rejections = 0 ∧ kept.Sublist given ∧
      q.rejections + kept.length = given.length) := by
  intro fresh q
  refine ⟨?_, ?_⟩
  · intro answer source outcome hreply houtcome q'
    have hrefusal : isRefusal (q.submit answer source).2 = true := by
      rw [hreply]
      exact houtcome
    have htally : q' = q.tally := submit_of_isRefusal hrefusal
    rw [htally]
    exact ⟨rfl, rfl, rfl, rfl, rfl, rfl, rfl, rfl, rfl, rfl⟩
  · intro hlimit kept q'
    obtain ⟨heq, hnone, hcount⟩ := submitAll_withoutRefused (q := fresh) hlimit rfl given
    have hcommitted := congrArg Query.committed heq
    have hschema := congrArg Query.schema heq
    have hhistory := congrArg Query.history heq
    have hquestion : q'.uncounted.question? = q.uncounted.question? := by rw [heq]
    have hzero : fresh.rejections = 0 := rfl
    rw [hzero, Nat.zero_add] at hcount
    exact ⟨hcommitted, hschema, hhistory, hquestion, hnone, fresh.withoutRefused_sublist given,
      hcount⟩

/-- Two of the seven answers that lead to a grouping are refused, one of them because a list
without keys makes up nothing. -/
theorem unchanged_of_refusal_stumbling :
    let fresh := start Table.people.schema {}
    let q := fresh.submitAll stumblingAnswers
    let q' := (q.submit " , " .live).1
    fresh.withoutRefused stumblingAnswers =
      ["DropColumn", "Name", "GroupBy", "Team", "Sum"].map (·, .live) ∧
    q'.question? = q.question? ∧ q'.answers = q.answers ∧ q'.rejections = q.rejections + 1 ∧
    (fresh.submitAll (fresh.withoutRefused stumblingAnswers)).history = q.history := by
  have hreply : (((start Table.people.schema {}).submitAll stumblingAnswers).submit " , "
      .live).2 = .ok (.unbuildable (.unrecognized .keys ",")) := by decide +kernel
  have hleft : (start Table.people.schema {}).withoutRefused stumblingAnswers =
      ["DropColumn", "Name", "GroupBy", "Team", "Sum"].map (·, .live) := by decide +kernel
  obtain ⟨hrefusal, hkept⟩ := unchanged_of_refusal Table.people.schema {} stumblingAnswers
  obtain ⟨hquestion, -, -, -, -, hanswers, -, -, hcount, -⟩ := hrefusal " , " .live _ hreply rfl
  obtain ⟨-, -, hhistory, -⟩ := hkept rfl
  exact ⟨hleft, hquestion, hanswers, hcount, hhistory⟩

end Query
end TableTalk
