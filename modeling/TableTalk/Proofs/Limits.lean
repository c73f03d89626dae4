import TableTalk.Proofs.Refusing

/-!
# The limit on refused answers

The answers that were refused since the last one that was accepted, or that went over the limit,
are what the limit is about: the refused answer that finds as many of them as are allowed goes
over it.  Then the transformation in progress is given up, and the history is what it was before
its kind was chosen.

## Main definitions

* `Query.replies` — what came of each answer of a list.
* `Query.standing` — how many answers were refused in a row.
* `Query.InProgressSince` — when the kind of the transformation in progress was chosen.

## Main results

* `Query.attempts_eq_standing` — a query counts the answers refused in a row.
* `Query.exists_inProgressSince` — what is left when the transformation in progress is given up.
* `Query.exhausted_of_standing` — **the answer that goes over the limit is the refused one behind
  as many refused answers as are allowed.**
-/

namespace TableTalk
namespace Query

/-! ### What came of answers -/

/-- What came of each answer of a list, in order. -/
def replies (q : Query) : List (String × Source) → List (Except QueryError Outcome)
  | [] => []
  | (answer, source) :: given =>
    (q.submit answer source).2 :: (q.submit answer source).1.replies given

theorem replies_cons (q : Query) (answer : String) (source : Source)
    (given : List (String × Source)) :
    q.replies ((answer, source) :: given) =
      [(q.submit answer source).2] ++ (q.submit answer source).1.replies given :=
  rfl

theorem replies_append (q : Query) (as bs : List (String × Source)) :
    q.replies (as ++ bs) = q.replies as ++ (q.submitAll as).replies bs := by
  induction as generalizing q with
  | nil => rfl
  | cons a as ih =>
    obtain ⟨answer, source⟩ := a
    rw [List.cons_append, replies_cons, replies_cons, submitAll_cons, ih, List.append_assoc]

theorem replies_concat (q : Query) (given : List (String × Source)) (answer : String)
    (source : Source) :
    q.replies (given ++ [(answer, source)]) =
      q.replies given ++ [((q.submitAll given).submit answer source).2] :=
  replies_append q given _

theorem length_replies (q : Query) (given : List (String × Source)) :
    (q.replies given).length = given.length := by
  induction given generalizing q with
  | nil => rfl
  | cons entry given ih =>
    obtain ⟨answer, source⟩ := entry
    rw [replies_cons, List.length_append, ih, List.length_singleton, List.length_cons,
      Nat.add_comm]

theorem submitAll_concat (q : Query) (given : List (String × Source)) (answer : String)
    (source : Source) :
    q.submitAll (given ++ [(answer, source)]) = ((q.submitAll given).submit answer source).1 :=
  submitAll_append q given _

/-- Whether an answer was accepted. -/
def isAccepted : Except QueryError Outcome → Bool
  | .ok outcome => outcome.rejection?.isNone
  | .error _ => false

/-- Whether an answer was refused, within the limit. -/
def isRefusal : Except QueryError Outcome → Bool
  | .ok outcome => outcome.rejection?.isSome
  | .error _ => false

/-- Whether an answer went over the limit. -/
def isExhaustion : Except QueryError Outcome → Bool
  | .error (.exhausted _ _ _) => true
  | _ => false

/-- Whether an answer was accepted or went over the limit. -/
def closesRound (reply : Except QueryError Outcome) : Bool := isAccepted reply || isExhaustion reply

/-- How many answers were refused since the last one that was accepted or went over the
limit. -/
def standing (replies : List (Except QueryError Outcome)) : Nat :=
  (replies.rtakeWhile fun reply => !closesRound reply).countP isRefusal

theorem standing_concat (replies : List (Except QueryError Outcome))
    (reply : Except QueryError Outcome) :
    standing (replies ++ [reply]) =
      if closesRound reply then 0
      else standing replies + if isRefusal reply then 1 else 0 := by
  unfold standing
  -- A reply that closes the round leaves none behind it; any other one is counted with the rest.
  rw [List.rtakeWhile_concat]
  by_cases hcloses : closesRound reply = true
  · rw [if_neg (by simp [hcloses]), if_pos hcloses, List.countP_nil]
  · rw [if_pos (by simp [hcloses]), if_neg hcloses, List.countP_append, List.countP_singleton]

/-- An answer that closes the round lets the count start again. -/
theorem attempts_submit (q : Query) (answer : String) (source : Source) :
    (q.submit answer source).1.attempts =
      if closesRound (q.submit answer source).2 then 0
      else q.attempts + if isRefusal (q.submit answer source).2 then 1 else 0 := by
  have hstep := submit_step q answer source
  generalize q.submit answer source = result at hstep
  cases hstep with
  | ended => rfl
  | refused hquestion houtcome =>
    have hnone := Option.isNone_eq_false_iff.2 houtcome
    simp only [closesRound, isAccepted, isRefusal, houtcome, hnone]
    rfl
  | exhausted =>
    rw [discard_attempts]
    rfl
  | stopped | chosen | answered | committed => rfl

/-- A query counts the answers refused in a row. -/
theorem attempts_eq_standing (schema : Schema) (options : QueryOptions)
    (given : List (String × Source)) :
    ((start schema options).submitAll given).attempts =
      standing ((start schema options).replies given) := by
  induction given using List.reverseRecOn with
  | nil => rfl
  | append_singleton given entry ih =>
    obtain ⟨answer, source⟩ := entry
    rw [submitAll_concat, replies_concat, standing_concat, attempts_submit, ih]

/-! ### When the transformation in progress was started -/

/-- Of the answers given to the query, the one behind those in front chose the kind, which has
been in progress ever since. -/
structure InProgressSince (q : Query) (given front : List (String × Source)) (kind : Kind) :
    Prop where
  /-- The answers in front are some of those given. -/
  isPrefix : front <+: given
  /-- Behind them no transformation was in progress. -/
  pending?_front : (q.submitAll front).pending? = none
  /-- Behind every further answer the kind was. -/
  pending?_behind : ∀ middle, middle <+: given → front.length < middle.length →
    (q.submitAll middle).pending? = some kind

theorem pending?_of_asking {q : Query} {p : Pending} (h : q.phase = .asking p) :
    q.pending? = some p.kind := by
  simp only [pending?, h]

theorem pending?_of_choosing {q : Query} (h : q.phase = .choosing) : q.pending? = none := by
  simp only [pending?, h]

theorem InProgressSince.concat {q : Query} {given front : List (String × Source)} {kind : Kind}
    (h : q.InProgressSince given front kind) {entry : String × Source}
    (hpending : (q.submitAll (given ++ [entry])).pending? = some kind) :
    q.InProgressSince (given ++ [entry]) front kind := by
  refine ⟨h.isPrefix.trans (List.prefix_append given [entry]), h.pending?_front, ?_⟩
  intro middle hmiddle hlength
  rcases List.prefix_concat_iff.1 hmiddle with rfl | hmiddle
  · exact hpending
  · exact h.pending?_behind middle hmiddle hlength

/-- The answer that chooses a kind starts the transformation. -/
theorem inProgressSince_concat_self {q : Query} {given : List (String × Source)} {kind : Kind}
    (hphase : (q.submitAll given).phase = .choosing) {entry : String × Source}
    (hpending : (q.submitAll (given ++ [entry])).pending? = some kind) :
    q.InProgressSince (given ++ [entry]) given kind := by
  refine ⟨List.prefix_append given [entry], pending?_of_choosing hphase, ?_⟩
  intro middle hmiddle hlength
  rcases List.prefix_concat_iff.1 hmiddle with rfl | hmiddle
  · exact hpending
  · have := hmiddle.length_le
    omega

/-- Where the history is cut when the transformation in progress is given up, it was when its
kind was chosen. -/
theorem exists_inProgressSince (schema : Schema) (options : QueryOptions)
    (given : List (String × Source)) {p : Pending}
    (hphase : ((start schema options).submitAll given).phase = .asking p) :
    ∃ front, (start schema options).InProgressSince given front p.kind ∧
      ((start schema options).submitAll front).history =
        ((start schema options).submitAll given).history.take p.start ∧
      p.start ≤ ((start schema options).submitAll given).history.length := by
  induction given using List.reverseRecOn generalizing p with
  | nil => cases hphase
  | append_singleton given entry ih =>
    obtain ⟨answer, source⟩ := entry
    have hpending := pending?_of_asking hphase
    rw [submitAll_concat] at hphase ⊢
    generalize hq : (start schema options).submitAll given = q at hphase ih ⊢
    -- The answer leaves the transformation in progress, or it chose its kind.
    have hstep := submit_step q answer source
    generalize q.submit answer source = result at hstep hphase ⊢
    cases hstep with
    | ended | refused =>
      obtain ⟨front, hsince, hrest⟩ := ih hphase
      exact ⟨front, hsince.concat hpending, hrest⟩
    | exhausted hquestion =>
      rw [discard_phase (phase_ne_finished (q := q.tally) hquestion)] at hphase
      cases hphase
    | stopped | committed => cases hphase
    | chosen hchoosing =>
      cases hphase
      rw [← hq] at hchoosing
      refine ⟨given, inProgressSince_concat_self hchoosing hpending, ?_, ?_⟩
      · rw [hq]
        exact List.take_left.symm
      · exact (List.prefix_append q.history _).length_le
    | answered hasking =>
      cases hphase
      obtain ⟨front, hsince, hfront, hle⟩ := ih hasking
      refine ⟨front, hsince.concat hpending, ?_, ?_⟩
      · rw [hfront]
        exact (List.take_append_of_le_length hle).symm
      · exact hle.trans (List.prefix_append q.history _).length_le

/-- Only the transformation in progress is given up. -/
theorem discard_history_of_pending?_eq_none {q : Query} (h : q.pending? = none) :
    q.discard.history = q.history := by
  unfold discard
  split
  · next p hphase =>
    rw [pending?_of_asking hphase] at h
    cases h
  · rfl

theorem discard_history_of_asking {q : Query} {p : Pending} (h : q.phase = .asking p) :
    q.discard.history = q.history.take p.start := by
  simp only [discard, h]

@[simp] theorem discard_tally_history (q : Query) :
    q.tally.discard.history = q.discard.history := by
  rw [discard_tally]

/-! ### Going over the limit -/

/-- Nothing is taken back but by an answer that goes over the limit. -/
theorem prefix_of_submit (q : Query) (answer : String) (source : Source)
    (h : ∀ stage attempts last,
      (q.submit answer source).2 ≠ .error (.exhausted stage attempts last)) :
    q.committed <+: (q.submit answer source).1.committed ∧
      q.history <+: (q.submit answer source).1.history := by
  have hstep := submit_step q answer source
  generalize q.submit answer source = result at hstep h
  cases hstep with
  | ended | refused => exact ⟨List.prefix_rfl, List.prefix_rfl⟩
  | exhausted => exact absurd rfl (h _ _ _)
  | stopped | chosen | answered => exact ⟨List.prefix_rfl, List.prefix_append _ _⟩
  | committed => exact ⟨List.prefix_append _ _, List.prefix_append _ _⟩

/-- An answer goes over the limit if it is refused and as many refused ones are counted as are
allowed, and then it gives the transformation in progress up. -/
theorem submit_eq_exhausted_iff {initial : Schema} {q : Query} (h : Coherent initial q)
    {limit : Nat} (hlimit : q.options.maxAttempts = some limit) (answer : String)
    (source : Source) {q' : Query} {stage : Stage} {attempts : Nat} {last : Outcome} :
    q.submit answer source = (q', .error (.exhausted stage attempts last)) ↔
      Refused q answer last ∧ q.attempts = limit ∧ attempts = limit + 1 ∧ q.stage = stage ∧
        q' = q.tally.discard := by
  have hle := h.attempts_le limit hlimit
  constructor
  · intro hsubmit
    rcases refused_or_accepted q answer source with ⟨outcome, hrefused⟩ | hended | ⟨_, hok, -⟩
    · rw [hrefused.submit_eq, refuse_of_limit hlimit] at hsubmit
      split at hsubmit
      · cases hsubmit
      · cases hsubmit
        have hattempts : q.attempts = limit := by omega
        exact ⟨hrefused, hattempts, congrArg (· + 1) hattempts, rfl, rfl⟩
    · rw [hsubmit] at hended
      cases hended
    · rw [hsubmit] at hok
      cases hok
  · rintro ⟨hrefused, rfl, rfl, rfl, rfl⟩
    rw [hrefused.submit_eq, refuse_of_limit hlimit, if_neg (Nat.lt_irrefl _)]

/-- **The answer that goes over the limit is the refused one behind as many refused answers as
are allowed**, counted since the last one that was accepted or went over the limit itself.  It
tells the stage of the round that was open and how many answers were refused in it.  Behind it
a kind is chosen, no refused answer counts, the committed transformations and the schema are
what they were, and the history is what it was before the kind of the transformation in
progress was chosen.  No other answer takes a committed transformation or an accepted answer
back. -/
theorem exhausted_of_standing (schema : Schema) (matching : Matching) (limit : Nat)
    (given : List (String × Source)) (answer : String) (source : Source) :
    let fresh := start schema { matching := matching, maxAttempts := some limit }
    let q := fresh.submitAll given
    let q' := (q.submit answer source).1
    let reply := (q.submit answer source).2
    ((∃ stage attempts last, reply = .error (.exhausted stage attempts last)) ↔
      (∃ outcome, Refused q answer outcome) ∧ standing (fresh.replies given) = limit) ∧
    (∀ stage attempts last, reply = .error (.exhausted stage attempts last) →
      stage = q.stage ∧ attempts = limit + 1 ∧ Refused q answer last ∧
      q'.stage = .kind ∧ q'.pending? = none ∧ q'.isFinished = false ∧ q'.attempts = 0 ∧
      q'.committed = q.committed ∧ q'.schema = q.schema ∧
      (q.pending? = none → q'.history = q.history) ∧
      ∀ kind, q.pending? = some kind → ∃ front, fresh.InProgressSince given front kind ∧
        q'.history = (fresh.submitAll front).history) ∧
    ((∀ stage attempts last, reply ≠ .error (.exhausted stage attempts last)) →
      q.committed <+: q'.committed ∧ q.history <+: q'.history) := by
  intro fresh q q' reply
  have hcoherent : Coherent schema q := (coherent_start schema _).submitAll given
  have hlimit : q.options.maxAttempts = some limit :=
    congrArg QueryOptions.maxAttempts (submitAll_options fresh given)
  have hstanding : q.attempts = standing (fresh.replies given) :=
    attempts_eq_standing schema _ given
  refine ⟨⟨?_, ?_⟩, ?_, prefix_of_submit q answer source⟩
  · rintro ⟨stage, attempts, last, hreply⟩
    have hsubmit : q.submit answer source = (q', .error (.exhausted stage attempts last)) :=
      Prod.ext rfl hreply
    obtain ⟨hrefused, hattempts, -⟩ :=
      (submit_eq_exhausted_iff hcoherent hlimit answer source).1 hsubmit
    exact ⟨⟨last, hrefused⟩, hstanding.symm.trans hattempts⟩
  · rintro ⟨⟨last, hrefused⟩, hcount⟩
    have hsubmit := (submit_eq_exhausted_iff hcoherent hlimit answer source).2
      ⟨hrefused, hstanding.trans hcount, rfl, rfl, rfl⟩
    exact ⟨q.stage, limit + 1, last, congrArg Prod.snd hsubmit⟩
  · intro stage attempts last hreply
    have hsubmit : q.submit answer source = (q', .error (.exhausted stage attempts last)) :=
      Prod.ext rfl hreply
    obtain ⟨hrefused, -, hattempts, hstage, hbehind⟩ :=
      (submit_eq_exhausted_iff hcoherent hlimit answer source).1 hsubmit
    obtain ⟨question, hquestion⟩ := hrefused.exists_question
    have hphase : q'.phase = .choosing := by
      rw [hbehind]
      exact discard_phase (q := q.tally) (phase_ne_finished hquestion)
    have hhistory : q'.history = q.discard.history := by
      rw [hbehind, discard_tally_history]
    refine ⟨hstage.symm, hattempts, hrefused, ?_, pending?_of_choosing hphase, ?_, ?_, ?_, ?_,
      ?_, ?_⟩
    · simp only [Query.stage, hphase]
    · simp only [isFinished, hphase]
      rfl
    · rw [hbehind, discard_attempts]
    · rw [hbehind, discard_committed]
      rfl
    · rw [hbehind, discard_schema]
      rfl
    · intro hnone
      rw [hhistory, discard_history_of_pending?_eq_none hnone]
    · intro kind hkind
      obtain ⟨p, hasking, rfl⟩ := pending?_eq_some hkind
      obtain ⟨front, hsince, hfront, -⟩ := exists_inProgressSince schema _ given hasking
      refine ⟨front, hsince, ?_⟩
      rw [hhistory, discard_history_of_asking hasking]
      exact hfront.symm

/-- A word that is refused, a column that is dropped, and a grouping whose keys are refused. -/
def stumblingAnswers : List (String × Source) :=
  ["Sort", "DropColumn", "Name", "GroupBy", "Team", "Sum", ","].map (·, .live)

/-- The keys refused for the second time give the grouping up, with three of the five answers
accepted so far. -/
theorem exhausted_of_standing_stumbling :
    let fresh := start Table.people.schema { matching := .labelOrIndex, maxAttempts := some 1 }
    ∃ q, fresh.submitAll stumblingAnswers = q ∧ q.pending? = some .groupBy ∧
      Refused q " , " (.unbuildable (.unrecognized .keys ",")) ∧
      standing (fresh.replies stumblingAnswers) = 1 ∧
      (∃ last, (q.submit " , " .live).2 = .error (.exhausted .freeform 2 last)) ∧
      (q.submit " , " .live).1.stage = .kind ∧
      (q.submit " , " .live).1.committed = [.dropColumn ["Name"]] ∧
      ∃ front, fresh.InProgressSince stumblingAnswers front .groupBy ∧
        (q.submit " , " .live).1.history = (fresh.submitAll front).history := by
  intro fresh
  obtain ⟨hiff, hbehind, -⟩ :=
    exhausted_of_standing Table.people.schema .labelOrIndex 1 stumblingAnswers " , " .live
  have hphase : (fresh.submitAll stumblingAnswers).phase =
      .asking ⟨.groupBy, ["Team", "Sum"], 2⟩ := by decide
  have hcommitted : (fresh.submitAll stumblingAnswers).committed = [.dropColumn ["Name"]] := by
    decide
  have hstanding : standing (fresh.replies stumblingAnswers) = 1 := by decide
  generalize fresh.submitAll stumblingAnswers = q at hphase hcommitted hiff hbehind ⊢
  have hpending := pending?_of_asking hphase
  have hstage : q.stage = .freeform := by
    simp only [stage, hphase]
    rfl
  have hrefused : Refused q " , " (.unbuildable (.unrecognized .keys ",")) := by
    have hquestion := question?_of_asking hphase
    have htext : freeText " , " = .ok "," := by decide
    have hresolve : q.resolve (roundQuestion q.schema .groupBy .freeform) " , " =
        .ok (some ",") := by
      simp only [resolve, roundQuestion, Kind.options?, htext]
      rfl
    exact .unbuildable hphase hquestion hresolve (by decide) (by decide)
  obtain ⟨stage, attempts, last, hreply⟩ := hiff.2 ⟨⟨_, hrefused⟩, hstanding⟩
  obtain ⟨hopen, hattempts, -, hkind, -, -, -, hkept, -, -, hhistory⟩ :=
    hbehind stage attempts last hreply
  rw [hopen, hstage, hattempts] at hreply
  exact ⟨q, rfl, hpending, hrefused, hstanding, ⟨last, hreply⟩, hkind, hkept.trans hcommitted,
    hhistory .groupBy hpending⟩

end Query
end TableTalk
