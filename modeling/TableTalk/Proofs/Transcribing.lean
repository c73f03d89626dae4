import TableTalk.Proofs.Accounting

/-!
# What a transcript tells

A transcript passes every call on to the port inside and back, so the session on the other
side does not notice it.  What it notes down tells the dialogue: first the refusals of answers
that were given in advance, and then, question by question, what was asked, what was answered,
and why the answer was refused if it was.  A refusal that goes over the limit is told like any
other, though it reaches the port on another way.

## Main definitions

* `Query.Noted` — what is noted of what came of an answer.
* `Query.Recorded` — what is noted of a dialogue: one case for each thing that can happen.
* `Session.Made` — calls in a row, and what each of them comes to.

## Main results

* `Session.turn_transcript` — a turn over a transcript is the turn over the port inside.
* `Query.Recorded.countP_eq` — as many refusals are noted as are counted.
* `Session.Transcribed.turn` — what a turn adds to a transcript.
* `Session.recorded_of_calls` — **calls over a transcript come to what they come to over the
  port inside, and the transcript tells the dialogue.**
-/

namespace TableTalk

/-! ### Exchanges -/

namespace Exchange

/-- Whether the exchange is a refusal. -/
def isRefusal : Exchange → Bool
  | .refusal _ => true
  | _ => false

/-- The answer that the exchange is, if it is one. -/
def answer? : Exchange → Option String
  | .answer text => some text
  | _ => none

end Exchange

namespace Query

variable {q fresh : Query} {answer : String}

/-! ### What is told of an answer -/

/-- What is told of what came of an answer. -/
def told (reply : Except QueryError Outcome) : List Exchange :=
  (Turn.ofResult reply).1.toList.map .refusal

/-- What is noted of what came of an answer: nothing if it was taken, and otherwise why it was
refused. -/
inductive Noted (q : Query) (answer : String) : List Exchange → Prop
  /-- The answer is not refused. -/
  | taken (h : ∀ outcome, ¬Refused q answer outcome) : Noted q answer []
  /-- The answer is refused. -/
  | refused {outcome : Outcome} {message : String} (h : Refused q answer outcome)
    (hmessage : outcome.rejection? = some message) : Noted q answer [.refusal message]

/-- A refusal is told whether or not it goes over the limit. -/
theorem told_refuse {outcome : Outcome} (h : outcome.rejection?.isSome = true) (stage : Stage) :
    told (q.refuse outcome stage).2 = outcome.rejection?.toList.map .refusal := by
  have hok : Turn.ofResult (.ok outcome) = (outcome.rejection?, .more) := by
    cases outcome with
    | accepted | committed | finished => cases h
    | rejected | noTargets | unbuildable => rfl
  cases hlimit : q.options.maxAttempts with
  | none =>
    rw [refuse_of_unlimited hlimit, told, hok]
  | some limit =>
    rw [refuse_of_limit hlimit]
    split
    · rw [told, hok]
    · rfl

theorem told_of_accepted {outcome : Outcome} (h : outcome.rejection? = none) :
    told (.ok outcome) = [] := by
  cases outcome with
  | accepted | committed | finished => rfl
  | rejected | noTargets | unbuildable => cases h

/-- Behind a refused answer there is no other reply than a refusal. -/
theorem Refused.isRefused_submit {outcome : Outcome} (h : Refused q answer outcome)
    (source : Source) : isRefused (q.submit answer source).2 = true := by
  have houtcome := h.isSome_rejection?
  rw [h.submit_eq source]
  cases hlimit : q.options.maxAttempts with
  | none =>
    rw [refuse_of_unlimited hlimit]
    simp [isRefused, isRefusal, houtcome]
  | some limit =>
    rw [refuse_of_limit hlimit]
    split
    · simp [isRefused, isRefusal, houtcome]
    · rfl

/-- What is told of an answer is what is to be noted of it, and it is counted. -/
theorem noted_told (q : Query) (answer : String) (source : Source) :
    Noted q answer (told (q.submit answer source).2) := by
  rcases refused_or_accepted q answer source with ⟨outcome, hrefused⟩ | hended | ⟨_, hok, hnone⟩
  · obtain ⟨message, hmessage⟩ := Option.isSome_iff_exists.1 hrefused.isSome_rejection?
    rw [hrefused.submit_eq source, told_refuse hrefused.isSome_rejection?, hmessage]
    exact .refused hrefused hmessage
  · rw [hended]
    refine .taken ?_
    intro outcome hrefused
    have h := hrefused.isRefused_submit source
    rw [hended] at h
    cases h
  · rw [hok, told_of_accepted hnone]
    refine .taken ?_
    intro outcome hrefused
    have h := hrefused.isRefused_submit source
    rw [hok] at h
    simp [isRefused, isRefusal, isExhaustion, hnone] at h

/-- As many refusals are noted of an answer as are counted. -/
theorem Noted.rejections_eq {noted : List Exchange} (h : Noted q answer noted)
    (source : Source) :
    (q.submit answer source).1.rejections = q.rejections + noted.countP Exchange.isRefusal := by
  rw [rejections_submit]
  cases h with
  | refused h =>
    rw [List.countP_singleton, if_pos (h.isRefused_submit source)]
    rfl
  | taken h =>
    rcases refused_or_accepted q answer source with ⟨outcome, hrefused⟩ | hended | ⟨_, hok, hnone⟩
    · exact absurd hrefused (h outcome)
    · rw [hended]
      rfl
    · rw [hok]
      simp [isRefused, isRefusal, isExhaustion, hnone]

theorem Noted.filterMap_answer? {noted : List Exchange} (h : Noted q answer noted) :
    noted.filterMap Exchange.answer? = [] := by
  cases h <;> rfl

/-! ### What is noted of a dialogue -/

/-- What is noted of a dialogue with a query: the answers given in advance that were taken,
what the readings behind them came to, the exchanges, and the query behind them. -/
inductive Recorded (fresh : Query) :
    List String → List (Except ChannelError String) → List Exchange → Query → Prop
  /-- Nothing has happened. -/
  | start : Recorded fresh [] [] [] fresh
  /-- An answer given in advance is taken, before anything is read; its refusal is noted. -/
  | replayed {given : List String} {exchanges noted : List Exchange} {q : Query}
    {question : Question} {answer : String} (h : Recorded fresh given [] exchanges q)
    (hquestion : q.question? = some question) (hnoted : Noted q answer noted) :
    Recorded fresh (given ++ [answer]) [] (exchanges ++ noted) (q.submit answer .replayed).1
  /-- The open question is noted, and no answer can be read. -/
  | unread {given : List String} {reads : List (Except ChannelError String)}
    {exchanges : List Exchange} {q : Query} {question : Question}
    (h : Recorded fresh given reads exchanges q) (hquestion : q.question? = some question)
    (e : ChannelError) :
    Recorded fresh given (reads ++ [.error e])
      (exchanges ++ [.question question.prompt question.shown]) q
  /-- The open question is noted, the answer that is read, and its refusal. -/
  | read {given : List String} {reads : List (Except ChannelError String)}
    {exchanges noted : List Exchange} {q : Query} {question : Question} {answer : String}
    (h : Recorded fresh given reads exchanges q) (hquestion : q.question? = some question)
    (hnoted : Noted q answer noted) :
    Recorded fresh given (reads ++ [.ok answer])
      (exchanges ++ (.question question.prompt question.shown :: .answer answer :: noted))
      (q.submit answer .live).1

section

variable {given : List String} {reads : List (Except ChannelError String)}
  {exchanges : List Exchange}

/-- As many refusals are noted as are counted. -/
theorem Recorded.countP_eq (h : Recorded fresh given reads exchanges q) :
    fresh.rejections + exchanges.countP Exchange.isRefusal = q.rejections := by
  induction h with
  | start => rfl
  | replayed h hquestion hnoted ih =>
    rw [hnoted.rejections_eq, List.countP_append, ← ih]
    omega
  | unread h hquestion e ih =>
    rw [List.countP_append, ← ih]
    rfl
  | read h hquestion hnoted ih =>
    rw [hnoted.rejections_eq, List.countP_append, ← ih]
    simp only [List.countP_cons, Exchange.isRefusal, Bool.false_eq_true, if_false]
    omega

/-- The answers that are noted are the ones that were read. -/
theorem Recorded.filterMap_answer? (h : Recorded fresh given reads exchanges q) :
    exchanges.filterMap Exchange.answer? = Port.answers reads := by
  induction h with
  | start => rfl
  | replayed h hquestion hnoted ih =>
    rw [List.filterMap_append, ih, hnoted.filterMap_answer?, List.append_nil]
  | unread h hquestion e ih =>
    rw [List.filterMap_append, ih, Port.answers_append]
    rfl
  | read h hquestion hnoted ih =>
    rw [List.filterMap_append, ih, Port.answers_append]
    simp only [List.filterMap_cons, Exchange.answer?, hnoted.filterMap_answer?]
    rfl

/-- The answers lead to the query one by one. -/
theorem Recorded.query_eq (h : Recorded fresh given reads exchanges q) :
    q = fresh.submitAll (given.map (·, .replayed) ++ (Port.answers reads).map (·, .live)) := by
  induction h with
  | start => rfl
  | replayed h hquestion hnoted ih =>
    rw [ih]
    simp [Port.answers, submitAll_append]
  | unread h hquestion e ih =>
    have hnone : Port.answers [(.error e : Except ChannelError String)] = [] := rfl
    rw [ih, Port.answers_append, hnone, List.append_nil]
  | read h hquestion hnoted ih =>
    rw [ih, Port.answers_append]
    simp [Port.answers, Except.toOption, submitAll_append]

end

end Query

namespace Session

variable {σ : Type} [Port σ]

/-! ### Turns over a transcript -/

open Query (told)

theorem settle_transcript (result : Except QueryError Outcome) (t : Transcript σ) :
    settle result t =
      (⟨(settle result t.inner).1, t.exchanges ++ told result⟩, (settle result t.inner).2) := by
  unfold settle told
  rcases Turn.ofResult result with ⟨_ | message, turn⟩
  · simp
  · simp only [Port.report, Option.toList_some, List.map_cons, List.map_nil]
    rcases Port.report message t.inner with ⟨_ | _, inner⟩ <;> rfl

theorem ask_transcript (question : Question) (t : Transcript σ) :
    ask question t = ((ask question t.inner).1, ⟨(ask question t.inner).2,
      t.exchanges ++ .question question.prompt question.shown ::
        (ask question t.inner).1.toOption.toList.map .answer⟩) := by
  unfold ask
  simp only [Port.present]
  rcases Port.present question.prompt question.shown t.inner with ⟨e | ⟨⟩, inner⟩
  · rfl
  · simp only [Port.read, Transcript.read]
    rcases hread : Port.read inner with ⟨e | answer, inner'⟩
    · rfl
    · simp [Transcript.note, Except.toOption]

/-- What a transcript notes of a turn. -/
def noted (s : Session) (c : σ) : List Exchange :=
  match s.query.question? with
  | none => []
  | some question =>
    match s.replay with
    | answer :: _ => told (s.query.submit answer .replayed).2
    | [] => .question question.prompt question.shown ::
      match (ask question c).1 with
      | .ok answer => .answer answer :: told (s.query.submit answer .live).2
      | .error _ => []

/-- A turn over a transcript is the turn over the port inside. -/
theorem turn_transcript (s : Session) (t : Transcript σ) :
    s.turn t = ((s.turn t.inner).1,
      ⟨(s.turn t.inner).2.1, t.exchanges ++ s.noted t.inner⟩, (s.turn t.inner).2.2) := by
  unfold turn noted
  cases s.query.question? with
  | none => simp
  | some question =>
    cases s.replay with
    | cons answer replay => simp only [settle_transcript]
    | nil =>
      simp only [ask_transcript]
      rcases hask : ask question t.inner with ⟨e | answer, inner⟩
      · simp [Except.toOption]
      · simp [Except.toOption, settle_transcript]

theorem taken_transcript (s : Session) (t : Transcript σ) : s.taken t = s.taken t.inner := by
  unfold taken
  cases s.query.question? with
  | none => rfl
  | some question =>
    cases s.replay with
    | cons answer replay => rfl
    | nil =>
      simp only [ask_transcript]
      rcases ask question t.inner with ⟨e | answer, inner⟩ <;> rfl

/-! ### Calls over a transcript -/

/-- A call over a transcript is a call over the port inside. -/
theorem Call.inner {s s' : Session} {t t' : Transcript σ} {used : List (String × Source)}
    {result : Result (Option Transformation)} (h : Call s t used (s', t', result)) :
    Call s t.inner used (s', t'.inner, result) := by
  generalize hout : (s', t', result) = out at h
  induction h with
  | last hturn hresult =>
    cases hout
    rw [turn_transcript] at hturn
    cases hturn
    rw [taken_transcript]
    exact .last rfl hresult
  | more hturn rest ih =>
    have hrest := ih hout
    rw [turn_transcript] at hturn
    rw [taken_transcript]
    injection hturn with hsession hturn
    injection hturn with hport hturn
    subst hsession hport
    exact .more (Prod.ext rfl (Prod.ext rfl hturn)) hrest

/-- A call over the port inside is a call over a transcript. -/
theorem Call.exists_transcript {s s' : Session} {c c' : σ} {used : List (String × Source)}
    {result : Result (Option Transformation)} (h : Call s c used (s', c', result))
    (exchanges : List Exchange) :
    ∃ more, Call s (Transcript.mk c exchanges) used
      (s', Transcript.mk c' (exchanges ++ more), result) := by
  generalize hout : (s', c', result) = out at h
  induction h generalizing exchanges with
  | @last s s₁ c c₁ turn result hturn hresult =>
    cases hout
    have hturn' := turn_transcript s ⟨c, exchanges⟩
    dsimp only at hturn'
    rw [hturn] at hturn'
    have hcall := Call.last hturn' hresult
    rw [taken_transcript] at hcall
    exact ⟨_, hcall⟩
  | @more s s₁ c c₁ used out hturn rest ih =>
    have hturn' := turn_transcript s ⟨c, exchanges⟩
    dsimp only at hturn'
    rw [hturn] at hturn'
    obtain ⟨more, hrest⟩ := ih (exchanges ++ s.noted c) hout
    have hcall := Call.more hturn' hrest
    rw [taken_transcript, List.append_assoc] at hcall
    exact ⟨_, hcall⟩

/-- Calls in a row, and what each of them comes to. -/
inductive Made : Session → σ → List (Result (Option Transformation)) → Session → σ → Prop
  /-- No call. -/
  | nil (s : Session) (c : σ) : Made s c [] s c
  /-- One more call in front. -/
  | cons {s s₁ s' : Session} {c c₁ c' : σ} {used : List (String × Source)}
    {result : Result (Option Transformation)} {results : List (Result (Option Transformation))}
    (head : Call s c used (s₁, c₁, result)) (tail : Made s₁ c₁ results s' c') :
    Made s c (result :: results) s' c'

theorem Made.inner {s s' : Session} {t t' : Transcript σ}
    {results : List (Result (Option Transformation))} (h : Made s t results s' t') :
    Made s t.inner results s' t'.inner := by
  induction h with
  | nil => exact .nil _ _
  | cons head tail ih => exact .cons head.inner ih

theorem Made.exists_transcript {s s' : Session} {c c' : σ}
    {results : List (Result (Option Transformation))} (h : Made s c results s' c')
    (exchanges : List Exchange) :
    ∃ more, Made s (Transcript.mk c exchanges) results s'
      (Transcript.mk c' (exchanges ++ more)) := by
  induction h generalizing exchanges with
  | nil => exact ⟨[], (List.append_nil exchanges).symm ▸ .nil _ _⟩
  | cons head tail ih =>
    obtain ⟨more, hhead⟩ := head.exists_transcript exchanges
    obtain ⟨further, htail⟩ := ih (exchanges ++ more)
    rw [List.append_assoc] at htail
    exact ⟨_, .cons hhead htail⟩

/-! ### What a transcript tells -/

/-- Where every question is shown, asking it is reading once. -/
theorem ask_of_present (hpresent : ∀ prompt options (c : σ),
    (Port.present prompt options c).1 = .ok ()) (question : Question) (c : σ) :
    ask question c = Port.read (Port.present question.prompt question.shown c).2 := by
  have hshown : Port.present question.prompt question.shown c =
      (.ok (), (Port.present question.prompt question.shown c).2) :=
    Prod.ext (hpresent question.prompt question.shown c) rfl
  unfold ask
  rw [hshown]

/-- The transcript tells how the session has come from the first one, over the readings that
the port inside was used for. -/
structure Transcribed (s : Session) (c : σ) (s' : Session) (t : Transcript σ) : Prop where
  /-- The exchanges are what is to be noted of the answers given in advance and the readings. -/
  recorded : ∃ given reads, Query.Recorded s.query given reads t.exchanges s'.query ∧
    s.replay = given ++ s'.replay ∧ (reads ≠ [] → s'.replay = []) ∧ Port.Served c reads t.inner

theorem transcribed_refl (s : Session) (c : σ) : Transcribed s c s ⟨c, []⟩ :=
  ⟨[], [], .start, rfl, fun h => absurd rfl h, .refl⟩

section

variable (hpresent : ∀ prompt options (c : σ), (Port.present prompt options c).1 = .ok ())

include hpresent

/-- A turn adds to the transcript what is to be noted of it. -/
theorem Transcribed.turn {s s' : Session} {c : σ} {t : Transcript σ}
    (h : Transcribed s c s' t) : Transcribed s c (s'.turn t).1 (s'.turn t).2.1 := by
  obtain ⟨given, reads, hrecorded, hgiven, hempty, hserved⟩ := h
  rw [turn_transcript]
  have hturned := turn_turned s' t.inner
  unfold noted
  generalize s'.turn t.inner = out at hturned
  generalize s'.taken t.inner = used at hturned
  cases hturned with
  | ended hquestion =>
    simp only [hquestion, List.append_nil]
    exact ⟨given, reads, hrecorded, hgiven, hempty, hserved⟩
  | @replayed question answer replay hquestion hreplay =>
    -- There is an answer given in advance left, so nothing has been read.
    have hreads : reads = [] := by
      by_contra hne
      rw [hempty hne] at hreplay
      cases hreplay
    subst hreads
    have hnoted := Query.noted_told s'.query answer .replayed
    simp only [hquestion, hreplay]
    refine ⟨given ++ [answer], [], hrecorded.replayed hquestion hnoted, ?_,
      fun h => absurd rfl h, settle_served hserved _⟩
    rw [hgiven, hreplay, List.append_assoc]
    rfl
  | @unread question e c' hquestion hreplay hask =>
    have hread := (hserved.presented question.prompt question.shown).read
    rw [← ask_of_present hpresent, hask] at hread
    simp only [hquestion, hreplay, hask]
    exact ⟨given, _, hrecorded.unread hquestion e, hgiven, fun _ => hreplay, hread⟩
  | @live question answer c' hquestion hreplay hask =>
    have hnoted := Query.noted_told s'.query answer .live
    have hread := (hserved.presented question.prompt question.shown).read
    rw [← ask_of_present hpresent, hask] at hread
    simp only [hquestion, hreplay, hask]
    refine ⟨given, _, hrecorded.read hquestion hnoted, ?_, fun _ => rfl,
      settle_served hread _⟩
    rw [hgiven, hreplay]

/-- A call adds to the transcript what is to be noted of its turns. -/
theorem Transcribed.call {s s₁ s' : Session} {c : σ} {t t' : Transcript σ}
    {used : List (String × Source)} {result : Result (Option Transformation)}
    (h : Transcribed s c s₁ t) (hcall : Call s₁ t used (s', t', result)) :
    Transcribed s c s' t' := by
  generalize hout : (s', t', result) = out at hcall
  induction hcall with
  | last hturn hresult =>
    cases hout
    have hnext := h.turn hpresent
    rw [hturn] at hnext
    exact hnext
  | more hturn rest ih =>
    have hnext := h.turn hpresent
    rw [hturn] at hnext
    exact ih hnext hout

theorem Transcribed.made {s s₁ s' : Session} {c : σ} {t t' : Transcript σ}
    {results : List (Result (Option Transformation))} (h : Transcribed s c s₁ t)
    (hmade : Made s₁ t results s' t') : Transcribed s c s' t' := by
  induction hmade with
  | nil => exact h
  | cons head tail ih => exact ih (h.call hpresent head)

end

/-- **Calls over a transcript come to what they come to over the port inside, and the transcript
tells the dialogue.**  Any number of calls have the same results, lead to the same session and
leave the port inside in the same state, which may keep account of all that it was used for.
If questions can always be shown, then what has passed through is the refusals of the answers
that were given in advance and refused, and behind them each question that was open when it was
shown, the answer that was read, unless none could be read, and the refusal of this answer
exactly if it was refused, within the limit or over it.  The answers are those that were read,
in order, and there are as many refusals as the query counts. -/
theorem recorded_of_calls
    (hpresent : ∀ prompt options (c : σ), (Port.present prompt options c).1 = .ok ())
    (schema : Schema) (options : QueryOptions) (replay : List String) (c : σ)
    (results : List (Result (Option Transformation))) (s : Session) :
    (∀ c', Made ⟨.start schema options, replay⟩ c results s c' ↔
      ∃ t : Transcript σ, Made ⟨.start schema options, replay⟩ (Transcript.mk c []) results s t ∧
        t.inner = c') ∧
    ∀ t, Made ⟨.start schema options, replay⟩ (Transcript.mk c []) results s t →
      ∃ given reads, Query.Recorded (.start schema options) given reads t.exchanges s.query ∧
        replay = given ++ s.replay ∧ (reads ≠ [] → s.replay = []) ∧
        Port.Served c reads t.inner ∧
        t.exchanges.filterMap Exchange.answer? = Port.answers reads ∧
        s.query = (Query.start schema options).submitAll
          (given.map (·, .replayed) ++ (Port.answers reads).map (·, .live)) ∧
        t.exchanges.countP Exchange.isRefusal = s.query.rejections := by
  refine ⟨?_, ?_⟩
  · intro c'
    constructor
    · intro h
      obtain ⟨more, htranscript⟩ := h.exists_transcript []
      exact ⟨_, htranscript, rfl⟩
    · rintro ⟨t, h, rfl⟩
      exact h.inner
  · intro t h
    obtain ⟨given, reads, hrecorded, hgiven, hempty, hserved⟩ :=
      (transcribed_refl ⟨.start schema options, replay⟩ c).made hpresent h
    have hcount := hrecorded.countP_eq
    have hzero : (Query.start schema options).rejections = 0 := rfl
    rw [hzero, Nat.zero_add] at hcount
    exact ⟨given, reads, hrecorded, hgiven, hempty, hserved, hrecorded.filterMap_answer?,
      hrecorded.query_eq, hcount⟩

/-- A session that gives up a transformation behind the second refusal of a round. -/
def impatient : Session :=
  ⟨.start Table.people.schema { maxAttempts := some 1 }, ["SortBy", "Nobody"]⟩

/-- The answers read are used up by the first call, which goes over the limit; the second call
shows one question more, and the three refusals are noted all the same. -/
theorem recorded_of_calls_impatient :
    let script : Script := { answers := ["Rank", "Sideways", "Upwards"] }
    let results := [.error (.exhausted .argument 2 (.rejected .notOffered)),
      .error (.channel .scriptExhausted)]
    ∃ s t, Made impatient (Transcript.mk script []) results s t ∧
      Made impatient script results s t.inner ∧ t.exchanges.length = 10 ∧
      t.exchanges.filterMap Exchange.answer? = script.answers ∧
      t.exchanges.countP Exchange.isRefusal = s.query.rejections := by
  intro script results
  obtain ⟨_, hfirst⟩ := exists_call_next impatient (Transcript.mk script [])
  obtain ⟨_, hsecond⟩ := exists_call_next (impatient.next (Transcript.mk script [])).1
    (impatient.next (Transcript.mk script [])).2.1
  have hmade := Made.cons hfirst (Made.cons hsecond (.nil _ _))
  have hresults : [(impatient.next (Transcript.mk script [])).2.2,
      ((impatient.next (Transcript.mk script [])).1.next
        (impatient.next (Transcript.mk script [])).2.1).2.2] = results := by decide +kernel
  rw [hresults] at hmade
  obtain ⟨hinner, htold⟩ := recorded_of_calls (fun _ _ _ => rfl) Table.people.schema
    { maxAttempts := some 1 } ["SortBy", "Nobody"] script results _
  obtain ⟨given, reads, -, -, -, -, -, -, hcount⟩ := htold _ hmade
  exact ⟨_, _, hmade, (hinner _).2 ⟨_, hmade, rfl⟩, by decide +kernel, by decide +kernel, hcount⟩

end Session
end TableTalk
