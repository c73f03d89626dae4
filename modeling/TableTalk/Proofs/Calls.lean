import TableTalk.Dialogue.Session
import TableTalk.Proofs.Coherence
import TableTalk.Proofs.Tables

/-!
# Calls for transformations over any port

A call for a transformation takes turns until one of them commits it, ends the query, or
fails.  Whatever fails on the way, and however often calls are made again behind a failure,
the query is the one to which the answers taken were given one by one: those given in advance
first, in their order, then those that were read.

A port need not run out of answers, and then a call need not come to an end; so calls are
runs of turns here, and `Session.next` is the only call there is where a port is a channel.

## Main definitions

* `Port.Served` — a run of uses of a port, and what its readings came to.
* `Session.taken` — the answer that a turn takes, if it takes one.
* `Session.Turned` — what a turn can do.
* `Session.Call`, `Session.Calls` — a call for a transformation, and calls in a row.
* `Session.Reached` — how far a session has come, by the answers taken.

## Main results

* `Session.call_iff_next` — over a channel, the calls are those of `Session.next`.
* `Session.Reached.turn` — a turn keeps account of the answers taken.
* `Session.query_of_calls` — **calls lead where the answers taken lead one by one, and a call
  yields what the last of them committed.**
-/

namespace TableTalk

/-! ### Uses of a port -/

section

variable {σ : Type} [Port σ]

/-- A run of uses of a port: what each reading came to, and the state behind the run. -/
inductive Port.Served (c : σ) : List (Except ChannelError String) → σ → Prop
  /-- Nothing was done. -/
  | refl : Served c [] c
  /-- A question was to be shown. -/
  | presented {reads : List (Except ChannelError String)} {c' : σ} (h : Served c reads c')
    (prompt : String) (options : List String) : Served c reads (Port.present prompt options c').2
  /-- An answer was to be read. -/
  | read {reads : List (Except ChannelError String)} {c' : σ} (h : Served c reads c') :
    Served c (reads ++ [(Port.read c').1]) (Port.read c').2
  /-- A refusal was to be passed on. -/
  | reported {reads : List (Except ChannelError String)} {c' : σ} (h : Served c reads c')
    (message : String) : Served c reads (Port.report message c').2

/-- The answers among what readings came to. -/
def Port.answers (reads : List (Except ChannelError String)) : List String :=
  reads.filterMap Except.toOption

theorem Port.answers_append (as bs : List (Except ChannelError String)) :
    answers (as ++ bs) = answers as ++ answers bs := List.filterMap_append

namespace Session

/-- The end of a turn reads nothing. -/
theorem settle_served {c c' : σ} {reads : List (Except ChannelError String)}
    (h : Port.Served c reads c') (result : Except QueryError Outcome) :
    Port.Served c reads (settle result c').1 := by
  unfold settle
  split
  · exact h
  · next message turn _ =>
    have hreported := h.reported message
    split
    · next heq =>
      rw [heq] at hreported
      exact hreported
    · next heq =>
      rw [heq] at hreported
      exact hreported

/-- A question leads to one reading at most, and to its answer if there is one. -/
theorem ask_served {c c' : σ} {reads : List (Except ChannelError String)}
    (h : Port.Served c reads c') (question : Question) :
    ∃ more, Port.Served c (reads ++ more) (ask question c').2 ∧
      Port.answers more = (ask question c').1.toOption.toList := by
  have hpresented := h.presented question.prompt question.shown
  unfold ask
  split
  · next c₁ heq =>
    rw [heq] at hpresented
    refine ⟨[(Port.read c₁).1], hpresented.read, ?_⟩
    cases (Port.read c₁).1 <;> rfl
  · next e c₁ heq =>
    rw [heq] at hpresented
    refine ⟨[], ?_, rfl⟩
    rw [List.append_nil]
    exact hpresented

/-! ### What a turn can do -/

/-- The answers that a turn takes, one at most: the next one given in advance, or without such
the one that is read behind the question. -/
def taken (s : Session) (c : σ) : List (String × Source) :=
  match s.query.question? with
  | none => []
  | some question =>
    match s.replay with
    | answer :: _ => [(answer, .replayed)]
    | [] =>
      match ask question c with
      | (.ok answer, _) => [(answer, .live)]
      | (.error _, _) => []

/-- What a turn can do: the answers that it takes, and how it ends. -/
inductive Turned (s : Session) (c : σ) : List (String × Source) → Session × σ × Turn → Prop
  /-- The query has ended. -/
  | ended (hquestion : s.query.question? = none) : Turned s c [] (s, c, .finished)
  /-- The next answer given in advance is taken. -/
  | replayed {question : Question} {answer : String} {replay : List String}
    (hquestion : s.query.question? = some question) (hreplay : s.replay = answer :: replay) :
    Turned s c [(answer, .replayed)]
      (⟨(s.query.submit answer .replayed).1, replay⟩,
        settle (s.query.submit answer .replayed).2 c)
  /-- No answer can be read. -/
  | unread {question : Question} {e : ChannelError} {c' : σ}
    (hquestion : s.query.question? = some question) (hreplay : s.replay = [])
    (hask : ask question c = (.error e, c')) : Turned s c [] (s, c', .failed (.channel e))
  /-- The answer that is read is taken. -/
  | live {question : Question} {answer : String} {c' : σ}
    (hquestion : s.query.question? = some question) (hreplay : s.replay = [])
    (hask : ask question c = (.ok answer, c')) :
    Turned s c [(answer, .live)]
      (⟨(s.query.submit answer .live).1, []⟩, settle (s.query.submit answer .live).2 c')

/-- Every turn does one of these things. -/
theorem turn_turned (s : Session) (c : σ) : Turned s c (s.taken c) (s.turn c) := by
  unfold taken turn
  cases hquestion : s.query.question? with
  | none => exact .ended hquestion
  | some question =>
    cases hreplay : s.replay with
    | cons answer replay => exact .replayed hquestion hreplay
    | nil =>
      rcases hask : ask question c with ⟨e | answer, c'⟩
      · simp only [hask]
        exact .unread hquestion hreplay hask
      · simp only [hask]
        exact .live hquestion hreplay hask

/-! ### How a turn ends -/

/-- How a turn can end behind an answer. -/
inductive Settled : Except QueryError Outcome → Turn → Prop
  /-- The answer completed a transformation. -/
  | committed (t : Transformation) : Settled (.ok (.committed t)) (.committed t)
  /-- The answer ended the query. -/
  | finished : Settled (.ok .finished) .finished
  /-- The answer was taken, or was refused and the refusal passed on. -/
  | more {outcome : Outcome} (hcommitted : ∀ t, outcome ≠ .committed t)
    (hfinished : outcome ≠ .finished) : Settled (.ok outcome) .more
  /-- The refusal could not be passed on. -/
  | unreported {outcome : Outcome} (hrejected : outcome.rejection?.isSome = true)
    (e : ChannelError) : Settled (.ok outcome) (.failed (.channel e))
  /-- The query could not go on, or that could not be passed on. -/
  | failed (e e' : QueryError) : Settled (.error e) (.failed e')

theorem settle_of_rejection {outcome : Outcome} (h : outcome.rejection?.isSome = true) (c : σ) :
    Settled (.ok outcome) (settle (.ok outcome) c).2 := by
  obtain ⟨message, hmessage⟩ := Option.isSome_iff_exists.1 h
  have hresult : Turn.ofResult (.ok outcome) = (some message, .more) := by
    cases outcome with
    | committed | finished | accepted => cases h
    | rejected | noTargets | unbuildable => simp only [Turn.ofResult, hmessage]
  unfold settle
  simp only [hresult]
  split
  · refine .more ?_ ?_
    · rintro t rfl
      cases h
    · rintro rfl
      cases h
  · exact .unreported h _

theorem settle_of_error (e : QueryError) (c : σ) :
    Settled (.error e) (settle (.error e) c).2 := by
  unfold settle
  cases e with
  | exhausted stage attempts last =>
    cases hlast : last.rejection? with
    | none =>
      simp only [Turn.ofResult, hlast]
      exact .failed _ _
    | some message =>
      simp only [Turn.ofResult, hlast]
      split <;> exact .failed _ _
  | channel | build | finished => exact .failed _ _

theorem settle_settled (result : Except QueryError Outcome) (c : σ) :
    Settled result (settle result c).2 := by
  cases result with
  | error e => exact settle_of_error e c
  | ok outcome =>
    cases outcome with
    | committed t => exact .committed t
    | finished => exact .finished
    | accepted resolved => exact .more (fun _ h => by cases h) fun h => by cases h
    | rejected | noTargets | unbuildable => exact settle_of_rejection rfl c

theorem Settled.committed_iff {result : Except QueryError Outcome} {turn : Turn}
    (h : Settled result turn) {t : Transformation} :
    turn = .committed t ↔ result = .ok (.committed t) := by
  cases h with
  | committed => simp
  | finished | failed => simp
  | more hcommitted => simpa using hcommitted t
  | unreported hrejected =>
    constructor
    · intro h
      cases h
    · intro h
      cases h
      cases hrejected

theorem Settled.finished_iff {result : Except QueryError Outcome} {turn : Turn}
    (h : Settled result turn) : turn = .finished ↔ result = .ok .finished := by
  cases h with
  | committed | finished | failed => simp
  | more _ hfinished => simpa using hfinished
  | unreported hrejected =>
    constructor
    · intro h
      cases h
    · intro h
      cases h
      cases hrejected

/-! ### Calls -/

/-- What a call comes to that ends with a turn, unless more turns are needed. -/
def result? : Turn → Option (Result (Option Transformation))
  | .more => none
  | .committed t => some (.ok (some t))
  | .finished => some (.ok none)
  | .failed e => some (.error e)

/-- A call for a transformation: turns until one of them is the last, the answers that they
take, and what the call comes to. -/
inductive Call : Session → σ → List (String × Source) →
    Session × σ × Result (Option Transformation) → Prop
  /-- The turn is the last one. -/
  | last {s s' : Session} {c c' : σ} {turn : Turn} {result : Result (Option Transformation)}
    (hturn : s.turn c = (s', c', turn)) (hresult : result? turn = some result) :
    Call s c (s.taken c) (s', c', result)
  /-- More turns are needed behind this one. -/
  | more {s s' : Session} {c c' : σ} {used : List (String × Source)}
    {out : Session × σ × Result (Option Transformation)}
    (hturn : s.turn c = (s', c', .more)) (rest : Call s' c' used out) :
    Call s c (s.taken c ++ used) out

/-- Calls in a row, whatever each of them comes to, and the answers that they take. -/
inductive Calls : Session → σ → List (String × Source) → Session → σ → Prop
  /-- No call. -/
  | nil (s : Session) (c : σ) : Calls s c [] s c
  /-- One more call in front. -/
  | cons {s s₁ s' : Session} {c c₁ c' : σ} {used used' : List (String × Source)}
    {result : Result (Option Transformation)} (head : Call s c used (s₁, c₁, result))
    (tail : Calls s₁ c₁ used' s' c') : Calls s c (used ++ used') s' c'

theorem result?_eq_committed_iff {turn : Turn} {t : Transformation} :
    result? turn = some (.ok (some t)) ↔ turn = .committed t := by
  cases turn <;> simp [result?]

theorem result?_eq_finished_iff {turn : Turn} :
    result? turn = some (.ok none) ↔ turn = .finished := by
  cases turn <;> simp [result?]

/-! ### Account of the answers taken -/

/-- How far a session has come over a port: the query is the one that the answers taken lead
to; they are the first of those given in advance, and behind all of these the ones that were
read. -/
structure Reached (s : Session) (c : σ) (used : List (String × Source)) (s' : Session) (c' : σ) :
    Prop where
  /-- The answers taken lead to the query one by one. -/
  query_eq : s'.query = s.query.submitAll used
  /-- They were given in advance or read, the former in order and before any reading. -/
  sources : ∃ given reads, s.replay = given ++ s'.replay ∧ Port.Served c reads c' ∧
    (reads ≠ [] → s'.replay = []) ∧
    used = given.map (·, .replayed) ++ (Port.answers reads).map (·, .live)

theorem reached_refl (s : Session) (c : σ) : Reached s c [] s c where
  query_eq := rfl
  sources := ⟨[], [], rfl, .refl, fun h => absurd rfl h, rfl⟩

/-- A turn keeps account of the answers taken. -/
theorem Reached.turn {s s' : Session} {c c' : σ} {used : List (String × Source)}
    (h : Reached s c used s' c') :
    Reached s c (used ++ s'.taken c') (s'.turn c').1 (s'.turn c').2.1 := by
  obtain ⟨hquery, given, reads, hgiven, hserved, hempty, hused⟩ := h
  have hturned := turn_turned s' c'
  generalize s'.turn c' = out at hturned
  generalize s'.taken c' = more at hturned
  cases hturned with
  | ended hquestion =>
    rw [List.append_nil]
    exact ⟨hquery, given, reads, hgiven, hserved, hempty, hused⟩
  | @replayed question answer replay hquestion hreplay =>
    -- There is an answer given in advance left, so nothing has been read.
    have hreads : reads = [] := by
      cases reads with
      | nil => rfl
      | cons read reads =>
        rw [hempty (List.cons_ne_nil read reads)] at hreplay
        cases hreplay
    subst hreads
    refine ⟨?_, given ++ [answer], [], ?_, settle_served hserved _, fun h => absurd rfl h, ?_⟩
    · rw [Query.submitAll_append, ← hquery]
      rfl
    · rw [hgiven, hreplay, List.append_assoc]
      rfl
    · rw [hused, List.map_append]
      simp [Port.answers]
  | @unread question e c'' hquestion hreplay hask =>
    obtain ⟨more, hmore, hanswers⟩ := ask_served hserved question
    rw [hask] at hmore hanswers
    refine ⟨?_, given, reads ++ more, hgiven, hmore, fun _ => hreplay, ?_⟩
    · rw [List.append_nil]
      exact hquery
    · rw [List.append_nil, hused, Port.answers_append, hanswers]
      simp [Except.toOption]
  | @live question answer c'' hquestion hreplay hask =>
    obtain ⟨more, hmore, hanswers⟩ := ask_served hserved question
    rw [hask] at hmore hanswers
    refine ⟨?_, given, reads ++ more, ?_, settle_served hmore _, fun _ => rfl, ?_⟩
    · rw [Query.submitAll_append, ← hquery]
      rfl
    · rw [hgiven, hreplay]
    · rw [hused, Port.answers_append, hanswers]
      simp [Except.toOption]

/-- A call keeps account of the answers taken. -/
theorem Reached.call {s s₁ s' : Session} {c c₁ c' : σ} {used used' : List (String × Source)}
    {result : Result (Option Transformation)} (h : Reached s c used s₁ c₁)
    (hcall : Call s₁ c₁ used' (s', c', result)) : Reached s c (used ++ used') s' c' := by
  generalize hout : (s', c', result) = out at hcall
  induction hcall generalizing used with
  | last hturn hresult =>
    cases hout
    have hnext := h.turn
    rw [hturn] at hnext
    exact hnext
  | more hturn rest ih =>
    have hnext := h.turn
    rw [hturn] at hnext
    rw [← List.append_assoc]
    exact ih hnext hout

/-- Calls keep account of the answers taken. -/
theorem Reached.calls {s s₁ s' : Session} {c c₁ c' : σ} {used used' : List (String × Source)}
    (h : Reached s c used s₁ c₁) (hcalls : Calls s₁ c₁ used' s' c') :
    Reached s c (used ++ used') s' c' := by
  induction hcalls generalizing used with
  | nil =>
    rw [List.append_nil]
    exact h
  | cons head tail ih =>
    rw [← List.append_assoc]
    exact ih (h.call head)

/-! ### What a call comes to -/

theorem Turned.length_le {s : Session} {c : σ} {used : List (String × Source)}
    {out : Session × σ × Turn} (h : Turned s c used out) : used.length ≤ 1 := by
  cases h with
  | ended | unread => exact Nat.zero_le 1
  | replayed | live => exact Nat.le_refl 1

/-- A turn commits what the answer that it takes completes. -/
theorem Turned.committed_iff {s : Session} {c : σ} {used : List (String × Source)}
    {out : Session × σ × Turn} (h : Turned s c used out) {t : Transformation} :
    out.2.2 = .committed t ↔ ∃ answer source, used = [(answer, source)] ∧
      (s.query.submit answer source).2 = .ok (.committed t) := by
  cases h with
  | ended | unread => simp
  | replayed | live =>
    refine (settle_settled _ _).committed_iff.trans ⟨fun h => ⟨_, _, rfl, h⟩, ?_⟩
    rintro ⟨answer, source, hused, hsubmit⟩
    cases hused
    exact hsubmit

/-- A turn finds the query at its end or leads it there. -/
theorem Turned.finished_iff {initial : Schema} {s : Session} (hs : s.query.Coherent initial)
    {c : σ} {used : List (String × Source)} {out : Session × σ × Turn}
    (h : Turned s c used out) : out.2.2 = .finished ↔ out.1.query.isFinished = true := by
  cases h with
  | ended hquestion => simpa [Query.isFinished] using hs.question?_eq_none_iff.1 hquestion
  | unread hquestion => simpa [Query.isFinished] using Query.phase_ne_finished hquestion
  | replayed hquestion =>
    rw [(settle_settled _ _).finished_iff]
    exact (Query.isFinished_submit_iff hquestion _ _).symm
  | live hquestion =>
    rw [(settle_settled _ _).finished_iff]
    exact (Query.isFinished_submit_iff hquestion _ _).symm

/-- A call yields what the last of the answers that it takes completes. -/
theorem Call.committed_iff {s : Session} {c : σ} {used : List (String × Source)}
    {out : Session × σ × Result (Option Transformation)} (h : Call s c used out)
    {t : Transformation} :
    out.2.2 = .ok (some t) ↔ ∃ front answer source, used = front ++ [(answer, source)] ∧
      ((s.query.submitAll front).submit answer source).2 = .ok (.committed t) := by
  induction h with
  | @last s s' c c' turn result hturn hresult =>
    have hturned := turn_turned s c
    have hlength := hturned.length_le
    rw [hturn] at hturned
    have hcommitted : result = .ok (some t) ↔ turn = .committed t := by
      rw [← result?_eq_committed_iff, hresult, Option.some_inj]
    refine hcommitted.trans (hturned.committed_iff.trans ⟨?_, ?_⟩)
    · rintro ⟨answer, source, hused, hsubmit⟩
      exact ⟨[], answer, source, hused, hsubmit⟩
    · rintro ⟨front, answer, source, hused, hsubmit⟩
      rw [hused, List.length_append, List.length_singleton] at hlength
      have hfront : front = [] := List.eq_nil_of_length_eq_zero (by omega)
      subst hfront
      exact ⟨answer, source, hused, hsubmit⟩
  | @more s s' c c' used out hturn rest ih =>
    have hturned := turn_turned s c
    rw [hturn] at hturned
    have hquery : s'.query = s.query.submitAll (s.taken c) := by
      have hnext := (reached_refl s c).turn.query_eq
      rw [hturn] at hnext
      exact hnext
    refine ih.trans ⟨?_, ?_⟩
    · rintro ⟨front, answer, source, rfl, hsubmit⟩
      refine ⟨s.taken c ++ front, answer, source, (List.append_assoc ..).symm, ?_⟩
      rw [Query.submitAll_append, ← hquery]
      exact hsubmit
    · rintro ⟨front, answer, source, hused, hsubmit⟩
      rcases List.eq_nil_or_concat used with rfl | ⟨front', last, rfl⟩
      · -- The turn would have committed, and the call ended with it.
        rw [List.append_nil] at hused
        have hlength := hturned.length_le
        rw [hused, List.length_append, List.length_singleton] at hlength
        have hfront : front = [] := List.eq_nil_of_length_eq_zero (by omega)
        subst hfront
        have hcommitted := hturned.committed_iff.2 ⟨answer, source, hused, hsubmit⟩
        cases hcommitted
      · rw [List.concat_eq_append, ← List.append_assoc] at hused
        obtain ⟨rfl, hlast⟩ := List.append_inj' hused rfl
        cases hlast
        rw [Query.submitAll_append, ← hquery] at hsubmit
        exact ⟨front', answer, source, List.concat_eq_append, hsubmit⟩

/-- A call yields nothing exactly where the query has ended. -/
theorem Call.finished_iff {initial : Schema} {s : Session} {c : σ}
    {used : List (String × Source)} {out : Session × σ × Result (Option Transformation)}
    (h : Call s c used out) (hs : s.query.Coherent initial) :
    out.2.2 = .ok none ↔ out.1.query.isFinished = true := by
  induction h with
  | @last s s' c c' turn result hturn hresult =>
    have hturned := turn_turned s c
    rw [hturn] at hturned
    have hfinished : result = .ok none ↔ turn = .finished := by
      rw [← result?_eq_finished_iff, hresult, Option.some_inj]
    exact hfinished.trans (hturned.finished_iff hs)
  | @more s s' c c' used out hturn rest ih =>
    have hquery := (reached_refl s c).turn.query_eq
    rw [hturn] at hquery
    exact ih (hquery ▸ hs.submitAll _)

/-- **Calls lead where the answers taken lead one by one**, over any port and behind any
failures.  The answers given in advance come first, each once and in order, and while one of
them is left nothing is read; all others were read, and no answer that was read is left out.
The last call yields the transformation that the last answer it took completed, and nothing
exactly where the query has ended. -/
theorem query_of_calls {schema : Schema} {options : QueryOptions} {replay : List String}
    {s s' : Session} {c c₁ c' : σ} {before used : List (String × Source)}
    {result : Result (Option Transformation)}
    (hcalls : Calls ⟨.start schema options, replay⟩ c before s c₁)
    (hcall : Call s c₁ used (s', c', result)) :
    s'.query = (Query.start schema options).submitAll (before ++ used) ∧
    (∃ given reads,
      before ++ used = given.map (·, .replayed) ++ (Port.answers reads).map (·, .live) ∧
      replay = given ++ s'.replay ∧ Port.Served c reads c' ∧ (reads ≠ [] → s'.replay = [])) ∧
    (∀ t, result = .ok (some t) ↔ ∃ front answer source, used = front ++ [(answer, source)] ∧
      (((Query.start schema options).submitAll (before ++ front)).submit answer source).2 =
        .ok (.committed t)) ∧
    (result = .ok none ↔ s'.query.isFinished = true) := by
  have hs := (reached_refl ⟨.start schema options, replay⟩ c).calls hcalls
  rw [List.nil_append] at hs
  have hquery : s.query = (Query.start schema options).submitAll before := hs.query_eq
  obtain ⟨hquery', given, reads, hgiven, hserved, hempty, hused⟩ := hs.call hcall
  refine ⟨hquery', ⟨given, reads, hused, hgiven, hserved, hempty⟩, fun t => ?_, ?_⟩
  · simp only [Query.submitAll_append, ← hquery]
    exact hcall.committed_iff
  · have hcoherent := (Query.coherent_start schema options).submitAll before
    rw [← hquery] at hcoherent
    exact hcall.finished_iff hcoherent

end Session
end

namespace Session

/-- A script of which the first question and the first refusal do not get through. -/
def faltering (answers prompts : List String) (presents reports : Nat) : Unreliable Script where
  inner := { answers := answers, prompts := prompts }
  failPresent := some 0
  failReport := some 0
  presents := presents
  reports := reports

/-- The query behind the first of four answers that sort people by rank, one of them refused. -/
def sorting (n : Nat) : Query :=
  (Query.start Table.people.schema {}).submitAll
    ([("SortBy", .replayed), ("Nobody", .live), ("Rank", .live), ("Descending", .live)].take n)

/-- A question that is not shown ends the first call, a refusal that is not passed on the
second one, and the third one commits; no answer is lost or taken twice. -/
theorem query_of_calls_faltering :
    ∃ (s s' : Session) (c c' : Unreliable Script),
      Calls ⟨.start Table.people.schema {}, ["SortBy"]⟩
        (faltering ["Nobody", "Rank", "Descending"] [] 0 0)
        [("SortBy", .replayed), ("Nobody", .live)] s c ∧
      Call s c [("Rank", .live), ("Descending", .live)]
        (s', c', .ok (some (.sortBy "Rank" .descending))) ∧
      s'.query = sorting 4 ∧ s'.query.isFinished ≠ true := by
  let target := Kind.sortBy.instruction .target
  let argument := Kind.sortBy.instruction .argument
  have unshown : Call ⟨sorting 0, ["SortBy"]⟩ (faltering ["Nobody", "Rank", "Descending"] [] 0 0)
      [("SortBy", .replayed)] (⟨sorting 1, []⟩,
        faltering ["Nobody", "Rank", "Descending"] [] 1 0,
        .error (.channel (.broken "present failed"))) :=
    .more rfl (.last rfl rfl)
  have unreported : Call ⟨sorting 1, []⟩ (faltering ["Nobody", "Rank", "Descending"] [] 1 0)
      [("Nobody", .live)] (⟨sorting 2, []⟩,
        faltering ["Rank", "Descending"] [target] 2 1,
        .error (.channel (.broken "report failed"))) :=
    .last rfl rfl
  have hturn : turn ⟨sorting 2, []⟩ (faltering ["Rank", "Descending"] [target] 2 1) =
      (⟨sorting 3, []⟩, faltering ["Descending"] [target, target] 3 1, .more) := rfl
  have committed : Call ⟨sorting 2, []⟩ (faltering ["Rank", "Descending"] [target] 2 1)
      [("Rank", .live), ("Descending", .live)] (⟨sorting 4, []⟩,
        faltering [] [target, target, argument] 4 1,
        .ok (some (.sortBy "Rank" .descending))) :=
    .more hturn (.last rfl rfl)
  have hcalls : Calls ⟨.start Table.people.schema {}, ["SortBy"]⟩
      (faltering ["Nobody", "Rank", "Descending"] [] 0 0)
      [("SortBy", .replayed), ("Nobody", .live)] ⟨sorting 2, []⟩
      (faltering ["Rank", "Descending"] [target] 2 1) :=
    .cons unshown (.cons unreported (.nil _ _))
  obtain ⟨hquery, -, -, hfinished⟩ := query_of_calls hcalls committed
  refine ⟨_, _, _, _, hcalls, committed, hquery, ?_⟩
  rw [ne_eq, ← hfinished]
  intro h
  cases h

/-! ### Calls over a channel -/

variable {σ : Type} [Channel σ]

theorem next_of_more {s s' : Session} {c c' : σ} (h : s.turn c = (s', c', .more)) :
    s.next c = s'.next c' := by
  rw [next]
  split
  · next heq =>
    rw [h] at heq
    cases heq
    rfl
  all_goals
    next heq =>
      rw [h] at heq
      cases heq

theorem next_of_result? {s s' : Session} {c c' : σ} {turn : Turn}
    {result : Result (Option Transformation)} (h : s.turn c = (s', c', turn))
    (hresult : result? turn = some result) : s.next c = (s', c', result) := by
  rw [next]
  split
  all_goals
    next heq =>
      rw [h] at heq
      cases heq
      cases hresult
      try rfl

theorem Call.eq_next {s : Session} {c : σ} {used : List (String × Source)}
    {out : Session × σ × Result (Option Transformation)} (h : Call s c used out) :
    out = s.next c := by
  induction h with
  | last hturn hresult => exact (next_of_result? hturn hresult).symm
  | more hturn rest ih => rw [ih, next_of_more hturn]

theorem exists_call_next (s : Session) (c : σ) : ∃ used, Call s c used (s.next c) := by
  induction s, c using next.induct with
  | case1 s c s' c' hturn hlt ih =>
    obtain ⟨used, hcall⟩ := ih
    rw [next_of_more hturn]
    exact ⟨_, .more hturn hcall⟩
  | case2 s c s' c' t hturn | case3 s c s' c' hturn | case4 s c s' c' e hturn =>
    rw [next_of_result? hturn rfl]
    exact ⟨_, .last hturn rfl⟩

/-- Over a channel, the calls are those of `Session.next`. -/
theorem call_iff_next {s : Session} {c : σ} {out : Session × σ × Result (Option Transformation)} :
    (∃ used, Call s c used out) ↔ out = s.next c := by
  constructor
  · rintro ⟨used, hcall⟩
    exact hcall.eq_next
  · rintro rfl
    exact exists_call_next s c

end Session
end TableTalk
