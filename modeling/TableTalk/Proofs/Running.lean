import TableTalk.Proofs.Accounting
import TableTalk.Proofs.Lockstep

/-!
# Runs over a script

A run makes one call for a transformation after the other, until a call yields nothing or
fails.  Over a channel it comes to an end, since every turn behind which it goes on has used an
answer up.  Over a script the answers alone tell which end: the first of them that ends the
query or goes over the limit decides, and it is the last one taken.  If there is none, all
answers are taken and the next question finds nothing to read.

The proof says of one turn, of a call and of a run the same thing, `Session.Leads`: which of the
answers taken decided, and what was left.

## Main definitions

* `Query.decides` — whether a run ends with an answer.
* `Session.Ran` — calls up to the one that yields nothing or fails, and the answers taken.
* `Session.queue` — the answers that are left and where they come from.
* `Session.Leads` — where answers lead that are taken from a script.

## Main results

* `Session.ran_iff_run` — over a channel, a run is a finite row of calls.
* `Session.turn_leads`, `Session.Ran.leads` — where one turn and a run over a script lead.
* `Session.run_of_answers` — **the first answer that decides is the last one that a run takes,
  and tells what it comes to.**
-/

namespace TableTalk

/-! ### Answers that decide -/

namespace Query

variable {initial : Schema} {q : Query}

/-- Whether a run ends with an answer: it ended the query or went over the limit. -/
def decides : Except QueryError Outcome → Bool
  | .ok .finished | .error (.exhausted _ _ _) => true
  | _ => false

/-- No answer of the list decides. -/
def Undecided (q : Query) (given : List (String × Source)) : Prop :=
  ∀ reply ∈ q.replies given, decides reply = false

/-- The last answer of the list is the first one that decides. -/
def Decided (q : Query) (given : List (String × Source)) (reply : Except QueryError Outcome) :
    Prop :=
  ∃ front answer source, given = front ++ [(answer, source)] ∧ q.Undecided front ∧
    ((q.submitAll front).submit answer source).2 = reply ∧ decides reply = true

theorem undecided_nil (q : Query) : q.Undecided [] := fun _ h => nomatch h

theorem undecided_append {as bs : List (String × Source)} :
    q.Undecided (as ++ bs) ↔ q.Undecided as ∧ (q.submitAll as).Undecided bs := by
  simp only [Undecided, replies_append, List.mem_append, or_imp, forall_and]

theorem undecided_cons {answer : String} {source : Source} {given : List (String × Source)} :
    q.Undecided ((answer, source) :: given) ↔
      decides (q.submit answer source).2 = false ∧ (q.submit answer source).1.Undecided given :=
  List.forall_mem_cons

theorem Undecided.decided {as bs : List (String × Source)} {reply : Except QueryError Outcome}
    (h : q.Undecided as) (hrest : (q.submitAll as).Decided bs reply) :
    q.Decided (as ++ bs) reply := by
  obtain ⟨front, answer, source, rfl, hfront, hreply, hdecides⟩ := hrest
  refine ⟨as ++ front, answer, source, (List.append_assoc ..).symm,
    undecided_append.2 ⟨h, hfront⟩, ?_, hdecides⟩
  rw [submitAll_append]
  exact hreply

/-- Behind answers of which none decides the query goes on. -/
theorem Undecided.isFinished_eq_false {given : List (String × Source)} (h : q.Undecided given)
    (hq : q.Coherent initial) (hopen : q.isFinished = false) :
    (q.submitAll given).isFinished = false := by
  induction given generalizing q with
  | nil => exact hopen
  | cons entry given ih =>
    obtain ⟨answer, source⟩ := entry
    obtain ⟨hreply, hrest⟩ := undecided_cons.1 h
    obtain ⟨question, hquestion⟩ := hq.exists_question hopen
    refine ih hrest (hq.submit answer source) ?_
    rw [← Bool.not_eq_true, isFinished_submit_iff hquestion]
    intro hfinished
    rw [hfinished] at hreply
    cases hreply

/-! ### The first answer that decides -/

theorem find?_eq_none_iff_undecided {given : List (String × Source)} :
    (q.replies given).find? decides = none ↔ q.Undecided given := by
  simp only [List.find?_eq_none, Undecided, Bool.not_eq_true]

theorem Undecided.findIdx_eq_length {given : List (String × Source)} (h : q.Undecided given) :
    (q.replies given).findIdx decides = given.length := by
  rw [List.findIdx_eq_length_of_false h, length_replies]

/-- Whatever follows, the last answer of the list stays the first one that decides. -/
theorem Decided.find?_eq_some {given : List (String × Source)} {reply : Except QueryError Outcome}
    (h : q.Decided given reply) (left : List (String × Source)) :
    (q.replies (given ++ left)).find? decides = some reply := by
  obtain ⟨front, answer, source, rfl, hfront, rfl, hdecides⟩ := h
  rw [replies_append, replies_concat, List.append_assoc, List.find?_append,
    find?_eq_none_iff_undecided.2 hfront, Option.none_or, List.singleton_append,
    List.find?_cons_of_pos hdecides]

theorem Decided.findIdx_add_one {given : List (String × Source)}
    {reply : Except QueryError Outcome} (h : q.Decided given reply)
    (left : List (String × Source)) :
    (q.replies (given ++ left)).findIdx decides + 1 = given.length := by
  obtain ⟨front, answer, source, rfl, hfront, rfl, hdecides⟩ := h
  have hlength := hfront.findIdx_eq_length
  rw [replies_append, replies_concat, List.append_assoc, List.findIdx_append, hlength,
    length_replies, if_neg (Nat.lt_irrefl _), List.singleton_append, List.findIdx_cons, hdecides,
    cond_true, Nat.zero_add, List.length_append, List.length_singleton]

/-! ### Answers taken and answers counted -/

theorem Undecided.countP_isUnread {given : List (String × Source)} (h : q.Undecided given)
    (hq : q.Coherent initial) (hopen : q.isFinished = false) :
    (q.replies given).countP isUnread = 0 := by
  induction given generalizing q with
  | nil => rfl
  | cons entry given ih =>
    obtain ⟨answer, source⟩ := entry
    obtain ⟨hreply, hrest⟩ := undecided_cons.1 h
    obtain ⟨question, hquestion⟩ := hq.exists_question hopen
    have hone : q.Undecided [(answer, source)] := undecided_cons.2 ⟨hreply, undecided_nil _⟩
    have hbehind := hone.isFinished_eq_false hq hopen
    rw [replies_cons, List.countP_append, countP_isUnread_submit hquestion,
      ih hrest (hq.submit answer source) hbehind]

theorem Decided.countP_isUnread {given : List (String × Source)}
    {reply : Except QueryError Outcome} (h : q.Decided given reply) (hq : q.Coherent initial)
    (hopen : q.isFinished = false) : (q.replies given).countP isUnread = 0 := by
  obtain ⟨front, answer, source, rfl, hfront, -⟩ := h
  obtain ⟨question, hquestion⟩ :=
    (hq.submitAll front).exists_question (hfront.isFinished_eq_false hq hopen)
  rw [replies_concat, List.countP_append, hfront.countP_isUnread hq hopen,
    countP_isUnread_submit hquestion]

/-- Without a limit every answer that was read is in the history or was refused. -/
theorem length_eq_of_countP_isUnread {given : List (String × Source)} (hq : q.Coherent initial)
    (hlimit : q.options.maxAttempts = none) (hread : (q.replies given).countP isUnread = 0) :
    q.history.length + q.rejections + given.length =
      (q.submitAll given).history.length + (q.submitAll given).rejections := by
  have hcount := count_replies q given
  have hhistory := history_submitAll hq given
  have hrejections := rejections_submitAll q given
  rw [givenUp_of_unlimited hlimit] at hhistory
  omega

end Query

namespace Session

/-! ### Rows of calls -/

section

variable {σ : Type} [Port σ]

/-- A run: calls as long as they yield transformations, the answers that they take, and what the
run comes to. -/
inductive Ran : Session → σ → List (String × Source) → Session × σ × Result Plan → Prop
  /-- The call yields nothing. -/
  | finished {s s' : Session} {c c' : σ} {used : List (String × Source)}
    (hcall : Call s c used (s', c', .ok none)) : Ran s c used (s', c', .ok s'.query.committed)
  /-- The call fails. -/
  | failed {s s' : Session} {c c' : σ} {used : List (String × Source)} {e : QueryError}
    (hcall : Call s c used (s', c', .error e)) : Ran s c used (s', c', .error e)
  /-- More calls are made behind this one. -/
  | committed {s s₁ : Session} {c c₁ : σ} {used used' : List (String × Source)}
    {t : Transformation} {out : Session × σ × Result Plan}
    (hcall : Call s c used (s₁, c₁, .ok (some t))) (rest : Ran s₁ c₁ used' out) :
    Ran s c (used ++ used') out

/-- A turn in front of a run is one in front of its first call. -/
theorem Ran.more {s s₁ : Session} {c c₁ : σ} {used : List (String × Source)}
    {out : Session × σ × Result Plan} (hturn : s.turn c = (s₁, c₁, .more))
    (h : Ran s₁ c₁ used out) : Ran s c (s.taken c ++ used) out := by
  cases h with
  | finished hcall => exact .finished (.more hturn hcall)
  | failed hcall => exact .failed (.more hturn hcall)
  | committed hcall rest =>
    rw [← List.append_assoc]
    exact .committed (.more hturn hcall) rest

/-- A run keeps account of the answers taken. -/
theorem Reached.ran {s s₁ : Session} {c c₁ : σ} {used used' : List (String × Source)}
    {out : Session × σ × Result Plan} (h : Reached s c used s₁ c₁) (hran : Ran s₁ c₁ used' out) :
    Reached s c (used ++ used') out.1 out.2.1 := by
  induction hran generalizing used with
  | finished hcall | failed hcall => exact h.call hcall
  | committed hcall rest ih =>
    rw [← List.append_assoc]
    exact ih (h.call hcall)

end

section

variable {σ : Type} [Channel σ]

/-- A run goes on behind a call as it does behind its turns. -/
theorem Call.run_eq {s : Session} {c : σ} {used : List (String × Source)}
    {out : Session × σ × Result (Option Transformation)} (h : Call s c used out) :
    s.run c = match out.2.2 with
      | .ok (some _) => out.1.run out.2.1
      | .ok none => (out.1, out.2.1, .ok out.1.query.committed)
      | .error e => (out.1, out.2.1, .error e) := by
  induction h with
  | @last s s' c c' turn result hturn hresult =>
    rw [run_of_turn hturn]
    cases turn <;> cases hresult <;> rfl
  | more hturn rest ih =>
    rw [run_of_turn hturn]
    exact ih

theorem Ran.eq_run {s : Session} {c : σ} {used : List (String × Source)}
    {out : Session × σ × Result Plan} (h : Ran s c used out) : out = s.run c := by
  induction h with
  | finished hcall | failed hcall => exact hcall.run_eq.symm
  | committed hcall rest ih => exact ih.trans hcall.run_eq.symm

/-- Over a channel every run comes to an end. -/
theorem exists_ran_run (s : Session) (c : σ) : ∃ used, Ran s c used (s.run c) := by
  -- The answers that are left become fewer with every turn behind which the run goes on.
  induction s, c using run.induct with
  | case1 s c s' c' hturn hlt ih =>
    obtain ⟨used, hran⟩ := ih
    rw [run_of_turn hturn]
    exact ⟨_, hran.more hturn⟩
  | case2 s c s' c' t hturn hlt ih =>
    obtain ⟨used, hran⟩ := ih
    rw [run_of_turn hturn]
    exact ⟨_, .committed (.last hturn rfl) hran⟩
  | case3 s c s' c' hturn =>
    rw [run_of_turn hturn]
    exact ⟨_, .finished (.last hturn rfl)⟩
  | case4 s c s' c' e hturn =>
    rw [run_of_turn hturn]
    exact ⟨_, .failed (.last hturn rfl)⟩

/-- Over a channel, a run is a finite row of calls, and `Session.run` is the only one. -/
theorem ran_iff_run {s : Session} {c : σ} {out : Session × σ × Result Plan} :
    (∃ used, Ran s c used out) ↔ out = s.run c := by
  constructor
  · rintro ⟨used, hran⟩
    exact hran.eq_run
  · rintro rfl
    exact exists_ran_run s c

end

/-! ### Answers taken from a script -/

/-- The answers that are left and where they come from, those given in advance in front. -/
def queue (s : Session) (c : Script) : List (String × Source) :=
  s.replay.map (·, .replayed) ++ c.answers.map (·, .live)

/-- What is read from a script are its answers, in order. -/
theorem answers_of_served {c c' : Script} {reads : List (Except ChannelError String)}
    (h : Port.Served c reads c') : c.answers = Port.answers reads ++ c'.answers := by
  induction h with
  | refl => rfl
  | presented _ _ _ ih | reported _ _ ih => exact ih
  | @read reads c' _ ih =>
    rw [ih, Port.answers_append, List.append_assoc]
    cases hanswers : c'.answers with
    | nil => simp [Port.read, Script.read, hanswers, Port.answers, Except.toOption]
    | cons answer answers => simp [Port.read, Script.read, hanswers, Port.answers, Except.toOption]

/-- The answers taken were the first ones of those that were left. -/
theorem Reached.queue_eq {s s' : Session} {c c' : Script} {used : List (String × Source)}
    (h : Reached s c used s' c') : queue s c = used ++ queue s' c' := by
  obtain ⟨-, given, reads, hgiven, hserved, hempty, rfl⟩ := h
  have hreplay : s'.replay = [] ∨ Port.answers reads = [] := by
    by_cases hreads : reads = []
    · rw [hreads]
      exact .inr rfl
    · exact .inl (hempty hreads)
  rw [queue, queue, hgiven, answers_of_served hserved]
  rcases hreplay with hnone | hnone <;> simp [hnone]

/-- Where answers lead that are taken from a script: what is left behind them, and how the last
turn ended. -/
inductive Leads (q : Query) (used left : List (String × Source)) : Turn → Prop
  /-- None of them decided, and more answers are taken. -/
  | goesOn {turn : Turn} (hturn : turn.goesOn = true) (h : q.Undecided used) :
    Leads q used left turn
  /-- The last one ended the query. -/
  | finished (h : q.Decided used (.ok .finished)) : Leads q used left .finished
  /-- The last one went over the limit. -/
  | exhausted {stage : Stage} {attempts : Nat} {last : Outcome}
    (h : q.Decided used (.error (.exhausted stage attempts last))) :
    Leads q used left (.failed (.exhausted stage attempts last))
  /-- None of them decided, and no answer is left. -/
  | missing (h : q.Undecided used) (hleft : left = []) :
    Leads q used left (.failed (.channel .scriptExhausted))

/-- More answers in front of which none decides make no difference. -/
theorem Leads.append {q : Query} {used used' left : List (String × Source)} {turn : Turn}
    (hfront : q.Undecided used) (h : Leads (q.submitAll used) used' left turn) :
    Leads q (used ++ used') left turn := by
  cases h with
  | goesOn hturn h => exact .goesOn hturn (Query.undecided_append.2 ⟨hfront, h⟩)
  | finished h => exact .finished (hfront.decided h)
  | exhausted h => exact .exhausted (hfront.decided h)
  | missing h hleft => exact .missing (Query.undecided_append.2 ⟨hfront, h⟩) hleft

theorem Leads.undecided {q : Query} {used left : List (String × Source)} {turn : Turn}
    (h : Leads q used left turn) (hturn : turn.goesOn = true) : q.Undecided used := by
  cases h with
  | goesOn _ h => exact h
  | finished | exhausted | missing => cases hturn

/-- Where one answer leads to which a question was open. -/
theorem leads_submit {q : Query} {question : Question} (hquestion : q.question? = some question)
    (answer : String) (source : Source) (left : List (String × Source)) :
    Leads q [(answer, source)] left (Turn.ofResult (q.submit answer source).2).2 := by
  have hundecided : Query.decides (q.submit answer source).2 = false →
      q.Undecided [(answer, source)] :=
    fun h => Query.undecided_cons.2 ⟨h, Query.undecided_nil _⟩
  have hdecided : ∀ reply, (q.submit answer source).2 = reply → Query.decides reply = true →
      q.Decided [(answer, source)] reply :=
    fun reply hreply hdecides => ⟨[], answer, source, rfl, q.undecided_nil, hreply, hdecides⟩
  have hstep := Query.submit_step q answer source
  generalize q.submit answer source = result at hstep hundecided hdecided
  cases hstep with
  | ended hnone =>
    rw [hquestion] at hnone
    cases hnone
  | @refused question outcome _ houtcome =>
    cases outcome with
    | committed | finished | accepted => cases houtcome
    | rejected | noTargets | unbuildable => exact .goesOn rfl (hundecided rfl)
  | exhausted => exact .exhausted (hdecided _ rfl rfl)
  | stopped => exact .finished (hdecided _ rfl rfl)
  | chosen | answered | committed => exact .goesOn rfl (hundecided rfl)

/-- Where a turn over a script leads. -/
theorem turn_leads {s : Session} {question : Question}
    (hquestion : s.query.question? = some question) (c : Script) :
    Leads s.query (s.taken c) (queue (s.turn c).1 (s.turn c).2.1) (s.turn c).2.2 := by
  have hturned := turn_turned s c
  generalize s.turn c = out at hturned
  generalize s.taken c = used at hturned
  cases hturned with
  | ended hnone =>
    rw [hquestion] at hnone
    cases hnone
  | replayed =>
    rw [settle_script]
    exact leads_submit hquestion _ _ _
  | live =>
    rw [settle_script]
    exact leads_submit hquestion _ _ _
  | unread _ hreplay hask =>
    obtain ⟨rfl, -, hanswers, -⟩ := ask_script_eq_error hask
    refine .missing s.query.undecided_nil ?_
    simp only [queue, hreplay, hanswers, List.map_nil, List.append_nil]

theorem result?_eq_failed_iff {turn : Turn} {e : QueryError} :
    result? turn = some (.error e) ↔ turn = .failed e := by
  cases turn <;> simp [result?]

/-- Where a call over a script leads. -/
theorem Call.leads {initial : Schema} {s : Session} {c : Script}
    {used : List (String × Source)} {out : Session × Script × Result (Option Transformation)}
    (h : Call s c used out) (hs : s.query.Coherent initial)
    (hopen : s.query.isFinished = false) :
    ∃ turn, result? turn = some out.2.2 ∧ Leads s.query used (queue out.1 out.2.1) turn := by
  induction h with
  | @last s s' c c' turn result hturn hresult =>
    obtain ⟨question, hquestion⟩ := hs.exists_question hopen
    have hleads := turn_leads hquestion c
    rw [hturn] at hleads
    exact ⟨turn, hresult, hleads⟩
  | @more s s' c c' used out hturn rest ih =>
    obtain ⟨question, hquestion⟩ := hs.exists_question hopen
    have hleads := turn_leads hquestion c
    have hquery := (reached_refl s c).turn.query_eq
    rw [hturn] at hleads hquery
    -- The turn took an answer that did not decide, so the query is still open behind it.
    have hundecided := hleads.undecided rfl
    rw [hquery] at ih
    obtain ⟨turn, hresult, hrest⟩ :=
      ih (hs.submitAll _) (hundecided.isFinished_eq_false hs hopen)
    exact ⟨turn, hresult, hrest.append hundecided⟩

/-- What a run comes to that ends with a turn, unless more calls are needed. -/
def conclusion? (q : Query) : Turn → Option (Result Plan)
  | .more | .committed _ => none
  | .finished => some (.ok q.committed)
  | .failed e => some (.error e)

/-- Where a run over a script leads. -/
theorem Ran.leads {initial : Schema} {s : Session} {c : Script}
    {used : List (String × Source)} {out : Session × Script × Result Plan}
    (h : Ran s c used out) (hs : s.query.Coherent initial)
    (hopen : s.query.isFinished = false) :
    ∃ turn, conclusion? out.1.query turn = some out.2.2 ∧
      Leads s.query used (queue out.1 out.2.1) turn := by
  induction h with
  | finished hcall =>
    obtain ⟨turn, hresult, hleads⟩ := hcall.leads hs hopen
    obtain rfl := result?_eq_finished_iff.1 hresult
    exact ⟨.finished, rfl, hleads⟩
  | @failed s s' c c' used e hcall =>
    obtain ⟨turn, hresult, hleads⟩ := hcall.leads hs hopen
    obtain rfl := result?_eq_failed_iff.1 hresult
    exact ⟨.failed e, rfl, hleads⟩
  | committed hcall rest ih =>
    obtain ⟨turn, hresult, hleads⟩ := hcall.leads hs hopen
    obtain rfl := result?_eq_committed_iff.1 hresult
    have hundecided := hleads.undecided rfl
    rw [((reached_refl _ _).call hcall).query_eq] at ih
    obtain ⟨turn, hconclusion, hrest⟩ :=
      ih (hs.submitAll _) (hundecided.isFinished_eq_false hs hopen)
    exact ⟨turn, hconclusion, hrest.append hundecided⟩

/-- The answers taken are those up to the first one that decides, or all of them. -/
theorem Leads.used_eq {q : Query} {used left all : List (String × Source)} {turn : Turn}
    (h : Leads q used left turn) (hturn : turn.goesOn = false) (hall : all = used ++ left) :
    used = all.take ((q.replies all).findIdx Query.decides + 1) := by
  subst hall
  cases h with
  | goesOn hgoesOn =>
    rw [hgoesOn] at hturn
    cases hturn
  | finished h | exhausted h => rw [h.findIdx_add_one, List.take_left]
  | missing h hleft =>
    subst hleft
    rw [List.append_nil, h.findIdx_eq_length, List.take_of_length_le (Nat.le_succ _)]

/-- Every answer taken was read. -/
theorem Leads.countP_isUnread {initial : Schema} {q : Query} {used left : List (String × Source)}
    {turn : Turn} (h : Leads q used left turn) (hq : q.Coherent initial)
    (hopen : q.isFinished = false) : (q.replies used).countP Query.isUnread = 0 := by
  cases h with
  | goesOn _ h | missing h => exact h.countP_isUnread hq hopen
  | finished h | exhausted h => exact h.countP_isUnread hq hopen

/-- What a run comes to is told by the first answer that decides. -/
theorem Leads.conclusion_iff {q q' : Query} {used left all : List (String × Source)}
    {turn : Turn} {result : Result Plan} (h : Leads q used left turn)
    (hresult : conclusion? q' turn = some result) (hall : all = used ++ left) :
    (∀ plan, result = .ok plan ↔
      (q.replies all).find? Query.decides = some (.ok .finished) ∧ plan = q'.committed) ∧
    (∀ stage attempts last, result = .error (.exhausted stage attempts last) ↔
      (q.replies all).find? Query.decides = some (.error (.exhausted stage attempts last))) ∧
    (result = .error (.channel .scriptExhausted) ↔
      (q.replies all).find? Query.decides = none) := by
  subst hall
  cases h with
  | goesOn hturn => cases turn <;> cases hturn <;> cases hresult
  | finished h =>
    cases hresult
    simp [h.find?_eq_some left, eq_comm]
  | exhausted h =>
    cases hresult
    simp [h.find?_eq_some left]
  | missing h hleft =>
    subst hleft
    cases hresult
    simp [Query.find?_eq_none_iff_undecided.2 h]

theorem goesOn_of_conclusion? {q : Query} {turn : Turn} {result : Result Plan}
    (h : conclusion? q turn = some result) : turn.goesOn = false := by
  cases turn with
  | more | committed => cases h
  | finished | failed => rfl

/-- **The first answer that decides is the last one that a run over a script takes, and tells what
the run comes to.**  Every run is a finite row of calls.  It takes the answers in order, those
given in advance first, up to the first one that decides, and the query is the one to which they
were given one by one.  The run comes to all transformations that were committed exactly where
the answer that decides ends the query, and to the error of that answer where it goes over the
limit.  If no answer decides, all of them are taken, and the run fails for want of one more.
Without a limit, as many answers are taken as are in the history or were refused. -/
theorem run_of_answers (schema : Schema) (options : QueryOptions) (given rest : List String) :
    let fresh := Query.start schema options
    let all := given.map (·, Source.replayed) ++ rest.map (·, Source.live)
    let first? := (fresh.replies all).find? Query.decides
    let place := (fresh.replies all).findIdx Query.decides
    let out := run ⟨fresh, given⟩ ({ answers := rest } : Script)
    ∃ used, Ran ⟨fresh, given⟩ { answers := rest } used out ∧
      used = all.take (place + 1) ∧ all = used ++ queue out.1 out.2.1 ∧
      out.1.query = fresh.submitAll used ∧
      (∀ plan, out.2.2 = .ok plan ↔
        first? = some (.ok .finished) ∧ plan = out.1.query.committed) ∧
      (∀ stage attempts last, out.2.2 = .error (.exhausted stage attempts last) ↔
        first? = some (.error (.exhausted stage attempts last))) ∧
      (out.2.2 = .error (.channel .scriptExhausted) ↔ first? = none) ∧
      (first? = none → used = all) ∧
      (options.maxAttempts = none →
        used.length = out.1.query.history.length + out.1.query.rejections) := by
  intro fresh all first? place out
  have hfresh : fresh.Coherent schema := Query.coherent_start schema options
  obtain ⟨used, hran⟩ := exists_ran_run ⟨fresh, given⟩ ({ answers := rest } : Script)
  have hreached := (reached_refl _ _).ran hran
  have hquery : out.1.query = fresh.submitAll used := hreached.query_eq
  have hqueue : all = used ++ queue out.1 out.2.1 := hreached.queue_eq
  obtain ⟨turn, hconclusion, hleads⟩ := hran.leads hfresh rfl
  have hused := hleads.used_eq (goesOn_of_conclusion? hconclusion) hqueue
  have hread := hleads.countP_isUnread hfresh rfl
  obtain ⟨hplan, hexhausted, hmissing⟩ := hleads.conclusion_iff hconclusion hqueue
  refine ⟨used, hran, hused, hqueue, hquery, hplan, hexhausted, hmissing, ?_, ?_⟩
  · intro hnone
    rw [hused, (Query.find?_eq_none_iff_undecided.1 hnone).findIdx_eq_length]
    exact List.take_of_length_le (Nat.le_succ _)
  · intro hlimit
    have hlength := Query.length_eq_of_countP_isUnread hfresh hlimit hread
    rw [hquery, ← hlength]
    exact (Nat.zero_add _).symm

/-- A run without a limit takes two answers given in advance and three that are read, the first of
which is refused; one that allows for a single refused answer is given up with the second one.
The answer behind is left both times. -/
theorem run_of_answers_people :
    let sorted := run ⟨.start Table.people.schema {}, ["SortBy", "Rank"]⟩
      ({ answers := ["Nobody", "Descending", "", "DropColumn"] } : Script)
    let givenUp := run
      ⟨.start Table.people.schema { maxAttempts := some 1 }, ["SortBy", "Nobody"]⟩
      ({ answers := ["Somebody", "Rank"] } : Script)
    sorted.2.2 = .ok [.sortBy "Rank" .descending] ∧
      queue sorted.1 sorted.2.1 = [("DropColumn", .live)] ∧
      sorted.1.query.history.length + sorted.1.query.rejections = 5 ∧
      (∃ last, givenUp.2.2 = .error (.exhausted .target 2 last)) ∧
      queue givenUp.1 givenUp.2.1 = [("Rank", .live)] := by
  intro sorted givenUp
  obtain ⟨used, -, hused, hqueue, hquery, hplan, -, -, -, hcount⟩ :=
    run_of_answers Table.people.schema {} ["SortBy", "Rank"]
      ["Nobody", "Descending", "", "DropColumn"]
  obtain ⟨used', -, hused', hqueue', -, -, hexhausted, -⟩ :=
    run_of_answers Table.people.schema { maxAttempts := some 1 } ["SortBy", "Nobody"]
      ["Somebody", "Rank"]
  change used = [("SortBy", .replayed), ("Rank", .replayed), ("Nobody", .live),
    ("Descending", .live), ("", .live)] at hused
  change used' = [("SortBy", .replayed), ("Nobody", .replayed), ("Somebody", .live)] at hused'
  subst hused hused'
  have hcommitted := congrArg Query.committed hquery
  refine ⟨(hplan _).2 ⟨rfl, hcommitted.symm⟩, (congrArg (List.drop 5) hqueue).symm, ?_, ?_, ?_⟩
  · exact (hcount rfl).symm
  · exact ⟨_, (hexhausted _ _ _).2 rfl⟩
  · exact (congrArg (List.drop 3) hqueue').symm

end Session
end TableTalk
