import TableTalk.Dialogue.Prefix
import TableTalk.Proofs.Calls

/-!
# Resolving answers and replaying them

The report on a list of answers is found by going through the list once.  The same answers,
given in advance to a session, lead calls for transformations as far as they go: over a port
that passes refusals on and shows no question, a call ends behind every transformation that is
committed or given up, and the last one ends at the question that cannot be shown or at the end
of the query.  Both ways lead to the same query, refuse the same answers and leave the same ones
unread, since each answer is submitted once in both of them, and no answer makes either of them
stop before the other.

## Main definitions

* `Port.Mute` — a port that passes refusals on and shows no question.
* `Session.Drained` — calls in a row, behind a transformation that was given up as well.
* `PrefixReport.Progress.Listed` — the refused answers are listed at their positions.

## Main results

* `PrefixReport.Progress.exists_take` — no answer to a question is an error.
* `Session.Drained.unique` — where calls in a row end is determined.
* `Session.resolveAnswers_of_drained` — **the report on a list of answers tells how far they
  lead a session that is given them in advance.**
-/

namespace TableTalk

/-! ### The refused answers -/

namespace PrefixReport.Progress

/-- An answer to a question is never an error: it is listed as refused and counted, or neither. -/
theorem exists_take {p : Progress} {question : Question}
    (hquestion : p.query.question? = some question) (position : Nat) (answer : String) :
    ∃ p', p.take position answer = .ok p' ∧ p'.query = (p.query.submit answer .replayed).1 ∧
      ((p'.rejected = p.rejected ∧ p'.query.rejections = p.query.rejections) ∨
        ∃ r : RejectedAnswer, r.position = position ∧ r.answer = answer ∧
          p'.rejected = p.rejected ++ [r] ∧ p'.query.rejections = p.query.rejections + 1) := by
  have hstep := p.query.submit_step answer .replayed
  unfold take
  generalize p.query.submit answer .replayed = result at hstep
  cases hstep with
  | ended hnone =>
    rw [hquestion] at hnone
    cases hnone
  | refused hopen houtcome hlimit =>
    obtain ⟨message, hmessage⟩ := Option.isSome_iff_exists.1 houtcome
    simp only [hmessage]
    exact ⟨_, rfl, rfl, .inr ⟨_, rfl, rfl, rfl, rfl⟩⟩
  | exhausted hopen houtcome hoptions hlimit =>
    refine ⟨_, rfl, rfl, .inr ⟨_, rfl, rfl, rfl, ?_⟩⟩
    rw [Query.discard_tally]
  | stopped | chosen | answered | committed => exact ⟨_, rfl, rfl, .inl ⟨rfl, rfl⟩⟩

/-- The refused answers among those given are listed at their positions, and all of them are. -/
structure Listed (p : Progress) (given : List String) : Prop where
  /-- There are as many as were counted. -/
  length_eq : p.rejected.length = p.query.rejections
  /-- They are listed in order. -/
  increasing : (p.rejected.map (·.position)).Pairwise (· < ·)
  /-- Each was given at its position. -/
  answer_eq : ∀ r ∈ p.rejected, given[r.position]? = some r.answer

theorem listed_start (schema : Schema) (options : QueryOptions) :
    Listed ⟨.start schema options, [], none⟩ [] :=
  ⟨rfl, .nil, fun _ h => absurd h List.not_mem_nil⟩

theorem Listed.position_lt {p : Progress} {given : List String} (h : p.Listed given)
    {r : RejectedAnswer} (hr : r ∈ p.rejected) : r.position < given.length :=
  (List.getElem?_eq_some_iff.1 (h.answer_eq r hr)).1

theorem Listed.append {p : Progress} {given : List String} (h : p.Listed given)
    (answers : List String) : p.Listed (given ++ answers) := by
  refine ⟨h.length_eq, h.increasing, ?_⟩
  intro r hr
  rw [List.getElem?_append_left (h.position_lt hr)]
  exact h.answer_eq r hr

/-- One more answer keeps the list. -/
theorem Listed.take {p p' : Progress} {given : List String} (h : p.Listed given)
    {answer : String} {question : Question} (hquestion : p.query.question? = some question)
    (htake : p.take given.length answer = .ok p') : p'.Listed (given ++ [answer]) := by
  obtain ⟨p₁, htake₁, -, hcases⟩ := exists_take hquestion given.length answer
  rw [htake, Except.ok.injEq] at htake₁
  subst htake₁
  rcases hcases with ⟨hrejected, hcount⟩ | ⟨r, hposition, hanswer, hrejected, hcount⟩
  · obtain ⟨hlength, hincreasing, hanswers⟩ := h.append [answer]
    rw [← hrejected] at hlength hincreasing hanswers
    exact ⟨hlength.trans hcount.symm, hincreasing, hanswers⟩
  · refine ⟨?_, ?_, ?_⟩
    · rw [hrejected, hcount, List.length_append, h.length_eq]
      rfl
    · rw [hrejected, List.map_append]
      refine List.pairwise_append.2 ⟨h.increasing, List.pairwise_singleton .., ?_⟩
      intro i hi j hj
      obtain ⟨r', hr', rfl⟩ := List.mem_map.1 hi
      rw [List.map_singleton, List.mem_singleton] at hj
      rw [hj, hposition]
      exact h.position_lt hr'
    · intro r' hr'
      rw [hrejected] at hr'
      rcases List.mem_append.1 hr' with hr' | hr'
      · exact (h.append [answer]).answer_eq r' hr'
      · rw [List.mem_singleton.1 hr', hposition, hanswer, List.getElem?_concat_length]

/-- Behind the end of the query no answer is read. -/
theorem takeAll_of_isFinished {p : Progress} (h : p.query.isFinished = true) (position : Nat)
    (answers : List String) : p.takeAll position answers = .ok (p, answers.length) := by
  cases answers with
  | nil => rfl
  | cons answer answers => rw [takeAll, if_pos h, List.length_cons]

/-- More answers are taken where the first ones left off, unless the query had ended there. -/
theorem takeAll_append (p : Progress) (position : Nat) (answers more : List String) :
    p.takeAll position (answers ++ more) =
      match p.takeAll position answers with
      | .error e => .error e
      | .ok (p', ignored) =>
        if p'.query.isFinished then .ok (p', ignored + more.length)
        else p'.takeAll (position + answers.length) more := by
  induction answers generalizing p position with
  | nil =>
    simp only [List.nil_append, takeAll, List.length_nil, Nat.zero_add, Nat.add_zero]
    split
    · next hended => exact takeAll_of_isFinished hended position more
    · rfl
  | cons answer answers ih =>
    simp only [List.cons_append, takeAll]
    split
    · next hended =>
      simp only [hended, if_true, List.length_append]
      rw [Nat.add_right_comm]
    · have hposition : position + (answer :: answers).length = position + 1 + answers.length := by
        rw [List.length_cons, Nat.add_comm answers.length, Nat.add_assoc]
      rw [hposition]
      cases p.take position answer with
      | error e => rfl
      | ok p₁ => exact ih p₁ (position + 1)

end PrefixReport.Progress

/-- The report is the one on what the answers lead to. -/
theorem resolveAnswers_of_takeAll {schema : Schema} {answers : List String}
    {options : QueryOptions} {p : PrefixReport.Progress} {ignored : Nat}
    (h : PrefixReport.Progress.takeAll ⟨.start schema options, [], none⟩ 0 answers =
      .ok (p, ignored)) : resolveAnswers schema answers options = .ok (p.report ignored) := by
  rw [resolveAnswers, h, Except.ok_bind]
  rfl

/-! ### Ports that show no question -/

section

variable {σ : Type} [Port σ]

/-- Refusals were passed on, and nothing else was done. -/
inductive Port.Reported (c : σ) : σ → Prop
  /-- None was. -/
  | refl : Reported c c
  /-- One more was. -/
  | report {c' : σ} (h : Reported c c') (message : String) : Reported c (Port.report message c').2

/-- The port passes every refusal on, and the first question, whichever it is and whenever it
comes, cannot be shown. -/
structure Port.Mute (c : σ) : Prop where
  /-- Refusals are passed on. -/
  report_ok : ∀ c', Reported c c' → ∀ message, (Port.report message c').1 = .ok ()
  /-- No question is shown. -/
  present_error : ∀ c', Reported c c' → ∀ prompt options,
    ∃ e, (Port.present prompt options c').1 = .error e

theorem Port.Mute.report {c : σ} (h : Mute c) (message : String) :
    Mute (Port.report message c).2 := by
  have hreported : ∀ {c'}, Reported (Port.report message c).2 c' → Reported c c' := by
    intro c' h'
    induction h' with
    | refl => exact .report .refl message
    | report _ message' ih => exact ih.report message'
  exact ⟨fun c' h' => h.report_ok c' (hreported h'),
    fun c' h' => h.present_error c' (hreported h')⟩

namespace Session

/-- Every refusal gets through, so a turn ends as its answer would have it. -/
theorem settle_of_mute {c : σ} (hc : Port.Mute c) (result : Except QueryError Outcome) :
    ∃ c', Port.Mute c' ∧ settle result c = (c', (Turn.ofResult result).2) := by
  unfold settle
  split
  · next turn heq =>
    rw [heq]
    exact ⟨c, hc, rfl⟩
  · next message turn heq =>
    rw [heq]
    have hok := hc.report_ok c .refl message
    have hbehind := hc.report message
    rcases hreport : Port.report message c with ⟨result', c'⟩
    rw [hreport] at hok hbehind
    subst hok
    exact ⟨c', hbehind, rfl⟩

theorem ask_of_mute {c : σ} (hc : Port.Mute c) (question : Question) :
    ∃ e c', ask question c = (.error e, c') := by
  obtain ⟨e, he⟩ := hc.present_error c .refl question.prompt question.shown
  unfold ask
  rcases hpresent : Port.present question.prompt question.shown c with ⟨result, c'⟩
  rw [hpresent] at he
  subst he
  exact ⟨e, c', rfl⟩

/-! ### Calls in a row -/

/-- Whether another call follows: a transformation was committed, or one was given up. -/
def isFollowed : Result (Option Transformation) → Bool
  | .ok (some _) | .error (.exhausted _ _ _) => true
  | .ok none | .error _ => false

/-- Calls in a row as long as another one follows. -/
inductive Drained : Session → σ → Session × σ × Result (Option Transformation) → Prop
  /-- No call follows this one. -/
  | last {s : Session} {c : σ} {used : List (String × Source)}
    {out : Session × σ × Result (Option Transformation)} (hcall : Call s c used out)
    (hlast : isFollowed out.2.2 = false) : Drained s c out
  /-- Others follow this one. -/
  | again {s s₁ : Session} {c c₁ : σ} {used : List (String × Source)}
    {result : Result (Option Transformation)}
    {out : Session × σ × Result (Option Transformation)} (hcall : Call s c used (s₁, c₁, result))
    (hfollowed : isFollowed result = true) (rest : Drained s₁ c₁ out) : Drained s c out

/-- What a call comes to is determined. -/
theorem Call.unique {s : Session} {c : σ} {used used' : List (String × Source)}
    {out out' : Session × σ × Result (Option Transformation)} (h : Call s c used out)
    (h' : Call s c used' out') : out = out' := by
  induction h generalizing used' with
  | last hturn hresult =>
    cases h' with
    | last hturn' hresult' =>
      rw [hturn] at hturn'
      cases hturn'
      rw [hresult] at hresult'
      cases hresult'
      rfl
    | more hturn' rest' =>
      rw [hturn] at hturn'
      cases hturn'
      cases hresult
  | more hturn rest ih =>
    cases h' with
    | last hturn' hresult' =>
      rw [hturn] at hturn'
      cases hturn'
      cases hresult'
    | more hturn' rest' =>
      rw [hturn] at hturn'
      cases hturn'
      exact ih rest'

/-- Where calls in a row end is determined. -/
theorem Drained.unique {s : Session} {c : σ}
    {out out' : Session × σ × Result (Option Transformation)} (h : Drained s c out)
    (h' : Drained s c out') : out = out' := by
  induction h with
  | last hcall hlast =>
    cases h' with
    | last hcall' hlast' => exact hcall.unique hcall'
    | again hcall' hfollowed' rest' =>
      rw [hcall.unique hcall', hfollowed'] at hlast
      cases hlast
  | again hcall hfollowed rest ih =>
    cases h' with
    | last hcall' hlast' =>
      rw [← hcall.unique hcall', hfollowed] at hlast'
      cases hlast'
    | again hcall' hfollowed' rest' =>
      cases hcall.unique hcall'
      exact ih rest'

/-- Whether a turn leads on to another one, in the same call or in one that follows. -/
def leadsOn : Turn → Bool
  | .more | .committed _ | .failed (.exhausted _ _ _) => true
  | .finished | .failed _ => false

theorem Drained.of_turn {s s' : Session} {c c' : σ} {turn : Turn}
    (hturn : s.turn c = (s', c', turn)) (hleads : leadsOn turn = true)
    {out : Session × σ × Result (Option Transformation)} (h : Drained s' c' out) :
    Drained s c out := by
  cases turn with
  | more =>
    -- The first call behind the turn is the one that the turn belongs to.
    cases h with
    | last hcall hlast => exact .last (.more hturn hcall) hlast
    | again hcall hfollowed rest => exact .again (.more hturn hcall) hfollowed rest
  | committed t => exact .again (.last hturn rfl) rfl h
  | finished => cases hleads
  | failed e =>
    cases e with
    | exhausted stage attempts last => exact .again (.last hturn rfl) rfl h
    | channel | build | finished => cases hleads

/-- An answer to a question ends the query, or its turn leads on. -/
theorem leadsOn_submit {q : Query} {question : Question} (hquestion : q.question? = some question)
    (answer : String) (source : Source) :
    ((Turn.ofResult (q.submit answer source).2).2 = .finished ∧
        (q.submit answer source).1.isFinished = true) ∨
      leadsOn (Turn.ofResult (q.submit answer source).2).2 = true := by
  have hstep := q.submit_step answer source
  generalize q.submit answer source = result at hstep
  cases hstep with
  | ended hnone =>
    rw [hquestion] at hnone
    cases hnone
  | @refused _ outcome hopen houtcome hlimit =>
    right
    cases outcome with
    | accepted | committed | finished => cases houtcome
    | rejected | noTargets | unbuildable => rfl
  | stopped => exact .inl ⟨rfl, rfl⟩
  | exhausted | chosen | answered | committed => exact .inr rfl

/-! ### Both ways at once -/

/-- Taking answers one by one and calling for transformations with the same answers in advance
lead to the same query and leave the same number of answers. -/
theorem exists_drained {initial : Schema} {p : PrefixReport.Progress}
    (hp : p.query.Coherent initial) {given : List String} (hlisted : p.Listed given)
    (answers : List String) {c : σ} (hc : Port.Mute c) :
    ∃ p' ignored s c' result, p.takeAll given.length answers = .ok (p', ignored) ∧
      Drained ⟨p.query, answers⟩ c (s, c', result) ∧
      s.query = p'.query ∧ s.replay.length = ignored ∧ p'.Listed (given ++ answers) ∧
      (result = .ok none ∨ ∃ e, result = .error (.channel e)) := by
  induction answers generalizing p given c with
  | nil =>
    rw [List.append_nil]
    cases hquestion : p.query.question? with
    | none =>
      have hturn : turn ⟨p.query, []⟩ c = (⟨p.query, []⟩, c, .finished) := by
        simp only [turn, hquestion]
      exact ⟨p, 0, _, _, _, rfl, .last (.last hturn rfl) rfl, rfl, rfl, hlisted, .inl rfl⟩
    | some question =>
      -- No answer is left, and the question cannot be shown.
      obtain ⟨e, c', hask⟩ := ask_of_mute hc question
      have hturn : turn ⟨p.query, []⟩ c = (⟨p.query, []⟩, c', .failed (.channel e)) := by
        simp only [turn, hquestion, hask]
      exact ⟨p, 0, _, _, _, rfl, .last (.last hturn rfl) rfl, rfl, rfl, hlisted, .inr ⟨e, rfl⟩⟩
  | cons answer answers ih =>
    cases hquestion : p.query.question? with
    | none =>
      have hphase := hp.question?_eq_none_iff.1 hquestion
      have hfinished : p.query.isFinished = true := by
        rw [Query.isFinished, hphase]
        rfl
      have hturn : turn ⟨p.query, answer :: answers⟩ c =
          (⟨p.query, answer :: answers⟩, c, .finished) := by
        simp only [turn, hquestion]
      exact ⟨p, _, _, _, _, PrefixReport.Progress.takeAll_of_isFinished hfinished _ _,
        .last (.last hturn rfl) rfl, rfl, rfl, hlisted.append _, .inl rfl⟩
    | some question =>
      have hopen : ¬p.query.isFinished = true := by
        simpa [Query.isFinished] using Query.phase_ne_finished hquestion
      obtain ⟨p₁, htake, hquery, -⟩ :=
        PrefixReport.Progress.exists_take hquestion given.length answer
      have hlisted₁ := hlisted.take hquestion htake
      have htakeAll : p.takeAll given.length (answer :: answers) =
          p₁.takeAll (given ++ [answer]).length answers := by
        rw [PrefixReport.Progress.takeAll, if_neg hopen, htake, List.length_append]
        rfl
      obtain ⟨c₁, hc₁, hsettle⟩ := settle_of_mute hc (p.query.submit answer .replayed).2
      have hturn : turn ⟨p.query, answer :: answers⟩ c =
          (⟨p₁.query, answers⟩, c₁, (Turn.ofResult (p.query.submit answer .replayed).2).2) := by
        simp only [turn, hquestion, hsettle, hquery]
      rw [htakeAll, List.append_cons given answer answers]
      rcases leadsOn_submit hquestion answer .replayed with ⟨hended, hfinished⟩ | hleads
      · rw [hended] at hturn
        rw [← hquery] at hfinished
        exact ⟨p₁, _, _, _, _, PrefixReport.Progress.takeAll_of_isFinished hfinished _ _,
          .last (.last hturn rfl) rfl, rfl, rfl, hlisted₁.append _, .inl rfl⟩
      · have hp₁ := hp.submit answer .replayed
        rw [← hquery] at hp₁
        obtain ⟨p', ignored, s, c', result, hall, hdrained, hrest⟩ := ih hp₁ hlisted₁ hc₁
        exact ⟨p', ignored, s, c', result, hall, hdrained.of_turn hturn hleads, hrest⟩

/-- **The report on a list of answers tells how far they lead a session that is given them in
advance.**  Let calls be made in a row, also behind a transformation that was given up, over a
port that passes refusals on and shows no question.  They come to an end, at that question or at
the end of the query, and there the report agrees with the session in all that it tells; the
refused answers are listed in order, each at its position. -/
theorem resolveAnswers_of_drained (schema : Schema) (answers : List String)
    (options : QueryOptions) {c : σ} (hc : Port.Mute c) :
    ∃ report, resolveAnswers schema answers options = .ok report ∧
      (∃ out, Drained ⟨.start schema options, answers⟩ c out) ∧
      ∀ s c' result, Drained ⟨.start schema options, answers⟩ c (s, c', result) →
        (result = .ok none ∨ ∃ e, result = .error (.channel e)) ∧
        report.committed = s.query.committed.map Transformation.tokens ∧
        report.roundsResolved = s.query.roundsFrom .replayed ∧
        report.finished = s.query.isFinished ∧
        report.pending = s.query.question? ∧
        report.ignored = s.replay.length ∧
        report.rejected.length = s.query.rejections ∧
        (report.rejected.map (·.position)).Pairwise (· < ·) ∧
        ∀ r ∈ report.rejected, answers[r.position]? = some r.answer := by
  have hcoherent := Query.coherent_start schema options
  have hlisted := PrefixReport.Progress.listed_start schema options
  obtain ⟨p, ignored, s, c', result, hall, hdrained, hquery, hreplay, hlisted, hresult⟩ :=
    exists_drained hcoherent hlisted answers hc
  replace hall : PrefixReport.Progress.takeAll ⟨.start schema options, [], none⟩ 0 answers =
    .ok (p, ignored) := hall
  have hreport : resolveAnswers schema answers options = .ok (p.report ignored) := by
    rw [resolveAnswers, hall, Except.ok_bind]
    rfl
  refine ⟨_, hreport, ⟨_, hdrained⟩, ?_⟩
  intro s₁ c₁ result₁ hdrained₁
  cases hdrained.unique hdrained₁
  have hlength := hlisted.length_eq
  rw [← hquery] at hlength
  refine ⟨hresult, ?_, ?_, ?_, ?_, hreplay.symm, hlength, hlisted.increasing, hlisted.answer_eq⟩
  all_goals
    rw [hquery]
    rfl

end Session
end

namespace Session

/-- A script of which the first question does not get through. -/
def voiceless : Unreliable Script where
  inner := { answers := ["SortBy"] }
  failPresent := some 0

theorem mute_voiceless : Port.Mute voiceless := by
  have hreported : ∀ c, Port.Reported voiceless c →
      c.failPresent = some 0 ∧ c.failReport = none ∧ c.presents = 0 := by
    intro c h
    induction h with
    | refl => exact ⟨rfl, rfl, rfl⟩
    | @report c _ message ih =>
      obtain ⟨hpresent, hreport, hpresents⟩ := ih
      simp [Port.report, Unreliable.report, hpresent, hreport, hpresents]
  refine ⟨?_, ?_⟩
  · intro c h message
    obtain ⟨-, hreport, -⟩ := hreported c h
    simp [Port.report, Unreliable.report, hreport]
  · intro c h prompt options
    obtain ⟨hpresent, -, hpresents⟩ := hreported c h
    refine ⟨.broken "present failed", ?_⟩
    simp [Port.present, Unreliable.present, hpresent, hpresents]

/-- A kind that is not there, given up at once; a sort given up at its column behind one refusal;
another one that is committed; the end, and two answers behind it. -/
def hesitant : List String :=
  ["Sort", "Join", "SortBy", "Nobody", "9", "2", "Rank", "0", "", "DropColumn", "Name"]

/-- Four answers are refused and two left unread, either way. -/
theorem resolveAnswers_of_drained_hesitant :
    Port.Mute voiceless ∧ ∃ report,
      resolveAnswers Table.people.schema hesitant { maxAttempts := some 1 } = .ok report ∧
      report.committed = [["SortBy", "Rank", "Ascending"]] ∧
      report.rejected.map (·.position) = [0, 1, 3, 4] ∧ report.ignored = 2 ∧
      ∃ s c result,
        Drained ⟨.start Table.people.schema { maxAttempts := some 1 }, hesitant⟩ voiceless
          (s, c, result) ∧
        s.query.committed.map Transformation.tokens = [["SortBy", "Rank", "Ascending"]] ∧
        s.query.rejections = 4 ∧ s.replay.length = 2 := by
  obtain ⟨report, hreport, ⟨⟨s, c, result⟩, hdrained⟩, hagrees⟩ :=
    resolveAnswers_of_drained Table.people.schema hesitant { maxAttempts := some 1 } mute_voiceless
  obtain ⟨-, hcommitted, -, -, -, hignored, hrejections, -, -⟩ := hagrees s c result hdrained
  have hvalue : (resolveAnswers Table.people.schema hesitant { maxAttempts := some 1 }).toOption.map
      (fun r => (r.committed, r.rejected.map (·.position), r.ignored)) =
      some ([["SortBy", "Rank", "Ascending"]], [0, 1, 3, 4], 2) := by decide
  rw [hreport] at hvalue
  simp only [Except.toOption, Option.map_some, Option.some.injEq, Prod.mk.injEq] at hvalue
  obtain ⟨htokens, hpositions, hleft⟩ := hvalue
  refine ⟨mute_voiceless, report, hreport, htokens, hpositions, hleft, s, c, result, hdrained,
    ?_, ?_, ?_⟩
  · rw [← hcommitted, htokens]
  · rw [← hrejections, ← List.length_map (·.position), hpositions]
    rfl
  · rw [← hignored, hleft]

end Session
end TableTalk
