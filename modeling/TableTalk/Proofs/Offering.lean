import TableTalk.Proofs.Accounting

/-!
# Offered labels given as answers

Whoever gives the labels of a report back as answers gives them as they were shown, and an
answer is trimmed before it is compared with them.  A label with white space at its ends is
compared with what is left of it, so it is taken for another label if that one is offered, and
else for the option that has what is left of it as its number.  It comes back as itself in one
case only: if that number is its own.

## Main definitions

* `StandsForItself` — the labels that come back as themselves.

## Main results

* `choose_eq_self_iff` — an offered label chooses itself exactly if it stands for itself.
* `Query.takes_self_iff` — and then a query takes it, unless there are no columns.
* `taken_of_offered` — **a list of answers may be continued with an offered label that stands
  for itself.**
-/

namespace TableTalk

/-! ### Labels among options -/

/-- Given as an answer where labels count, an option stands for itself. -/
inductive StandsForItself (options : List String) (label : String) : Prop
  /-- Trimming leaves it as it is. -/
  | proper (hproper : Text.Proper label)
  /-- Trimming leaves its own number, which is no option. -/
  | numbered {i : Nat} (hnone : Text.trim label ∉ options)
    (hnumber : Numeral.integer? (Text.trim label) = some (i : Int))
    (hlabel : options[i]? = some label)

theorem choose_trim (answer : String) (options : List String) (matching : Matching)
    (allowStop : Bool) :
    choose (Text.trim answer) options matching allowStop =
      choose answer options matching allowStop := by
  simp only [choose, Text.trim_trim]

theorem optionAt_eq_some_iff {options : List String} {number : Int} {label : String} :
    (optionAt options number).map Choice.label? = .ok (some label) ↔
      ∃ i : Nat, number = i ∧ options[i]? = some label := by
  constructor
  · intro h
    unfold optionAt at h
    split at h
    · cases h
    · next hnonneg =>
      split at h
      · next chosen hchosen =>
        have heq : chosen = label := Option.some.inj (Except.ok.inj h)
        exact ⟨number.toNat, (Int.toNat_of_nonneg (Int.not_lt.1 hnonneg)).symm, heq ▸ hchosen⟩
      · cases h
  · rintro ⟨i, rfl, hlabel⟩
    simp only [optionAt, Int.toNat_natCast, hlabel, if_neg (Int.not_lt.2 (Int.natCast_nonneg i))]
    rfl

/-- Where trimming leaves no label, it has to leave a number. -/
theorem choose_of_notMem {answer : String} {options : List String}
    (hempty : (Text.trim answer).isEmpty = false) (hnone : Text.trim answer ∉ options)
    (allowStop : Bool) {label : String} :
    (choose answer options .labelOrIndex allowStop).map Choice.label? = .ok (some label) ↔
      ∃ i : Nat, Numeral.integer? (Text.trim answer) = some (i : Int) ∧
        options[i]? = some label := by
  have hindex : options.findIdx? (· == Text.trim answer) = none := by
    rw [List.findIdx?_eq_none_iff]
    intro option hoption
    exact beq_eq_false_iff_ne.2 fun heq => hnone (heq ▸ hoption)
  cases hnumber : Numeral.integer? (Text.trim answer) with
  | none =>
    simp only [choose, hempty, labelIndex?, hindex, hnumber]
    refine iff_of_false ?_ ?_
    · intro h
      cases h
    · rintro ⟨_, h, -⟩
      cases h
  | some number =>
    simp only [choose, hempty, labelIndex?, hindex, hnumber, Option.some.injEq]
    exact optionAt_eq_some_iff

/-- An offered label chooses itself exactly if it stands for itself. -/
theorem choose_eq_self_iff {options : List String} {label : String} (hmem : label ∈ options)
    (allowStop : Bool) :
    (choose label options .labelOrIndex allowStop).map Choice.label? = .ok (some label) ↔
      StandsForItself options label := by
  constructor
  · intro h
    cases hempty : (Text.trim label).isEmpty with
    | true =>
      simp only [choose, hempty] at h
      cases allowStop <;> cases h
    | false =>
      have htrim := Text.proper_trim hempty
      by_cases hother : Text.trim label ∈ options
      · -- The option that is chosen is what trimming leaves, so this is the label.
        rw [← choose_trim, choose_of_mem htrim hother] at h
        have heq : Text.trim label = label := Option.some.inj (Except.ok.inj h)
        exact .proper (heq ▸ htrim)
      · obtain ⟨i, hnumber, hlabel⟩ := (choose_of_notMem hempty hother allowStop).1 h
        exact .numbered hother hnumber hlabel
  · rintro (hproper | ⟨hother, hnumber, hlabel⟩)
    · exact choose_of_mem hproper hmem allowStop
    · have hempty : (Text.trim label).isEmpty = false := by
        rw [String.isEmpty_eq_false_iff]
        intro hnil
        rw [hnil] at hnumber
        cases hnumber
      exact (choose_of_notMem hempty hother allowStop).2 ⟨_, hnumber, hlabel⟩

/-! ### Labels that a query takes -/

namespace Query

variable {initial : Schema} {q : Query}

/-- An offered label is taken as it is exactly if it stands for itself and is not barred. -/
theorem takes_self_iff (h : Feasible initial q) (hmatching : q.options.matching = .labelOrIndex)
    {question : Question} (hquestion : q.question? = some question) {offered : List String}
    (hoptions : question.options = some offered) {label : String} (hmem : label ∈ offered)
    (source : Source) :
    Takes q label source label ↔ StandsForItself offered label ∧ ¬Barred q label := by
  have hresolves : q.resolve question label = .ok (some label) ↔ StandsForItself offered label := by
    simp only [resolve, hoptions, hmatching]
    exact choose_eq_self_iff hmem _
  constructor
  · intro htakes
    have hresolve : q.resolve question label = .ok (some label) := by
      cases hchoice : q.resolve question label with
      | error reason =>
        exact absurd htakes (Refused.not_takes (.rejected hquestion hchoice) source label)
      | ok choice =>
        rcases refused_or_takes hquestion hchoice source with ⟨outcome, hrefused⟩ | htakes'
        · exact absurd htakes (hrefused.not_takes source label)
        · have heq := htakes'.unique htakes
          rcases resolve_cases hchoice with ⟨rfl, hstage⟩ | ⟨resolved, rfl, -⟩
          · -- A blank answer stops the query, but no kind has a blank name.
            rw [← stage_of_question? hquestion] at hstage
            rw [question?_of_choosing (phase_of_stage_eq_kind hquestion hstage)] at hquestion
            cases hquestion
            cases hoptions
            obtain ⟨kind, rfl⟩ := Kind.exists_name_of_mem hmem
            exact absurd heq.symm kind.proper_name.ne_empty
          · rw [← heq]
            rfl
    exact ⟨hresolves.1 hresolve, (h.takes_iff hquestion hresolve hoptions source).1 htakes⟩
  · rintro ⟨hself, hfree⟩
    exact (h.takes_iff hquestion (hresolves.2 hself) hoptions source).2 hfree

end Query

/-! ### One more answer in a report -/

namespace PrefixReport.Progress

theorem take_of_takes {p : Progress} {answer resolved : String}
    (h : p.query.Takes answer .replayed resolved) (position : Nat) :
    ∃ p', p.take position answer = .ok p' ∧ p'.rejected = p.rejected ∧
      p'.lastResolved = some resolved := by
  obtain ⟨⟨outcome, hreply, haccepted⟩, hhistory⟩ := h
  unfold take
  generalize p.query.submit answer .replayed = result at hreply hhistory
  obtain ⟨q', reply⟩ := result
  dsimp only at hreply hhistory
  subst hreply
  simp only [haccepted]
  refine ⟨_, rfl, rfl, ?_⟩
  have hgrown : p.query.history.length < q'.history.length := by
    rw [hhistory, Query.record, List.length_append]
    exact Nat.lt_succ_self _
  rw [if_pos hgrown, hhistory, Query.record, List.getLast?_concat]
  rfl

theorem take_of_refused {p : Progress} {answer : String} {outcome : Outcome}
    (h : p.query.Refused answer outcome) (position : Nat) :
    ∃ p' r, p.take position answer = .ok p' ∧ p'.rejected = p.rejected ++ [r] := by
  have hsubmit := h.submit_eq .replayed
  obtain ⟨message, hmessage⟩ := Option.isSome_iff_exists.1 h.isSome_rejection?
  unfold take
  rw [hsubmit]
  cases hlimit : p.query.options.maxAttempts with
  | none =>
    rw [Query.refuse_of_unlimited hlimit]
    simp only [hmessage]
    exact ⟨_, _, rfl, rfl⟩
  | some limit =>
    rw [Query.refuse_of_limit hlimit]
    by_cases hlt : p.query.attempts < limit
    · rw [if_pos hlt]
      simp only [hmessage]
      exact ⟨_, _, rfl, rfl⟩
    · rw [if_neg hlt]
      exact ⟨_, _, rfl, rfl⟩

/-- An answer is noted down as its own text, with no refusal, exactly if the query takes it so. -/
theorem exists_take_self {p : Progress} {question : Question}
    (hquestion : p.query.question? = some question) (position : Nat) (answer : String) :
    ∃ p', p.take position answer = .ok p' ∧
      (p'.rejected = p.rejected ∧ p'.lastResolved = some answer ↔
        p.query.Takes answer .replayed answer) := by
  rcases Query.refused_or_exists_takes hquestion answer .replayed with
    ⟨outcome, hrefused⟩ | ⟨resolved, htakes⟩
  · obtain ⟨p', r, htake, hrejected⟩ := take_of_refused hrefused position
    refine ⟨p', htake, iff_of_false ?_ (hrefused.not_takes .replayed answer)⟩
    rintro ⟨hsame, -⟩
    rw [hrejected] at hsame
    exact absurd (List.append_right_eq_self.1 hsame) (List.cons_ne_nil r [])
  · obtain ⟨p', htake, hrejected, hlast⟩ := take_of_takes htakes position
    refine ⟨p', htake, ?_⟩
    rw [hlast]
    constructor
    · rintro ⟨-, heq⟩
      cases heq
      exact htakes
    · intro hself
      rw [htakes.unique hself]
      exact ⟨hrejected, rfl⟩

/-- Behind answers that do not end the query one more is taken. -/
theorem takeAll_concat {p p' : Progress} {position : Nat} {answers : List String} {ignored : Nat}
    (h : p.takeAll position answers = .ok (p', ignored)) (hopen : p'.query.isFinished = false)
    (answer : String) :
    p.takeAll position (answers ++ [answer]) =
      (p'.take (position + answers.length) answer).map (·, 0) := by
  simp only [takeAll_append, h, hopen, takeAll, Bool.false_eq_true, if_false]
  cases p'.take (position + answers.length) answer <;> rfl

end PrefixReport.Progress

theorem Plan.names_preview_subset (schema : Schema) (plan : Plan) :
    (plan.preview schema).names ⊆ schema.names := by
  induction plan generalizing schema with
  | nil => exact List.Subset.refl _
  | cons t ts ih => exact List.Subset.trans (ih (t.preview schema)) (t.names_preview_subset schema)

/-- Where the columns have proper names, so have the options of every question. -/
theorem Query.Coherent.standsForItself {initial : Schema} {q : Query} (h : q.Coherent initial)
    (hnames : ∀ name ∈ initial.names, Text.Proper name) {question : Question}
    (hquestion : q.question? = some question) {offered : List String}
    (hoptions : question.options = some offered) {label : String} (hmem : label ∈ offered) :
    StandsForItself offered label := by
  cases hphase : q.phase with
  | choosing =>
    rw [question?_of_choosing hphase] at hquestion
    cases hquestion
    cases hoptions
    obtain ⟨kind, rfl⟩ := Kind.exists_name_of_mem hmem
    exact .proper kind.proper_name
  | asking p =>
    rw [question?_of_asking hphase] at hquestion
    obtain ⟨round, hround, rfl⟩ := Option.map_eq_some_iff.1 hquestion
    replace hoptions : p.kind.options? round q.schema = some offered := hoptions
    have hproper : ∀ name ∈ q.schema.names, Text.Proper name := by
      intro name hname
      rw [h.schema_eq] at hname
      exact hnames name (Plan.names_preview_subset initial q.committed hname)
    have hoffered : ∀ options, p.kind.options? round q.schema = some options → label ∈ options := by
      intro options hoptions'
      rw [hoptions, Option.some.injEq] at hoptions'
      exact hoptions' ▸ hmem
    refine .proper (Kind.proper_of_offered hproper hoffered fun hnone => ?_)
    rw [hoptions] at hnone
    cases hnone
  | finished => exact absurd hphase (phase_ne_finished hquestion)

/-- The report on answers that leave a question open is continued by the next answer. -/
theorem resolveAnswers_concat {schema : Schema} {answers : List String} {options : QueryOptions}
    {report : PrefixReport} (hreport : resolveAnswers schema answers options = .ok report)
    {question : Question} (hpending : report.pending = some question) (answer : String) :
    ∃ p : PrefixReport.Progress,
      p.query = (Query.start schema options).submitAll (answers.map (·, .replayed)) ∧
      p.query.question? = some question ∧ p.rejected = report.rejected ∧
      ∀ p', p.take answers.length answer = .ok p' →
        resolveAnswers schema (answers ++ [answer]) options = .ok (p'.report 0) := by
  obtain ⟨p, ignored, htakeAll, hquery, -⟩ :=
    PrefixReport.Progress.exists_takeAll (Query.coherent_start schema options)
      (PrefixReport.Progress.listed_start schema options) answers
  rw [List.length_nil] at htakeAll
  have heq : p.report ignored = report := by
    rw [resolveAnswers, htakeAll] at hreport
    exact Except.ok.inj hreport
  subst heq
  refine ⟨p, hquery, hpending, rfl, ?_⟩
  intro p' htake
  have hconcat := PrefixReport.Progress.takeAll_concat htakeAll
    (Query.isFinished_eq_false hpending) answer
  rw [Nat.zero_add, htake] at hconcat
  rw [resolveAnswers, hconcat]
  rfl

/-- **A list of answers may be continued with an offered label that stands for itself**, and
with no other one: where labels count, an option of the pending question that is given as the
next answer is taken for itself, with no answer refused that was not refused before, exactly if
it stands for itself among the options and is no kind that works on columns where there are
none.  Under proper names all options stand for themselves. -/
theorem taken_of_offered (schema : Schema) (answers : List String) (options : QueryOptions)
    (hmatching : options.matching = .labelOrIndex) {report : PrefixReport}
    (hreport : resolveAnswers schema answers options = .ok report) {question : Question}
    (hpending : report.pending = some question) {offered : List String}
    (hoptions : question.options = some offered) {label : String} (hmem : label ∈ offered) :
    let q := (Query.start schema options).submitAll (answers.map (·, .replayed))
    ∃ report', resolveAnswers schema (answers ++ [label]) options = .ok report' ∧
      (report'.rejected = report.rejected ∧ report'.lastResolved = some label ↔
        StandsForItself offered label ∧ ¬q.Barred label) ∧
      ((∀ name ∈ schema.names, Text.Proper name) → StandsForItself offered label) := by
  intro q
  have hfeasible : q.Feasible schema := (Query.feasible_start schema options).submitAll _
  have hlabels : q.options.matching = .labelOrIndex := by
    rw [Query.submitAll_options]
    exact hmatching
  obtain ⟨p, hquery, hquestion, hrejected, hnext⟩ := resolveAnswers_concat hreport hpending label
  obtain ⟨p', htake, hself⟩ :=
    PrefixReport.Progress.exists_take_self hquestion answers.length label
  replace hquery : p.query = q := hquery
  rw [hquery] at hquestion hself
  have htakes := Query.takes_self_iff hfeasible hlabels hquestion hoptions hmem .replayed
  refine ⟨p'.report 0, hnext p' htake, ?_, ?_⟩
  · rw [← htakes, ← hself, ← hrejected]
    rfl
  · intro hnames
    exact hfeasible.coherent.standsForItself hnames hquestion hoptions hmem

/-- Columns whose names have white space in front. -/
def ages : Schema := ⟨[⟨"Age", .number, 0⟩, ⟨" Age", .text, 1⟩, ⟨" 2", .text, 2⟩]⟩

/-- A column is dropped by its name, which trimming makes its number. -/
theorem taken_of_offered_ages :
    StandsForItself ["Age", " Age", " 2"] " 2" ∧
      ∃ report report', resolveAnswers ages ["DropColumn"] {} = .ok report ∧
        resolveAnswers ages ["DropColumn", " 2"] {} = .ok report' ∧
        report'.rejected = report.rejected ∧ report'.lastResolved = some " 2" := by
  have hself : StandsForItself ["Age", " Age", " 2"] " 2" :=
    .numbered (i := 2) (by decide) (by decide) rfl
  obtain ⟨report', hreport', hiff, -⟩ :=
    taken_of_offered ages ["DropColumn"] {} rfl rfl rfl rfl
      (show " 2" ∈ ["Age", " Age", " 2"] by decide)
  obtain ⟨hrejected, hlast⟩ := hiff.2 ⟨hself, fun hbarred => by cases hbarred.1⟩
  exact ⟨hself, _, report', rfl, hreport', hrejected, hlast⟩

/-- Another column is dropped by its name, since trimming makes it the name of the first. -/
theorem mistaken_of_offered :
    ages.names.Nodup ∧ ∃ report question report',
      resolveAnswers ages ["DropColumn"] {} = .ok report ∧ report.pending = some question ∧
      question.options = some ["Age", " Age", " 2"] ∧
      resolveAnswers ages ["DropColumn", " Age"] {} = .ok report' ∧
      report'.lastResolved = some "Age" ∧ report'.lastResolved ≠ some " Age" := by
  refine ⟨by decide, _, _, _, rfl, rfl, rfl, rfl, ?_⟩
  decide

end TableTalk
