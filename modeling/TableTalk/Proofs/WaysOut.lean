import TableTalk.Proofs.Offering
import TableTalk.Proofs.Reading
import TableTalk.Proofs.Resuming

/-!
# No query is a dead end

As long as a query goes on there is an answer that it takes.  A transformation is in progress
only while there are columns, so every question with options offers at least one, and the number
of an option chooses it.  What is left are kinds that work on columns where there are none, but
the choice of a kind may always be answered by stopping.  A question for free text takes any text
that is not blank, unless it asks for keys and there are none in it.  So `0` is taken in every
round, and no more than three rounds and a blank answer are left until the end.

## Main results

* `Query.Feasible.options_ne_nil` — no question is without options.
* `Query.Feasible.takes_freeform_iff` — which texts are taken.
* `Query.Feasible.exists_takes_zero` — in every round there is an answer that is taken.
* `Query.exists_wayOut` — **no question is a dead end, and four answers end a query.**
-/

namespace TableTalk

/-! ### Numbers of options -/

theorem choose_of_indexOnly {answer : String} {options : List String}
    (hproper : Text.Proper answer) {i : Nat} (hnumber : Numeral.integer? answer = some (i : Int))
    {label : String} (hlabel : options[i]? = some label) (allowStop : Bool) :
    (choose answer options .indexOnly allowStop).map Choice.label? = .ok (some label) := by
  simp only [choose, hproper.trim_eq, hproper.isEmpty_eq, labelIndex?, hnumber]
  exact optionAt_eq_some_iff.2 ⟨i, rfl, hlabel⟩

/-- Among options `0` is a label or the number of the first. -/
theorem exists_choose_zero {options : List String} (hne : options ≠ []) (matching : Matching)
    (allowStop : Bool) :
    ∃ label, (choose "0" options matching allowStop).map Choice.label? = .ok (some label) := by
  have hproper : Text.Proper "0" := Numeral.proper_toString 0
  have hnumber : Numeral.integer? "0" = some ((0 : Nat) : Int) :=
    Numeral.integer?_toString (Nat.two_pow_pos 63)
  have hfirst : options[0]? = some (options.head hne) := by
    rw [← List.head?_eq_getElem?, List.head?_eq_some_head hne]
  cases matching with
  | indexOnly => exact ⟨_, choose_of_indexOnly hproper hnumber hfirst allowStop⟩
  | labelOrIndex =>
    -- Where labels count, an option that is called `0` comes before the first one.
    by_cases hmem : "0" ∈ options
    · exact ⟨"0", choose_of_mem hproper hmem allowStop⟩
    · rw [← hproper.trim_eq] at hmem hnumber
      have hempty : (Text.trim "0").isEmpty = false := by rw [hproper.trim_eq, hproper.isEmpty_eq]
      exact ⟨_, (choose_of_notMem hempty hmem allowStop).2 ⟨0, hnumber, hfirst⟩⟩

theorem Kind.arguments_ne_nil {k : Kind} {n : Nat} {word : Option String}
    (h : k.round? n word = some .argument) : k.arguments ≠ [] := by
  have hposition : n = 1 := Kind.eq_position_of_round? h
  have hopen : ¬k.rounds word ≤ n := by
    intro hle
    rw [Kind.round?_eq_none_iff.2 hle] at h
    cases h
  cases k with
  | empty => exact absurd (Nat.zero_le n) hopen
  | dropColumn => exact absurd hposition.ge hopen
  | sortBy | groupBy | filterBy => decide

namespace Query

variable {initial : Schema} {q : Query}

/-! ### Questions with options -/

/-- A transformation is in progress only while there are columns. -/
def Columned (q : Query) : Prop := ∀ p, q.phase = .asking p → q.schema.names ≠ []

theorem Columned.submit (h : Columned q) (answer : String) (source : Source) :
    Columned (q.submit answer source).1 := by
  have hstep := submit_step q answer source
  generalize q.submit answer source = result at hstep
  cases hstep with
  | ended | refused => exact h
  | exhausted hquestion =>
    intro p hphase
    rw [discard_phase (q := q.tally) (phase_ne_finished hquestion)] at hphase
    cases hphase
  | stopped | committed =>
    intro p hphase
    cases hphase
  | chosen hphase hkind hnames => exact fun p _ => hnames
  | answered hphase => exact fun p _ => h _ hphase

theorem columned_submitAll (initial : Schema) (options : QueryOptions)
    (given : List (String × Source)) : Columned ((start initial options).submitAll given) := by
  refine submitAll_induction (fun _ answer source h => h.submit answer source) ?_ given
  intro p hphase
  cases hphase

/-- No question is without options. -/
theorem Feasible.options_ne_nil (h : Feasible initial q) (hcolumned : Columned q)
    {question : Question} (hquestion : q.question? = some question) {offered : List String}
    (hoptions : question.options = some offered) : offered ≠ [] := by
  cases hphase : q.phase with
  | choosing =>
    rw [question?_of_choosing hphase] at hquestion
    cases hquestion
    cases hoptions
    decide
  | asking p =>
    rw [question?_of_asking hphase] at hquestion
    obtain ⟨round, hround, rfl⟩ := Option.map_eq_some_iff.1 hquestion
    cases round with
    | target =>
      cases hoptions
      rw [Kind.targets_of_ne_empty (h.coherent.pending p hphase).1]
      exact hcolumned p hphase
    | argument =>
      cases hoptions
      exact Kind.arguments_ne_nil hround
    | freeform => cases hoptions
  | finished => exact absurd hphase (phase_ne_finished hquestion)

theorem resolve_number {question : Question} (hmatching : q.options.matching = .indexOnly)
    {offered : List String} (hoptions : question.options = some offered) {i : Nat}
    (hi : i < Nat.pow 2 63) {label : String} (hlabel : offered[i]? = some label) :
    q.resolve question (toString i) = .ok (some label) := by
  simp only [resolve, hoptions, hmatching]
  exact choose_of_indexOnly (Numeral.proper_toString i) (Numeral.integer?_toString hi) hlabel _

/-! ### Questions for free text -/

theorem resolve_freeform {question : Question} (hoptions : question.options = none)
    {answer : String} (h : Text.isBlank answer = false) :
    q.resolve question answer = .ok (some (Text.trim answer)) := by
  have hempty : (Text.trim answer).isEmpty = false := by rw [Text.isEmpty_trim, h]
  simp only [resolve, hoptions, freeText, hempty]
  rfl

/-- A grouping whose last answer lists no key cannot be built. -/
theorem Coherent.build_eq_error (h : Coherent initial q) {p : Pending}
    (hphase : q.phase = .asking p) (hround : p.round? = some .freeform)
    (hkind : p.kind = .groupBy) {text : String}
    (hkeys : (KeySet.ofTokens [text]).isEmpty = true) :
    ¬(p.answers ++ [text]).length < p.kind.rounds (p.answers ++ [text])[1]? ∧
      ∃ cause, Transformation.build p.kind.name (p.answers ++ [text]) = .error cause := by
  have hopen := (h.pending p hphase).2
  have htwo : p.answers.length = 2 := Kind.eq_position_of_round? hround
  obtain ⟨column, word, hanswers⟩ := List.length_eq_two.1 htwo
  rw [hkind, hanswers] at hopen ⊢
  constructor
  · have hthree := Kind.rounds_le_three .groupBy ([column, word] ++ [text])[1]?
    rw [List.length_append]
    exact Nat.not_lt.2 hthree
  · cases hbuild : Transformation.build Kind.groupBy.name ([column, word] ++ [text]) with
    | error cause => exact ⟨cause, rfl⟩
    | ok t =>
      rw [Transformation.build_name] at hbuild
      cases Transformation.ofArguments_eq_ok_iff.1 hbuild with
      | groupAll _ _ haggregate hneeds =>
        -- Then the second answer was the last one.
        have hrounds : Kind.groupBy.rounds (some word) = 2 := by
          simp only [Kind.rounds, Option.bind_some, haggregate, hneeds]
          rfl
        have hmore : 2 < Kind.groupBy.rounds (some word) := hopen
        omega
      | groupKeys _ _ _ _ hsome =>
        replace hsome : (KeySet.ofTokens [text]).isEmpty = false := hsome
        rw [hkeys] at hsome
        cases hsome

theorem asking_of_options_eq_none {question : Question} (hquestion : q.question? = some question)
    (hoptions : question.options = none) :
    ∃ p, q.phase = .asking p ∧ p.round? = some .freeform ∧
      question = roundQuestion q.schema p.kind .freeform := by
  cases hphase : q.phase with
  | choosing =>
    rw [question?_of_choosing hphase] at hquestion
    cases hquestion
    cases hoptions
  | asking p =>
    rw [question?_of_asking hphase] at hquestion
    obtain ⟨round, hround, rfl⟩ := Option.map_eq_some_iff.1 hquestion
    cases round with
    | target | argument => cases hoptions
    | freeform => exact ⟨p, rfl, hround, rfl⟩
  | finished => exact absurd hphase (phase_ne_finished hquestion)

/-- A question for free text takes what is not blank, and one for keys what lists any. -/
theorem Feasible.takes_freeform_iff (h : Feasible initial q) {question : Question}
    (hquestion : q.question? = some question) (hoptions : question.options = none)
    (answer : String) (source : Source) :
    (∃ text, Takes q answer source text) ↔ Text.isBlank answer = false ∧
      (question.kind = some .groupBy →
        ∃ c ∈ answer.toList, c ≠ ',' ∧ Text.isBlankChar c = false) := by
  obtain ⟨p, hphase, hround, rfl⟩ := asking_of_options_eq_none hquestion hoptions
  have hkind : (roundQuestion q.schema p.kind .freeform).kind = some .groupBy ↔ p.kind = .groupBy :=
    Option.some_inj
  rw [hkind, ← KeySet.isEmpty_ofTokens_trim]
  constructor
  · rintro ⟨text, htakes⟩
    have hnot : ∀ outcome, ¬Refused q answer outcome := fun outcome hrefused =>
      hrefused.not_takes source text htakes
    have hblank : Text.isBlank answer = false := by
      cases hblank : Text.isBlank answer with
      | false => rfl
      | true =>
        have hresolve : q.resolve (roundQuestion q.schema p.kind .freeform) answer =
            .error .empty := by
          simp only [resolve, hoptions, freeText, Text.isEmpty_trim, hblank]
          rfl
        exact absurd (.rejected hquestion hresolve) (hnot _)
    refine ⟨hblank, fun hgroup => ?_⟩
    cases hkeys : (KeySet.ofTokens [Text.trim answer]).isEmpty with
    | false => rfl
    | true =>
      obtain ⟨hlast, cause, hbuild⟩ := h.coherent.build_eq_error hphase hround hgroup hkeys
      have hresolve := resolve_freeform (q := q) hoptions hblank
      exact absurd (.unbuildable hphase hquestion hresolve hlast hbuild) (hnot _)
  · rintro ⟨hblank, hkeys⟩
    have hresolve := resolve_freeform (q := q) hoptions hblank
    rcases refused_or_takes hquestion hresolve source with ⟨outcome, hrefused⟩ | htakes
    · rcases hrefused.cases_of_resolve hquestion hresolve with
        ⟨hchoosing, -⟩ | ⟨p', cause, hasking, hlast, hbuild, -⟩
      · rw [hphase] at hchoosing
        cases hchoosing
      · rw [hphase] at hasking
        cases hasking
        -- Nothing is offered for free text, so only a list without keys makes up nothing.
        obtain ⟨hgroup, -, hnone⟩ :=
          h.exists_keys hphase hround (fun _ ho => by cases ho) hlast hbuild
        rw [hkeys hgroup] at hnone
        cases hnone
    · exact ⟨_, htakes⟩

/-! ### The way out -/

/-- In every round `0` is taken. -/
theorem Feasible.exists_takes_zero (h : Feasible initial q) (hcolumned : Columned q) {p : Pending}
    (hphase : q.phase = .asking p) (source : Source) : ∃ text, Takes q "0" source text := by
  have hopen : q.question? ≠ none := by
    rw [ne_eq, h.coherent.question?_eq_none_iff, hphase]
    nofun
  obtain ⟨question, hquestion⟩ := Option.ne_none_iff_exists'.1 hopen
  cases hoptions : question.options with
  | none =>
    refine (h.takes_freeform_iff hquestion hoptions "0" source).2 ⟨by decide, fun _ => ?_⟩
    exact ⟨'0', by decide, by decide, by decide⟩
  | some offered =>
    have hne := h.options_ne_nil hcolumned hquestion hoptions
    obtain ⟨label, hchoose⟩ :=
      exists_choose_zero hne q.options.matching (question.stage == .kind)
    have hresolve : q.resolve question "0" = .ok (some label) := by
      simp only [resolve, hoptions]
      exact hchoose
    refine ⟨label, (h.takes_iff hquestion hresolve hoptions source).2 ?_⟩
    rintro ⟨hstage, -⟩
    have hchoosing := phase_of_stage_eq_kind hquestion hstage
    rw [hphase] at hchoosing
    cases hchoosing

/-- An answer that is taken in a round leaves one round less, or none. -/
theorem Takes.phase_submit {answer resolved : String} {source : Source}
    (h : Takes q answer source resolved) {p : Pending} (hphase : q.phase = .asking p) :
    (q.submit answer source).1.phase = .choosing ∨
      ∃ p', (q.submit answer source).1.phase = .asking p' ∧
        p'.answers.length = p.answers.length + 1 := by
  obtain ⟨⟨outcome, hreply, haccepted⟩, -⟩ := h
  have hstep := submit_step q answer source
  generalize q.submit answer source = result at hstep hreply
  cases hstep with
  | ended | exhausted => cases hreply
  | refused _ hrefusal =>
    cases hreply
    rw [haccepted] at hrefusal
    cases hrefusal
  | stopped hchoosing | chosen hchoosing =>
    rw [hphase] at hchoosing
    cases hchoosing
  | answered hasking =>
    rw [hphase] at hasking
    cases hasking
    exact .inr ⟨_, rfl, List.length_append⟩
  | committed => exact .inl rfl

/-- Where a kind is chosen, a blank answer ends the query. -/
theorem exists_accepts_of_choosing {q : Query} (hphase : q.phase = .choosing) (source : Source) :
    ∃ q', Accepts q [("", source)] q' ∧ q'.isFinished = true :=
  ⟨_, accepts_of_submit_eq (submit_blank hphase source) rfl, rfl⟩

/-- With three rounds to go at most, four answers end the query. -/
theorem exists_accepts_of_asking (n : Nat) {q : Query} (h : Feasible initial q)
    (hcolumned : Columned q) {p : Pending} (hphase : q.phase = .asking p)
    (hn : 3 ≤ p.answers.length + n) (source : Source) :
    ∃ answers q', answers.length ≤ n + 1 ∧ Accepts q answers q' ∧ q'.isFinished = true := by
  -- The induction is on the rounds that may be left; an open round is one of them.
  induction n generalizing q p with
  | zero =>
    have hopen := (h.coherent.pending p hphase).2
    have hthree := Kind.rounds_le_three p.kind p.answers[1]?
    omega
  | succ n ih =>
    obtain ⟨text, htakes⟩ := h.exists_takes_zero hcolumned hphase source
    obtain ⟨outcome, hreply, haccepted⟩ := htakes.accepted
    rcases htakes.phase_submit hphase with hchoosing | ⟨p', hasking, hlength⟩
    · obtain ⟨q', haccepts, hfinished⟩ := exists_accepts_of_choosing hchoosing source
      refine ⟨[("0", source), ("", source)], q', ?_, .cons hreply haccepted haccepts, hfinished⟩
      exact Nat.le_add_left 2 n
    · obtain ⟨answers, q', hle, haccepts, hfinished⟩ :=
        ih (h.submit "0" source) (hcolumned.submit "0" source) hasking (by omega)
      refine ⟨("0", source) :: answers, q', ?_, .cons hreply haccepted haccepts, hfinished⟩
      rw [List.length_cons]
      omega

/-- **No question is a dead end, and four answers end a query.**  Whatever answers a query was
given, as long as it goes on there is a question.  If it has options there is at least one, and
where numbers only count the number of every option chooses it, but for a kind that works on
columns where there are none, which is refused for that; a word holds the number of every option
that a list in memory can have.  If it asks for free text, it takes what is not blank and, if it
asks for keys, holds anything but commas and white space.  And there are four answers or fewer
that are taken one after the other and end the query. -/
theorem exists_wayOut (schema : Schema) (options : QueryOptions) (given : List (String × Source))
    (source : Source) (hopen : ((start schema options).submitAll given).isFinished = false) :
    let q := (start schema options).submitAll given
    ∃ question, q.question? = some question ∧
      (∀ offered, question.options = some offered → offered ≠ [] ∧
        (options.matching = .indexOnly → ∀ i < Nat.pow 2 63, ∀ label, offered[i]? = some label →
          (¬Barred q label → Takes q (toString i) source label) ∧
          (Barred q label → ∃ kind : Kind, label = kind.name ∧
            q.submit (toString i) source = q.refuse (.noTargets kind) .kind))) ∧
      (question.options = none → ∀ answer,
        (∃ text, Takes q answer source text) ↔ Text.isBlank answer = false ∧
          (question.kind = some .groupBy →
            ∃ c ∈ answer.toList, c ≠ ',' ∧ Text.isBlankChar c = false)) ∧
      ∃ answers q', answers.length ≤ 4 ∧ Accepts q answers q' ∧ q'.isFinished = true := by
  intro q
  have h : Feasible schema q := (feasible_start schema options).submitAll given
  have hcolumned : Columned q := columned_submitAll schema options given
  have hsome : q.question? ≠ none := by
    rw [ne_eq, h.coherent.question?_eq_none_iff]
    exact beq_eq_false_iff_ne.1 hopen
  obtain ⟨question, hquestion⟩ := Option.ne_none_iff_exists'.1 hsome
  refine ⟨question, hquestion, ?_, ?_, ?_⟩
  · intro offered hoptions
    refine ⟨h.options_ne_nil hcolumned hquestion hoptions, ?_⟩
    intro hmatching i hi label hlabel
    have hnumbers : q.options.matching = .indexOnly := by
      rw [submitAll_options]
      exact hmatching
    have hresolve := resolve_number hnumbers hoptions hi hlabel
    refine ⟨(h.takes_iff hquestion hresolve hoptions source).2, ?_⟩
    intro hbarred
    obtain ⟨kind, hname, hrefused⟩ := refused_of_barred hquestion hresolve hbarred
    refine ⟨kind, hname, ?_⟩
    rw [hrefused.submit_eq, hbarred.1]
  · intro hoptions answer
    exact h.takes_freeform_iff hquestion hoptions answer source
  · cases hphase : q.phase with
    | choosing =>
      obtain ⟨q', haccepts, hfinished⟩ := exists_accepts_of_choosing hphase source
      exact ⟨[("", source)], q', Nat.le_add_left 1 3, haccepts, hfinished⟩
    | asking p => exact exists_accepts_of_asking 3 h hcolumned hphase (Nat.le_add_left 3 _) source
    | finished => exact absurd hphase (phase_ne_finished hquestion)

/-- A table of one column. -/
def ageOnly : Schema := ⟨[⟨"Age", .number, 0⟩]⟩

/-- Behind the drop of the only column the numbers of the other kinds are refused, and that of
the empty one ends the query. -/
theorem exists_wayOut_bare :
    ∃ q, (start ageOnly { matching := .indexOnly }).submitAll [("1", .live), ("0", .live)] = q ∧
      q.isFinished = false ∧ q.submit "2" .live = q.refuse (.noTargets .sortBy) .kind ∧
      Takes q "0" .live "Empty" ∧
      ∃ answers q', answers.length ≤ 4 ∧ Accepts q answers q' ∧ q'.isFinished = true := by
  let options : QueryOptions := { matching := .indexOnly }
  let given : List (String × Source) := [("1", .live), ("0", .live)]
  have hopen : ((start ageOnly options).submitAll given).isFinished = false := by decide
  have hphase : ((start ageOnly options).submitAll given).phase = .choosing := by decide
  have hnames : ((start ageOnly options).submitAll given).schema.names = [] := by decide
  obtain ⟨question, hquestion, hoptions, -, hout⟩ :=
    exists_wayOut ageOnly options given .live hopen
  refine ⟨_, rfl, ?_⟩
  -- Nothing else about the query matters from here on.
  generalize (start ageOnly options).submitAll given = q
    at hopen hphase hnames hquestion hoptions hout ⊢
  have hstage : q.stage = .kind := by simp only [stage, hphase]
  rw [question?_of_choosing hphase] at hquestion
  cases hquestion
  obtain ⟨-, hnumbers⟩ := hoptions Kind.names rfl
  obtain ⟨-, hsort⟩ := hnumbers rfl 2 (by decide) "SortBy" rfl
  obtain ⟨hempty, -⟩ := hnumbers rfl 0 (by decide) "Empty" rfl
  obtain ⟨kind, hname, hsubmit⟩ := hsort ⟨hstage, hnames, by decide⟩
  have hkind : Kind.sortBy = kind := Kind.name_injective hname
  subst hkind
  exact ⟨hopen, hsubmit, hempty fun hbarred => hbarred.2.2 rfl, hout⟩

end Query
end TableTalk
