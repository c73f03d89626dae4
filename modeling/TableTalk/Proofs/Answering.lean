import TableTalk.Proofs.Feasibility

/-!
# Answers that are taken as they are

Where labels count, a proper text that is among the options of a question, or that answers a
question for free text, stands for itself, whatever else it could be read as: labels come
before numbers.  So the tokens of a transformation are answers to the rounds in which it is
acquired, and the tokens of a plan, one after the other, are a dialogue that commits it.

## Main definitions

* `Query.await` — a query that waits for the next answer to a transformation.
* `Query.Accepts` — a query takes each answer of a list in turn.
* `Transformation.Acquirable` — a transformation whose tokens a dialogue takes.

## Main results

* `Query.submit_kind`, `Query.submit_offered` — what an answer that stands for itself does.
* `Query.accepts_tokens` — the tokens of a transformation are taken, and it is committed.
* `Query.committed_of_tokens` — **the tokens of a plan commit it, and none is refused.**
-/

namespace TableTalk

/-! ### Answers that stand for themselves -/

/-- A proper text that is one of the options is its choice, be it a number or not. -/
theorem choose_of_mem {answer : String} {options : List String} (h : Text.Proper answer)
    (hmem : answer ∈ options) (allowStop : Bool) :
    (choose answer options .labelOrIndex allowStop).map Choice.label? = .ok (some answer) := by
  obtain ⟨i, hi⟩ : ∃ i, options.findIdx? (· == answer) = some i := by
    rw [← Option.isSome_iff_exists, List.findIdx?_isSome, List.any_eq_true]
    exact ⟨answer, hmem, beq_self_eq_true answer⟩
  obtain ⟨hlt, hfound, -⟩ := List.findIdx?_eq_some_iff_getElem.1 hi
  have hlabel : options[i]? = some answer := by
    rw [List.getElem?_eq_getElem hlt, beq_iff_eq.1 hfound]
  simp only [choose, h.trim_eq, h.isEmpty_eq, labelIndex?, hi, hlabel]
  rfl

theorem freeText_of_proper {text : String} (h : Text.Proper text) : freeText text = .ok text := by
  simp only [freeText, h.trim_eq, h.isEmpty_eq]
  rfl

theorem Kind.proper_name (k : Kind) : Text.Proper k.name := by cases k <;> decide

/-- Every word that is offered is proper. -/
theorem Kind.proper_of_mem_arguments {k : Kind} {word : String} (h : word ∈ k.arguments) :
    Text.Proper word := by
  have hall : ∀ word ∈ k.arguments, Text.Proper word := by cases k <;> decide
  exact hall word h

/-- Where all columns have proper names, whatever answers a round is proper. -/
theorem Kind.proper_of_offered {k : Kind} {round : Round} {schema : Schema} {resolved : String}
    (hnames : ∀ name ∈ schema.names, Text.Proper name)
    (hoffered : ∀ options, k.options? round schema = some options → resolved ∈ options)
    (hproper : k.options? round schema = none → Text.Proper resolved) : Text.Proper resolved := by
  cases round with
  | target => exact hnames _ (k.targets_subset schema (hoffered _ rfl))
  | argument => exact Kind.proper_of_mem_arguments (hoffered _ rfl)
  | freeform => exact hproper rfl

namespace Query

section

variable {q : Query} (hmatching : q.options.matching = .labelOrIndex)

include hmatching

/-- A proper text that is offered, or that answers a question for free text, stands for
itself. -/
theorem resolve_of_proper {question : Question} {answer : String} (h : Text.Proper answer)
    (hoffered : ∀ options, question.options = some options → answer ∈ options) :
    q.resolve question answer = .ok (some answer) := by
  cases hoptions : question.options with
  | none =>
    simp only [resolve, hoptions, freeText_of_proper h]
    rfl
  | some options =>
    simp only [resolve, hoptions, hmatching]
    exact choose_of_mem h (hoffered options hoptions) _

/-- The name of a kind chooses it. -/
theorem submit_kind (hphase : q.phase = .choosing) (k : Kind) (source : Source) :
    q.submit k.name source = q.chooseKind k.name source := by
  have hresolve : q.resolve ⟨.kind, none, kindPrompt, some Kind.names⟩ k.name =
      .ok (some k.name) := by
    refine resolve_of_proper hmatching k.proper_name fun options h => ?_
    cases h
    cases k <;> decide
  simp only [submit, question?_of_choosing hphase, hresolve, hphase]

/-- A proper text that a round offers, or does not have to, answers it. -/
theorem submit_offered {p : Pending} {round : Round} {resolved : String}
    (hphase : q.phase = .asking p) (hround : p.round? = some round)
    (hproper : Text.Proper resolved)
    (hoffered : ∀ options, p.kind.options? round q.schema = some options → resolved ∈ options)
    (source : Source) :
    q.submit resolved source = q.answerRound p (.ofRound round) resolved source := by
  have hquestion : q.question? = some (roundQuestion q.schema p.kind round) := by
    rw [question?_of_asking hphase, hround]
    rfl
  have hresolve : q.resolve (roundQuestion q.schema p.kind round) resolved = .ok (some resolved) :=
    resolve_of_proper hmatching hproper hoffered
  simp only [submit, hquestion, hresolve, hphase]
  rfl

end

/-! ### What such an answer does -/

section

variable {q : Query}

/-- The query that waits for the next answer to a transformation in progress. -/
def await (q : Query) (p : Pending) (history : List HistoryEntry) : Query :=
  { q with phase := .asking p, history := history, attempts := 0 }

theorem chooseKind_name {k : Kind} (hkind : k ≠ .empty) (hnames : q.schema.names ≠ [])
    (source : Source) :
    q.chooseKind k.name source =
      (q.await { kind := k, start := q.history.length } (q.record .kind k.name source),
        .ok (.accepted k.name)) := by
  rw [chooseKind_name_eq hkind, if_neg (mt List.isEmpty_iff.1 hnames)]
  rfl

theorem chooseKind_empty (source : Source) :
    q.chooseKind Kind.empty.name source = q.finish Kind.empty.name source := by
  unfold chooseKind
  rw [Kind.read_name]
  rfl

theorem answerRound_more {p : Pending} {resolved : String}
    (hmore : (p.answers ++ [resolved]).length < p.kind.rounds (p.answers ++ [resolved])[1]?)
    (stage : Stage) (source : Source) :
    q.answerRound p stage resolved source =
      (q.await { p with answers := p.answers ++ [resolved] } (q.record stage resolved source),
        .ok (.accepted resolved)) := by
  simp only [answerRound, if_pos hmore]
  rfl

theorem answerRound_last {p : Pending} {resolved : String} {t : Transformation}
    (hlast : ¬(p.answers ++ [resolved]).length < p.kind.rounds (p.answers ++ [resolved])[1]?)
    (hbuilt : Transformation.Built p.kind (p.answers ++ [resolved]) t)
    (stage : Stage) (source : Source) :
    q.answerRound p stage resolved source =
      (q.commit (q.record stage resolved source) t, .ok (.committed t)) := by
  simp only [answerRound, if_neg hlast, Transformation.build_name, hbuilt.ofArguments_eq]

end

/-! ### Lists of answers that are taken -/

/-- The query takes each of the answers in turn, which leads to the other query. -/
inductive Accepts : Query → List (String × Source) → Query → Prop
  /-- There is no answer to be taken. -/
  | nil (q : Query) : Accepts q [] q
  /-- The first answer is taken, and the others behind it. -/
  | cons {q q' : Query} {answer : String} {source : Source} {outcome : Outcome}
    {answers : List (String × Source)} (htaken : (q.submit answer source).2 = .ok outcome)
    (haccepted : outcome.rejection? = none)
    (rest : Accepts (q.submit answer source).1 answers q') :
    Accepts q ((answer, source) :: answers) q'

/-- An answer of which it is known what it does is taken. -/
theorem accepts_of_submit_eq {q q' : Query} {answer : String} {source : Source}
    {outcome : Outcome} (h : q.submit answer source = (q', .ok outcome))
    (haccepted : outcome.rejection? = none) : Accepts q [(answer, source)] q' := by
  have hrest : Accepts (q.submit answer source).1 [] q' := by
    rw [h]
    exact .nil q'
  exact .cons (congrArg Prod.snd h) haccepted hrest

namespace Accepts

variable {q q' q'' : Query} {as bs : List (String × Source)}

theorem append (h : Accepts q as q') (h' : Accepts q' bs q'') : Accepts q (as ++ bs) q'' := by
  induction h with
  | nil q => exact h'
  | cons htaken haccepted rest ih => exact .cons htaken haccepted (ih h')

theorem eq_submitAll (h : Accepts q as q') : q' = q.submitAll as := by
  induction h with
  | nil q => rfl
  | cons htaken haccepted rest ih => exact ih

/-- No refusal is counted. -/
theorem rejections_eq (h : Accepts q as q') : q'.rejections = q.rejections := by
  induction h with
  | nil q => rfl
  | @cons q q' answer source outcome answers htaken haccepted rest ih =>
    rw [ih]
    have hstep := submit_step q answer source
    generalize q.submit answer source = result at hstep htaken
    cases hstep with
    | ended | exhausted => cases htaken
    | refused hquestion houtcome hlimit =>
      cases htaken
      rw [haccepted] at houtcome
      cases houtcome
    | stopped | chosen | answered | committed => rfl

end Accepts
end Query

/-! ### Transformations whose tokens are taken -/

theorem Direction.label_mem_arguments (d : Direction) :
    Vocabulary.label d ∈ Kind.sortBy.arguments := by cases d <;> decide

theorem Aggregate.label_mem_arguments (a : Aggregate) :
    Vocabulary.label a ∈ Kind.groupBy.arguments := by cases a <;> decide

theorem Relation.label_mem_arguments {r : Relation} (h : r ≠ .inRange) :
    Vocabulary.label r ∈ Kind.filterBy.arguments := by
  cases r with
  | inRange => exact absurd rfl h
  | equals | notEquals | lessThan | greaterThan => decide

/-- While fewer answers are given than a kind takes rounds, a round is open. -/
theorem Kind.lt_rounds_of_append {k : Kind} {front rest : List String} (hrest : rest ≠ [])
    (h : (front ++ rest).length = k.rounds (front ++ rest)[1]?) :
    front.length < k.rounds front[1]? := by
  have hpos := List.length_pos_iff.2 hrest
  rw [List.length_append] at h
  by_cases hk : k = .groupBy
  · subst hk
    rcases Nat.lt_or_ge front.length 2 with hlt | hge
    · have := two_le_rounds_groupBy front[1]?
      omega
    · rw [List.getElem?_append_left (by omega)] at h
      omega
  · rw [rounds_of_ne_groupBy hk _ front[1]?] at h
    omega

/-- The next of the answers that were offered is among what the round offers. -/
theorem Pending.Offered.mem_options {schema : Schema} {k : Kind} {front rest : List String}
    {a : String} {start : Nat}
    (h : Offered schema { kind := k, answers := front ++ a :: rest, start := start })
    {round : Round} (hround : k.round? front.length front[1]? = some round) :
    ∀ options, k.options? round schema = some options → a ∈ options := by
  have hat : (front ++ a :: rest)[front.length]? = some a := by simp
  rw [Kind.eq_position_of_round? hround] at hat
  intro options hoptions
  cases round with
  | target =>
    cases hoptions
    exact h.target_mem a hat
  | argument =>
    cases hoptions
    exact h.argument_mem a hat
  | freeform => cases hoptions

namespace Transformation

/-- A transformation of which a dialogue under the schema takes the tokens. -/
structure Acquirable (schema : Schema) (t : Transformation) : Prop where
  /-- Something is to be acquired. -/
  kind_ne : t.kind ≠ .empty
  /-- Its parameters make it up. -/
  built : Built t.kind t.arguments t
  /-- There is one parameter for each round. -/
  length_eq : t.arguments.length = t.rounds
  /-- The column and the word are offered. -/
  offered : Pending.Offered schema { kind := t.kind, answers := t.arguments, start := 0 }
  /-- The free text is proper. -/
  proper : ∀ text, t.arguments[2]? = some text → Text.Proper text

theorem names_promote (schema : Schema) (column : String) :
    (promote schema column).names = schema.names := by
  rw [promote, Schema.names, List.map_map]
  refine List.map_congr_left fun header _ => ?_
  rw [Function.comp_apply]
  split <;> rfl

/-- A transformation leaves no column that was not there. -/
theorem names_preview_subset (schema : Schema) (t : Transformation) :
    (t.preview schema).names ⊆ schema.names := by
  cases t with
  | empty | sortBy | filterBy => exact List.Subset.refl _
  | dropColumn columns => exact List.map_subset _ List.filter_sublist.subset
  | groupBy column aggregate keys =>
    simp only [preview]
    split
    · rw [names_promote]
      exact List.Subset.refl _
    · exact List.Subset.refl _

/-- There is one parameter for each round, unless several columns are dropped at a time. -/
theorem length_arguments {t : Transformation}
    (h : ∀ columns, t = .dropColumn columns → columns.length = 1) :
    t.arguments.length = t.rounds := by
  cases t with
  | empty | sortBy | filterBy => rfl
  | dropColumn columns => exact h columns rfl
  | groupBy column aggregate keys => cases aggregate <;> rfl

/-- What fits a schema has a column and a word that are offered. -/
theorem Fits.offered {schema : Schema} {t : Transformation} (h : t.Fits schema) (start : Nat)
    (hsingle : ∀ columns, t = .dropColumn columns → columns.length = 1) :
    Pending.Offered schema { kind := t.kind, answers := t.arguments, start := start } := by
  cases t with
  | empty => exact ⟨nofun, nofun⟩
  | dropColumn columns =>
    obtain ⟨name, rfl⟩ := List.length_eq_one_iff.1 (hsingle _ rfl)
    refine ⟨fun a ha => ?_, fun a ha => by cases ha⟩
    cases ha
    exact h.targets_mem name List.mem_cons_self
  | sortBy column direction =>
    refine ⟨fun a ha => ?_, fun a ha => ?_⟩
    · cases ha
      exact h.targets_mem column List.mem_cons_self
    · cases ha
      exact direction.label_mem_arguments
  | groupBy column aggregate keys =>
    refine ⟨fun a ha => ?_, fun a ha => ?_⟩
    · cases ha
      exact h.targets_mem column List.mem_cons_self
    · cases ha
      exact aggregate.label_mem_arguments
  | filterBy condition =>
    refine ⟨fun a ha => ?_, fun a ha => ?_⟩
    · cases ha
      exact h.targets_mem condition.column List.mem_cons_self
    · cases ha
      exact Relation.label_mem_arguments (h.relation_ne _ rfl)

/-- The text that lists the keys of a grouping is proper, and so is that of a filter if its
literal is. -/
theorem Built.proper_text {k : Kind} {arguments : List String} {t : Transformation}
    (h : Built k arguments t) (hsingle : ∀ columns, t = .dropColumn columns → columns.length = 1)
    (hliteral : ∀ condition, t = .filterBy condition → Text.Proper condition.literal)
    {text : String} (htext : t.arguments[2]? = some text) : Text.Proper text := by
  cases h with
  | empty | sortBy => cases htext
  | dropColumn column columns =>
    obtain ⟨name, hname⟩ := List.length_eq_one_iff.1 (hsingle _ rfl)
    rw [hname] at htext
    cases htext
  | groupAll column lists hword hkeys =>
    simp only [Transformation.arguments, hkeys] at htext
    cases htext
  | @groupKeys word aggregate column lists hword hkeys hlists hsome =>
    have hne : (KeySet.ofTokens lists).keys ≠ [] := by
      simpa [KeySet.isEmpty] using hsome
    simp only [Transformation.arguments, hkeys] at htext
    cases htext
    exact Text.proper_intercalate hne (fun key hkey => (KeySet.proper_of_mem_ofTokens hkey).1) _
  | filterBy =>
    cases htext
    exact hliteral _ rfl

/-- What is built and fits a schema can be acquired, unless several columns are dropped at a
time or a literal would lose white space. -/
theorem Fits.acquirable {schema : Schema} {t : Transformation} (h : t.Fits schema)
    {kind : String} {arguments : List String} (hbuild : build kind arguments = .ok t)
    (hempty : t ≠ .empty)
    (hsingle : ∀ columns, t = .dropColumn columns → columns.length = 1)
    (hliteral : ∀ condition, t = .filterBy condition → Text.Proper condition.literal) :
    t.Acquirable schema := by
  have hbuilt := built_of_build hbuild
  refine ⟨fun hkind => hempty ?_, hbuilt.arguments, length_arguments hsingle,
    h.offered 0 hsingle, fun text htext => hbuilt.proper_text hsingle hliteral htext⟩
  cases t with
  | empty => rfl
  | dropColumn | sortBy | groupBy | filterBy => cases hkind

/-- Behind the parameters in front a round is open, and the next one answers it. -/
theorem Acquirable.exists_round {schema : Schema} {t : Transformation} (ht : t.Acquirable schema)
    (hnames : ∀ name ∈ schema.names, Text.Proper name) {front rest : List String} {a : String}
    (harguments : t.arguments = front ++ a :: rest) :
    ∃ round, t.kind.round? front.length front[1]? = some round ∧
      (∀ options, t.kind.options? round schema = some options → a ∈ options) ∧
      Text.Proper a := by
  obtain ⟨-, -, hlength, hoffered, hproper⟩ := ht
  rw [harguments] at hlength hoffered hproper
  have hopen : front.length < t.kind.rounds front[1]? := by
    refine Kind.lt_rounds_of_append (List.cons_ne_nil a rest) ?_
    rw [hlength, rounds, harguments]
  obtain ⟨round, hround⟩ : ∃ round, t.kind.round? front.length front[1]? = some round :=
    Option.ne_none_iff_exists'.1 fun h => absurd (Kind.round?_eq_none_iff.1 h) (by omega)
  have hmem := hoffered.mem_options hround
  refine ⟨round, hround, hmem, Kind.proper_of_offered hnames hmem fun hnone => hproper a ?_⟩
  have hposition := Kind.eq_position_of_round? hround
  cases round with
  | target | argument => cases hnone
  | freeform =>
    have hposition : front.length = 2 := hposition
    rw [← hposition]
    simp

end Transformation

namespace Query

variable {q : Query}

/-- The parameters of a transformation, those in front being answered, are the answers to the
rounds that are left. -/
theorem accepts_arguments {t : Transformation} (hmatching : q.options.matching = .labelOrIndex)
    (hnames : ∀ name ∈ q.schema.names, Text.Proper name) (ht : t.Acquirable q.schema)
    {front : List String} {start : Nat} (hphase : q.phase = .asking ⟨t.kind, front, start⟩)
    {given : List (String × Source)} (hgiven : given ≠ [])
    (harguments : t.arguments = front ++ given.map Prod.fst) :
    ∃ history, Accepts q given (q.commit history t) := by
  -- Each answer moves from those that are given to those in front; the parameters of `t`
  -- stay what both make up together.
  induction given generalizing q front with
  | nil => exact absurd rfl hgiven
  | cons entry given ih =>
    obtain ⟨a, source⟩ := entry
    rw [List.map_cons] at harguments
    obtain ⟨round, hround, hoffered, hproper⟩ := ht.exists_round hnames harguments
    have hsubmit := submit_offered hmatching hphase hround hproper hoffered source
    have hlength := ht.length_eq
    rw [Transformation.rounds, harguments] at hlength
    by_cases hnil : given = []
    · subst hnil
      have hlast : ¬(front ++ [a]).length < t.kind.rounds (front ++ [a])[1]? :=
        Nat.not_lt_of_ge hlength.ge
      have hbuilt := ht.built
      rw [harguments] at hbuilt
      rw [answerRound_last hlast hbuilt] at hsubmit
      exact ⟨_, accepts_of_submit_eq hsubmit rfl⟩
    · rw [List.append_cons] at harguments hlength
      have hmore : (front ++ [a]).length < t.kind.rounds (front ++ [a])[1]? :=
        Kind.lt_rounds_of_append (by simpa using hnil) hlength
      rw [answerRound_more hmore] at hsubmit
      obtain ⟨history, hrest⟩ := ih (q := q.await ⟨t.kind, front ++ [a], start⟩ _) hmatching
        hnames ht rfl hnil harguments
      exact ⟨history, (accepts_of_submit_eq hsubmit rfl).append hrest⟩

/-- The tokens of a transformation are taken, and it is committed. -/
theorem accepts_tokens {t : Transformation} (hmatching : q.options.matching = .labelOrIndex)
    (hnames : ∀ name ∈ q.schema.names, Text.Proper name) (ht : t.Acquirable q.schema)
    (hphase : q.phase = .choosing) {given : List (String × Source)}
    (hgiven : given.map Prod.fst = t.tokens) :
    ∃ history, Accepts q given (q.commit history t) := by
  obtain ⟨⟨kind, source⟩, given, rfl, rfl, harguments⟩ := List.map_eq_cons_iff.1 hgiven
  have hpos : 0 < t.arguments.length := by
    rw [ht.length_eq]
    exact Kind.rounds_pos ht.kind_ne _
  have hne : given ≠ [] := by
    rintro rfl
    rw [← harguments] at hpos
    exact absurd hpos (Nat.lt_irrefl 0)
  obtain ⟨column, hcolumn⟩ : ∃ column, t.arguments[0]? = some column :=
    ⟨_, List.getElem?_eq_getElem hpos⟩
  have hschema : q.schema.names ≠ [] := by
    have hmem := t.kind.targets_subset q.schema (ht.offered.target_mem column hcolumn)
    exact List.ne_nil_of_mem hmem
  have hsubmit := submit_kind hmatching hphase t.kind source
  rw [chooseKind_name ht.kind_ne hschema] at hsubmit
  obtain ⟨history, hrest⟩ := accepts_arguments (q := q.await ⟨t.kind, [], _⟩ _) hmatching hnames
    ht rfl hne harguments.symm
  exact ⟨history, (accepts_of_submit_eq hsubmit rfl).append hrest⟩

/-- The tokens of a plan of acquirable transformations are taken, and it is committed. -/
theorem accepts_plan {plan : Plan} (hmatching : q.options.matching = .labelOrIndex)
    (hnames : ∀ name ∈ q.schema.names, Text.Proper name)
    (hplan : ∀ i (t : Transformation), plan[i]? = some t →
      t.Acquirable (Plan.preview q.schema (plan.take i)))
    (hphase : q.phase = .choosing) {given : List (String × Source)}
    (hgiven : given.map Prod.fst = plan.flatMap Transformation.tokens) :
    ∃ q', Accepts q given q' ∧ q'.phase = .choosing ∧ q'.committed = q.committed ++ plan := by
  induction plan generalizing q given with
  | nil =>
    have hnil : given = [] := List.map_eq_nil_iff.1 hgiven
    subst hnil
    exact ⟨q, .nil q, hphase, (List.append_nil _).symm⟩
  | cons t plan ih =>
    rw [List.flatMap_cons] at hgiven
    obtain ⟨front, rest, rfl, hfront, hrest⟩ := List.map_eq_append_iff.1 hgiven
    obtain ⟨history, hhead⟩ := accepts_tokens hmatching hnames (hplan 0 t rfl) hphase hfront
    obtain ⟨q', htail, hphase', hcommitted⟩ := ih (q := q.commit history t) hmatching
      (fun name hname => hnames name (Transformation.names_preview_subset q.schema t hname))
      (fun i t' ht' => hplan (i + 1) t' ht') rfl hrest
    refine ⟨q', hhead.append htail, hphase', ?_⟩
    rw [hcommitted]
    exact List.append_assoc _ _ _

/-- **The tokens of a plan commit it, and none is refused.**  The plan may hold any
transformations that can be built, as long as none is empty or drops several columns at a time,
no literal would lose white space, and each works on columns that are there when it is reached.
It does not matter how many answers may be refused, where the answers come from, or whether
columns are named like numbers or like words. -/
theorem committed_of_tokens {schema : Schema}
    (hnames : ∀ name ∈ schema.names, Text.Proper name) {plan : Plan}
    (hbuild : ∀ t ∈ plan, ∃ kind arguments, Transformation.build kind arguments = .ok t)
    (hempty : .empty ∉ plan) (hsingle : ∀ columns, .dropColumn columns ∈ plan → columns.length = 1)
    (hfilter : ∀ condition, .filterBy condition ∈ plan →
      condition.relation ≠ .inRange ∧ Text.Proper condition.literal)
    (htargets : ∀ i (h : i < plan.length), ∀ name ∈ plan[i].targets,
      name ∈ (Plan.preview schema (plan.take i)).names)
    {options : QueryOptions} (hmatching : options.matching = .labelOrIndex)
    {given : List (String × Source)}
    (hgiven : given.map Prod.fst = plan.flatMap Transformation.tokens) :
    let q := (start schema options).submitAll given
    Accepts (start schema options) given q ∧ q.rejections = 0 ∧ q.committed = plan ∧
      q.pending? = none := by
  intro q
  have hplan : ∀ i (t : Transformation), plan[i]? = some t →
      t.Acquirable (Plan.preview schema (plan.take i)) := by
    intro i t ht
    obtain ⟨hlt, rfl⟩ := List.getElem?_eq_some_iff.1 ht
    have hmem : plan[i] ∈ plan := List.getElem_mem hlt
    obtain ⟨kind, arguments, hbuild⟩ := hbuild _ hmem
    have hfits : plan[i].Fits (Plan.preview schema (plan.take i)) :=
      ⟨htargets i hlt, fun condition h => (hfilter condition (h ▸ hmem)).1⟩
    exact hfits.acquirable hbuild (fun h => hempty (h ▸ hmem))
      (fun columns h => hsingle columns (h ▸ hmem))
      (fun condition h => (hfilter condition (h ▸ hmem)).2)
  obtain ⟨q', haccepts, hphase, hcommitted⟩ :=
    accepts_plan (q := start schema options) hmatching hnames hplan rfl hgiven
  have heq : q' = q := haccepts.eq_submitAll
  subst heq
  refine ⟨haccepts, haccepts.rejections_eq, hcommitted, ?_⟩
  simp only [pending?, hphase]

/-- Columns that are named like the number of an option, like a kind and like a direction. -/
def baffling : Schema :=
  ⟨[⟨"2", .text, 0⟩, ⟨"SortBy", .number, 1⟩, ⟨"Ascending", .text, 2⟩, ⟨"0", .text, 3⟩]⟩

/-- Transformations of each kind, with two rounds and with three, the first of which takes the
column away that comes last. -/
def bafflingPlan : Plan := [
  .dropColumn ["0"], .sortBy "Ascending" .descending, .groupBy "2" .groupKey .empty,
  .filterBy ⟨"SortBy", .notEquals, "1, 2"⟩, .groupBy "2" .countAll (.ofList ["Sum", "x y", "1"])]

/-- A column named like a number is not taken for the option with that number. -/
theorem committed_of_tokens_baffling :
    let q := (start baffling { maxAttempts := some 0 }).submitAll
      ((bafflingPlan.flatMap Transformation.tokens).map (·, .replayed))
    q.rejections = 0 ∧ q.committed = bafflingPlan ∧ q.pending? = none := by
  have hnames : ∀ name ∈ baffling.names, Text.Proper name := by decide
  have hbuild : ∀ t ∈ bafflingPlan, Transformation.build t.name t.arguments = .ok t := by decide
  have hsingle : ∀ columns, .dropColumn columns ∈ bafflingPlan → columns.length = 1 := by
    intro columns h
    simp only [bafflingPlan, List.mem_cons, reduceCtorEq, Transformation.dropColumn.injEq,
      List.not_mem_nil, or_false] at h
    rw [h]
    rfl
  have hfilter : ∀ condition, .filterBy condition ∈ bafflingPlan →
      condition.relation ≠ .inRange ∧ Text.Proper condition.literal := by
    intro condition h
    simp only [bafflingPlan, List.mem_cons, reduceCtorEq, Transformation.filterBy.injEq,
      List.not_mem_nil, or_false, false_or] at h
    rw [h]
    decide
  have hmatching : ({ maxAttempts := some 0 } : QueryOptions).matching = .labelOrIndex := rfl
  have hgiven : ((bafflingPlan.flatMap Transformation.tokens).map (·, Source.replayed)).map
      Prod.fst = bafflingPlan.flatMap Transformation.tokens := by decide
  exact (committed_of_tokens hnames (fun t ht => ⟨t.name, t.arguments, hbuild t ht⟩) (by decide) hsingle
    hfilter (by decide) hmatching hgiven).2

end Query
end TableTalk
