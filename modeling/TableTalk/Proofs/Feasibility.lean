import TableTalk.Proofs.Applying
import TableTalk.Proofs.Coherence

/-!
# Executing what answers lead to

A query sees the schema of a table and never the table.  It offers columns and words of the
schema that the committed transformations lead to, and whatever it commits fits that schema:
the columns are there, and the relation is one that can be executed.  The one thing it offers
that cannot be executed is the aggregate `GroupKey`.

## Main definitions

* `Transformation.Fits`, `Plan.Fits` — transformations and plans that fit a schema.
* `Pending.Offered` — the answers so far are among what was offered.
* `Query.Feasible` — the invariant.

## Main results

* `Plan.Fits.exists_applied` — a plan that fits and does not use `GroupKey` is executed.
* `Plan.Fits.error_eq` — a plan that fits fails at the first use of `GroupKey` only.
* `Plan.schema_of_execute` — **the schema of a result is the one foretold.**
* `Query.execute_committed` — **executing what a query committed fails at the first use of
  `GroupKey` or not at all, and leads to the schema of the query.**
-/

namespace TableTalk

/-! ### Plans that fit a schema -/

namespace Transformation

/-- The columns are in the schema, and the relation is not the reserved one. -/
structure Fits (schema : Schema) (t : Transformation) : Prop where
  /-- Every column is in the schema. -/
  targets_mem : ∀ name ∈ t.targets, name ∈ schema.names
  /-- No condition uses the reserved relation. -/
  relation_ne : ∀ condition, t = .filterBy condition → condition.relation ≠ .inRange

/-- Whether a transformation uses the reserved aggregate. -/
def usesGroupKey : Transformation → Bool
  | .groupBy _ aggregate _ => aggregate == .groupKey
  | _ => false

theorem usesGroupKey_iff {t : Transformation} :
    t.usesGroupKey = true ↔ ∃ column keys, t = .groupBy column .groupKey keys := by
  cases t with
  | groupBy column aggregate keys =>
    rw [usesGroupKey, beq_iff_eq]
    constructor
    · rintro rfl
      exact ⟨column, keys, rfl⟩
    · rintro ⟨_, _, h⟩
      cases h
      rfl
  | empty | dropColumn | sortBy | filterBy => simp [usesGroupKey]

/-- Nothing but the reserved aggregate keeps a transformation that fits from being applied. -/
theorem Fits.obstacle?_eq {schema : Schema} {t : Transformation} (h : t.Fits schema) :
    t.obstacle? schema.names =
      if t.usesGroupKey then some (.unsupported .groupKey) else none := by
  cases t with
  | empty => rfl
  | dropColumn columns =>
    have hnone : columns.find? (fun name => !schema.names.contains name) = none := by
      rw [List.find?_eq_none]
      intro name hname
      have := h.targets_mem name hname
      simpa using this
    simp only [obstacle?, hnone, usesGroupKey]
    rfl
  | sortBy column direction =>
    have hcolumn := List.contains_iff_mem.2 (h.targets_mem column List.mem_cons_self)
    simp only [obstacle?, hcolumn, usesGroupKey]
    rfl
  | groupBy column aggregate keys =>
    have hcolumn := List.contains_iff_mem.2 (h.targets_mem column List.mem_cons_self)
    simp only [obstacle?, hcolumn, usesGroupKey]
    rfl
  | filterBy condition =>
    have hcolumn := List.contains_iff_mem.2 (h.targets_mem condition.column List.mem_cons_self)
    have hrelation := beq_eq_false_iff_ne.2 (h.relation_ne condition rfl)
    simp only [obstacle?, hcolumn, hrelation, usesGroupKey]
    rfl

end Transformation

namespace Plan

/-- Every step fits the schema that the steps in front of it lead to. -/
inductive Fits : Schema → Plan → Prop
  /-- Without a step there is nothing to fit. -/
  | nil (schema : Schema) : Fits schema []
  /-- The first step fits, and the others fit behind it. -/
  | cons {schema : Schema} {t : Transformation} {ts : Plan} (head : t.Fits schema)
    (tail : Fits (t.preview schema) ts) : Fits schema (t :: ts)

/-- A plan that fits may be continued by a step that fits. -/
theorem Fits.concat {schema : Schema} {plan : Plan} (h : Fits schema plan) {t : Transformation}
    (ht : t.Fits (plan.preview schema)) : Fits schema (plan ++ [t]) := by
  induction h with
  | nil schema => exact .cons ht (.nil _)
  | cons head tail ih => exact .cons head (ih ht)

/-- What is executed does not use the reserved aggregate. -/
theorem Applied.usesGroupKey_eq {t u : Table} {plan : Plan} (h : Applied t plan u) :
    ∀ tr ∈ plan, tr.usesGroupKey = false := by
  induction h with
  | nil => exact fun _ h => absurd h List.not_mem_nil
  | cons head tail ih =>
    intro tr htr
    rcases List.mem_cons.1 htr with rfl | htr
    · cases head with
      | groupBy hcolumn haggregate hreplace => exact beq_eq_false_iff_ne.2 haggregate
      | empty | dropColumn | sortBy | filterBy => rfl
    · exact ih tr htr

/-- A plan that fits and does not use the reserved aggregate is executed. -/
theorem Fits.exists_applied {t : Table} {plan : Plan} (h : Fits t.schema plan)
    (ht : t.WellFormed) (hfree : ∀ tr ∈ plan, tr.usesGroupKey = false) :
    ∃ u, Applied t plan u := by
  induction plan generalizing t with
  | nil => exact ⟨t, .nil t⟩
  | cons tr trs ih =>
    cases h with
    | cons head tail =>
      have hnone : tr.obstacle? t.names = none := by
        rw [← t.names_schema, head.obstacle?_eq, hfree tr List.mem_cons_self]
        rfl
      obtain ⟨u, hu⟩ := Transformation.exists_applied ht hnone
      rw [← hu.schema_eq ht] at tail
      obtain ⟨v, hv⟩ := ih tail (hu.wellFormed ht) fun tr htr =>
        hfree tr (List.mem_cons_of_mem _ htr)
      exact ⟨v, .cons hu hv⟩

/-- A plan that fits fails at the first use of the reserved aggregate only, and for it. -/
theorem Fits.error_eq {t : Table} {plan : Plan} (h : Fits t.schema plan) (ht : t.WellFormed)
    {index : Nat} {e : ExecutionError} (he : executeFrom index t plan = .error e) :
    e.kind = .groupBy ∧ e.cause = .unsupported .groupKey ∧
      ∃ i, e.step = index + i ∧ (∃ tr, plan[i]? = some tr ∧ tr.usesGroupKey = true) ∧
        ∀ j < i, ∀ tr, plan[j]? = some tr → tr.usesGroupKey = false := by
  induction plan generalizing t index with
  | nil => cases he
  | cons tr trs ih =>
    cases h with
    | cons head tail =>
      have hobstacle := head.obstacle?_eq
      rw [t.names_schema] at hobstacle
      rcases Except.bind_eq_error_iff.1 he with he | ⟨u, hu, he⟩
      · -- The first step fails, so it is the one that uses the reserved aggregate.
        obtain ⟨cause, hcause, rfl⟩ := Except.mapError_eq_error_iff.1 he
        rw [(Transformation.apply_eq_error_iff ht).1 hcause] at hobstacle
        split at hobstacle
        · next huses =>
          cases hobstacle
          refine ⟨?_, rfl, 0, rfl, ⟨tr, rfl, huses⟩, fun j hj => absurd hj (Nat.not_lt_zero j)⟩
          obtain ⟨column, keys, rfl⟩ := Transformation.usesGroupKey_iff.1 huses
          rfl
        · cases hobstacle
      · have hu := Transformation.apply_eq_ok_iff.1 (Except.mapError_eq_ok_iff.1 hu)
        rcases Except.bind_eq_error_iff.1 he with he | ⟨rest, hrest, he⟩
        · rw [← hu.schema_eq ht] at tail
          obtain ⟨hkind, hcause, i, hi, hfirst, hbefore⟩ := ih tail (hu.wellFormed ht) he
          refine ⟨hkind, hcause, i + 1, by omega, hfirst, fun j hj tr' htr' => ?_⟩
          cases j with
          | zero =>
            cases htr'
            exact (Applied.cons hu (.nil u)).usesGroupKey_eq tr List.mem_cons_self
          | succ j => exact hbefore j (by omega) tr' htr'
        · cases he

/-- **The schema of a result is the one foretold.**  On every table, a plan that is executed
leads to the very columns, in order and with their names, types and positions in the source,
that it leads to when only the schema is looked at. -/
theorem schema_of_execute {t : Table} (ht : t.WellFormed) {plan : Plan} {e : Execution}
    (h : plan.execute t = .ok e) : e.table.schema = plan.preview t.schema := by
  have happlied : Applied t plan e.table := applied_of_executeFrom h
  exact happlied.schema_eq ht

/-- The members of the teams counted and the counts put in order, then the texts of the counts
joined, and nothing kept but them. -/
def teamSizes : Plan := [
  .groupBy "Team" .countAll (.ofList ["a", "b", "c"]), .sortBy "Team" .descending,
  .groupBy "Team" .concat (.ofList ["1", "2"]), .empty, .dropColumn ["Rank", "Name"]]

/-- The first grouping makes a column of texts one of numbers, and the second one leaves it
so. -/
theorem schema_of_execute_people :
    Table.people.WellFormed ∧ ∃ e, teamSizes.execute Table.people = .ok e ∧
      e.table.schema = ⟨[⟨"Team", .number, 1⟩]⟩ := by
  have ht : Table.people.WellFormed := by decide
  have hfits : Fits Table.people.schema teamSizes :=
    .cons ⟨by decide, nofun⟩ <| .cons ⟨by decide, nofun⟩ <| .cons ⟨by decide, nofun⟩ <|
      .cons ⟨nofun, nofun⟩ <| .cons ⟨by decide, nofun⟩ (.nil _)
  obtain ⟨u, hu⟩ := hfits.exists_applied ht (by decide)
  obtain ⟨e, he⟩ := hu.exists_executeFrom 0
  exact ⟨ht, e, he, schema_of_execute ht he⟩

end Plan

/-! ### Answers among what was offered -/

/-- The answers so far are among what was offered under the schema. -/
structure Pending.Offered (schema : Schema) (p : Pending) : Prop where
  /-- The column is one that was offered. -/
  target_mem : ∀ a, p.answers[0]? = some a → a ∈ p.kind.targets schema
  /-- The word is one that was offered. -/
  argument_mem : ∀ a, p.answers[1]? = some a → a ∈ p.kind.arguments

theorem Pending.offered_of_nil {schema : Schema} {p : Pending} (h : p.answers = []) :
    p.Offered schema := by
  constructor
  · intro a ha
    rw [h] at ha
    cases ha
  · intro a ha
    rw [h] at ha
    cases ha

theorem Kind.targets_subset (k : Kind) (schema : Schema) : k.targets schema ⊆ schema.names := by
  cases k with
  | empty => exact List.nil_subset _
  | dropColumn | sortBy | groupBy | filterBy => exact List.Subset.refl _

/-- The answer to a round is one more that was offered. -/
theorem Pending.Offered.answer {schema : Schema} {p : Pending} (h : p.Offered schema)
    {round : Round} (hround : p.round? = some round) {resolved : String}
    (hoffered : ∀ options, p.kind.options? round schema = some options → resolved ∈ options) :
    Pending.Offered schema { p with answers := p.answers ++ [resolved] } := by
  have hlength := Kind.eq_position_of_round? hround
  cases round with
  | target =>
    have hnil : p.answers = [] := List.eq_nil_of_length_eq_zero hlength
    simp only [hnil, List.nil_append]
    refine ⟨fun a ha => ?_, fun a ha => by cases ha⟩
    cases ha
    exact hoffered _ rfl
  | argument =>
    have hlength : p.answers.length = 1 := hlength
    refine ⟨fun a ha => h.target_mem a ?_, fun a ha => ?_⟩
    · rwa [List.getElem?_append_left (by omega)] at ha
    · rw [← hlength, List.getElem?_concat_length] at ha
      cases ha
      exact hoffered _ rfl
  | freeform =>
    have hlength : p.answers.length = 2 := hlength
    refine ⟨fun a ha => h.target_mem a ?_, fun a ha => h.argument_mem a ?_⟩
    · rwa [List.getElem?_append_left (by omega)] at ha
    · rwa [List.getElem?_append_left (by omega)] at ha

/-- The relation that an offered word stands for is not the reserved one. -/
theorem Relation.ne_inRange_of_offered {word : String} (hmem : word ∈ Kind.filterBy.arguments)
    {relation : Relation} (hword : Vocabulary.read? word = some relation) :
    relation ≠ .inRange := by
  obtain ⟨r, hr, rfl⟩ := List.mem_map.1 hmem
  rw [Relation.read?_label] at hword
  cases hword
  rintro rfl
  revert hr
  decide

/-- What is built of offered answers, none of them one too many, fits. -/
theorem Transformation.Built.fits {schema : Schema} {p : Pending} (h : p.Offered schema)
    {t : Transformation} (hbuilt : Built p.kind p.answers t)
    (hlength : p.answers.length ≤ p.kind.rounds p.answers[1]?) : t.Fits schema := by
  obtain ⟨kind, answers, start⟩ := p
  have htarget : ∀ a, answers[0]? = some a → a ∈ schema.names := fun a ha =>
    kind.targets_subset schema (h.target_mem a ha)
  cases hbuilt with
  | empty =>
    exact ⟨fun _ h => absurd h List.not_mem_nil, fun _ h => by cases h⟩
  | dropColumn column columns =>
    -- One round is one column.
    have hnil : columns = [] := by
      refine List.eq_nil_of_length_eq_zero ?_
      have : columns.length + 1 ≤ 1 := hlength
      omega
    subst hnil
    refine ⟨fun name hname => ?_, fun _ h => by cases h⟩
    rw [List.mem_singleton.1 hname]
    exact htarget column rfl
  | sortBy column | groupAll column | groupKeys column =>
    refine ⟨fun name hname => ?_, fun _ h => by cases h⟩
    rw [List.mem_singleton.1 hname]
    exact htarget column rfl
  | filterBy column literal rest hword =>
    refine ⟨fun name hname => ?_, fun condition h => ?_⟩
    · rw [List.mem_singleton.1 hname]
      exact htarget column rfl
    · cases h
      exact Relation.ne_inRange_of_offered (h.argument_mem _ rfl) hword

/-! ### What a query commits -/

namespace Query

/-- What is committed fits, and so will what is in progress. -/
structure Feasible (initial : Schema) (q : Query) : Prop where
  /-- The schema, the phase and the history are in step. -/
  coherent : Coherent initial q
  /-- What is committed fits the schema at the start. -/
  fits : q.committed.Fits initial
  /-- The answers so far were offered under the schema that it leads to. -/
  offered : ∀ p, q.phase = .asking p → p.Offered q.schema

theorem feasible_start (initial : Schema) (options : QueryOptions) :
    Feasible initial (start initial options) where
  coherent := coherent_start initial options
  fits := .nil initial
  offered _ h := by cases h

variable {initial : Schema} {q : Query}

/-- An answer keeps the invariant. -/
theorem Feasible.submit (h : Feasible initial q) (answer : String) (source : Source) :
    Feasible initial (q.submit answer source).1 := by
  have hcoherent := h.coherent.submit answer source
  have hstep := submit_step q answer source
  generalize q.submit answer source = result at hstep hcoherent
  cases hstep with
  | ended hquestion => exact h
  | refused hquestion houtcome hlimit => exact ⟨hcoherent, h.fits, h.offered⟩
  | exhausted hquestion houtcome hoptions hlimit =>
    have hphase : q.tally.phase ≠ .finished := phase_ne_finished hquestion
    refine ⟨hcoherent, ?_, fun p hp => ?_⟩
    · rw [discard_committed]
      exact h.fits
    · rw [discard_phase hphase] at hp
      cases hp
  | stopped hphase hresolved => exact ⟨hcoherent, h.fits, fun p hp => by cases hp⟩
  | chosen hphase hkind htargets =>
    refine ⟨hcoherent, h.fits, fun p hp => ?_⟩
    cases hp
    exact Pending.offered_of_nil rfl
  | answered hphase hround hoffered hmore =>
    refine ⟨hcoherent, h.fits, fun p hp => ?_⟩
    cases hp
    exact (h.offered _ hphase).answer hround hoffered
  | @committed p round resolved t hphase hround hoffered hlast hbuilt =>
    refine ⟨hcoherent, ?_, fun p hp => by cases hp⟩
    have hlength := Kind.length_le_rounds (h.coherent.pending p hphase).2 resolved
    have hfits := hbuilt.fits ((h.offered p hphase).answer hround hoffered) hlength
    rw [h.coherent.schema_eq] at hfits
    exact h.fits.concat hfits

/-- Answers keep the invariant. -/
theorem Feasible.submitAll (h : Feasible initial q) (answers : List (String × Source)) :
    Feasible initial (q.submitAll answers) :=
  submitAll_induction (fun _ answer source h => h.submit answer source) h answers

/-- **What a query committed can be executed up to the first use of `GroupKey`.**  On the
table whose schema the query started on, the committed plan succeeds exactly when no step
uses the aggregate, and leads to the schema of the query; otherwise it fails at the first
step that does, for no other reason. -/
theorem execute_committed {t : Table} (ht : t.WellFormed) (options : QueryOptions)
    (given : List (String × Source)) :
    let q := (start t.schema options).submitAll given
    ((∃ e, q.committed.execute t = .ok e) ↔
      ∀ column keys, .groupBy column .groupKey keys ∉ q.committed) ∧
    (∀ e, q.committed.execute t = .ok e → e.table.schema = q.schema) ∧
    (∀ e, q.committed.execute t = .error e →
      e.kind = .groupBy ∧ e.cause = .unsupported .groupKey ∧
      (∃ column keys, q.committed[e.step]? = some (.groupBy column .groupKey keys)) ∧
      ∀ i < e.step, ∀ column keys,
        q.committed[i]? ≠ some (.groupBy column .groupKey keys)) := by
  intro q
  have h : Feasible t.schema q := (feasible_start t.schema options).submitAll given
  refine ⟨⟨?_, fun hfree => ?_⟩, ?_, ?_⟩
  · rintro ⟨e, he⟩ column keys hmem
    have huses := (Plan.applied_of_executeFrom he).usesGroupKey_eq _ hmem
    cases huses
  · have hfree : ∀ tr ∈ q.committed, tr.usesGroupKey = false := by
      intro tr htr
      cases huses : tr.usesGroupKey with
      | false => rfl
      | true =>
        obtain ⟨column, keys, rfl⟩ := Transformation.usesGroupKey_iff.1 huses
        exact absurd htr (hfree column keys)
    obtain ⟨u, hu⟩ := h.fits.exists_applied ht hfree
    exact hu.exists_executeFrom 0
  · intro e he
    rw [(Plan.applied_of_executeFrom he).schema_eq ht, h.coherent.schema_eq]
  · intro e he
    obtain ⟨hkind, hcause, i, hi, ⟨tr, htr, huses⟩, hbefore⟩ := h.fits.error_eq ht he
    rw [Nat.zero_add] at hi
    obtain ⟨column, keys, rfl⟩ := Transformation.usesGroupKey_iff.1 huses
    refine ⟨hkind, hcause, ⟨column, keys, hi ▸ htr⟩, fun j hj column keys hstep => ?_⟩
    have := hbefore j (hi ▸ hj) _ hstep
    cases this

/-- Three transformations, the second of which uses the reserved aggregate. -/
def teamAnswers : List (String × Source) :=
  ["SortBy", "Rank", "Descending", "GroupBy", "Team", "GroupKey", "DropColumn", "Name"].map
    (·, .live)

theorem execute_committed_people :
    let q := (start Table.people.schema {}).submitAll teamAnswers
    Table.people.WellFormed ∧
    q.committed =
      [.sortBy "Rank" .descending, .groupBy "Team" .groupKey .empty, .dropColumn ["Name"]] ∧
    ∃ e, q.committed.execute Table.people = .error e ∧ e.step = 1 ∧ e.kind = .groupBy ∧
      e.cause = .unsupported .groupKey := by
  intro q
  have ht : Table.people.WellFormed := by decide
  have hcommitted : q.committed =
      [.sortBy "Rank" .descending, .groupBy "Team" .groupKey .empty, .dropColumn ["Name"]] := rfl
  obtain ⟨hiff, -, herror⟩ := execute_committed ht {} teamAnswers
  refine ⟨ht, hcommitted, ?_⟩
  cases he : q.committed.execute Table.people with
  | ok e =>
    refine absurd ?_ (hiff.1 ⟨e, he⟩ "Team" .empty)
    show _ ∈ q.committed
    rw [hcommitted]
    exact List.mem_cons_of_mem _ List.mem_cons_self
  | error e =>
    obtain ⟨hkind, hcause, ⟨column, keys, hstep⟩, -⟩ := herror e he
    refine ⟨e, rfl, ?_, hkind, hcause⟩
    replace hstep : q.committed[e.step]? = some (.groupBy column .groupKey keys) := hstep
    rw [hcommitted] at hstep
    match hindex : e.step with
    | 0 => rw [hindex] at hstep; cases hstep
    | 1 => rfl
    | 2 => rw [hindex] at hstep; cases hstep
    | i + 3 => rw [hindex] at hstep; cases hstep

end Query
end TableTalk
