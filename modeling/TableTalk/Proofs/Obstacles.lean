import TableTalk.Proofs.Applying

/-!
# Obstacles are a matter of names

What keeps a transformation from being applied is found by looking at names alone: at those of
the columns, at the ones that the transformation works on, and at the words that are reserved.
Which names are left behind a transformation is a matter of names again.  So the first obstacle
of a plan is known before any cell is read, and two tables with the same set of names meet the
same one at the same step, whatever is in their cells, however their columns are ordered and
typed, and also if one of them has no rows at all.

## Main definitions

* `Transformation.remaining` — the names that are left behind a transformation.
* `Plan.obstacle?` — the first obstacle of a plan.

## Main results

* `Transformation.Applied.names_eq` — the names of the result.
* `Plan.executeFrom_eq_error_iff` — executing a plan fails exactly where there is an obstacle.
* `Plan.error_of_names` — **a plan fails on two tables of the same names alike, for want of a
  column or at a reserved word.**
-/

namespace TableTalk

/-! ### One transformation -/

namespace Transformation

/-- The names that are left behind a transformation. -/
def remaining (names : List String) : Transformation → List String
  | .dropColumn columns => names.filter fun name => !columns.contains name
  | _ => names

/-- The names of the result depend on the names alone. -/
theorem Applied.names_eq {t u : Table} {tr : Transformation} (h : Applied t tr u)
    (ht : t.WellFormed) : u.names = tr.remaining t.names := by
  cases h with
  | empty => rfl
  | dropColumn =>
    simp only [Table.names, Table.keep, remaining, List.filter_map]
    rfl
  | sortBy => exact Table.names_select t _
  | @groupBy column c aggregate keys u hcolumn haggregate hreplace =>
    have hselect := t.names_select (firstsOf (groupsOf c.header.type keys c.contents))
    have hnodup : (t.select (firstsOf (groupsOf c.header.type keys c.contents))).names.Nodup := by
      rw [hselect]
      exact ht.1
    rw [Table.names_replace hnodup hreplace, hselect]
    rfl
  | filterBy => exact Table.names_select t _

section

variable {names names' : List String} (h : ∀ name, name ∈ names ↔ name ∈ names')

include h

theorem contains_congr (name : String) : names.contains name = names'.contains name := by
  rw [Bool.eq_iff_iff, List.contains_iff_mem, List.contains_iff_mem]
  exact h name

/-- The same names present the same obstacle. -/
theorem obstacle?_congr (tr : Transformation) : tr.obstacle? names = tr.obstacle? names' := by
  have hcontains := contains_congr h
  cases tr with
  | empty => rfl
  | dropColumn | sortBy | groupBy | filterBy => simp only [obstacle?, hcontains]

/-- Of the same names the same ones are left. -/
theorem mem_remaining_congr (tr : Transformation) (name : String) :
    name ∈ tr.remaining names ↔ name ∈ tr.remaining names' := by
  cases tr with
  | dropColumn columns =>
    simp only [remaining, List.mem_filter]
    exact and_congr_left fun _ => h name
  | empty | sortBy | groupBy | filterBy => exact h name

end

/-- An obstacle is a column that is not there, or a reserved word. -/
theorem obstacle?_eq_some {names : List String} {tr : Transformation} {e : TransformError}
    (h : tr.obstacle? names = some e) :
    (∃ name ∈ tr.targets, name ∉ names ∧ e = .unknownTarget name) ∨
      ∃ feature, e = .unsupported feature := by
  cases tr with
  | empty => cases h
  | dropColumn columns =>
    obtain ⟨name, hfind, rfl⟩ := Option.map_eq_some_iff.1 h
    have hname := List.find?_some hfind
    exact .inl ⟨name, List.mem_of_find?_eq_some hfind, by simpa using hname, rfl⟩
  | sortBy column direction =>
    simp only [obstacle?] at h
    split at h
    · cases h
    · next hcolumn =>
      cases h
      exact .inl ⟨column, List.mem_cons_self, by simpa using hcolumn, rfl⟩
  | groupBy column aggregate keys =>
    simp only [obstacle?] at h
    split at h
    · split at h <;> cases h
      exact .inr ⟨.groupKey, rfl⟩
    · next hcolumn =>
      cases h
      exact .inl ⟨column, List.mem_cons_self, by simpa using hcolumn, rfl⟩
  | filterBy condition =>
    simp only [obstacle?] at h
    split at h
    · split at h <;> cases h
      exact .inr ⟨.inRange, rfl⟩
    · next hcolumn =>
      cases h
      exact .inl ⟨condition.column, List.mem_cons_self, by simpa using hcolumn, rfl⟩

end Transformation

/-! ### A plan -/

namespace Plan

/-- The first obstacle of a plan, the first step of which has the given position. -/
def obstacle? (index : Nat) (names : List String) : Plan → Option ExecutionError
  | [] => none
  | t :: ts =>
    match t.obstacle? names with
    | some cause => some ⟨index, t.kind, cause⟩
    | none => obstacle? (index + 1) (t.remaining names) ts

/-- Executing a plan fails exactly where there is an obstacle, and with it. -/
theorem executeFrom_eq_error_iff {index : Nat} {t : Table} (ht : t.WellFormed) {plan : Plan}
    {e : ExecutionError} :
    executeFrom index t plan = .error e ↔ obstacle? index t.names plan = some e := by
  induction plan generalizing index t with
  | nil => simp [executeFrom, obstacle?]
  | cons tr trs ih =>
    rw [executeFrom, Except.bind_eq_error_iff]
    rcases Transformation.obstacle?_cases ht tr with ⟨cause, hcause, happly⟩ | ⟨hnone, u, hu⟩
    · rw [happly]
      simp [obstacle?, hcause]
    · have happly := Transformation.apply_eq_ok_iff.2 hu
      have hrest := @ih (index + 1) u (hu.wellFormed ht)
      rw [hu.names_eq ht] at hrest
      rw [happly]
      simp only [obstacle?, hnone, ← hrest, Except.mapError_ok, reduceCtorEq, false_or,
        Except.ok.injEq, exists_eq_left', Except.bind_eq_error_iff]
      -- Behind the steps that follow only their reports are put together.
      refine or_iff_left ?_
      rintro ⟨rest, -, h⟩
      cases h

theorem obstacle?_congr {index : Nat} {names names' : List String}
    (h : ∀ name, name ∈ names ↔ name ∈ names') (plan : Plan) :
    obstacle? index names plan = obstacle? index names' plan := by
  induction plan generalizing index names names' with
  | nil => rfl
  | cons tr trs ih =>
    rw [obstacle?, obstacle?, tr.obstacle?_congr h, ih (tr.mem_remaining_congr h)]

theorem cause_of_obstacle? {index : Nat} {names : List String} {plan : Plan} {e : ExecutionError}
    (h : obstacle? index names plan = some e) :
    (∃ name, e.cause = .unknownTarget name) ∨ ∃ feature, e.cause = .unsupported feature := by
  induction plan generalizing index names with
  | nil => cases h
  | cons tr trs ih =>
    rw [obstacle?] at h
    split at h
    · next cause hcause =>
      cases h
      rcases Transformation.obstacle?_eq_some hcause with ⟨name, -, -, rfl⟩ | ⟨feature, rfl⟩
      · exact .inl ⟨name, rfl⟩
      · exact .inr ⟨feature, rfl⟩
    · exact ih h

/-- **A plan fails on two tables of the same names alike**: at the same step and for the same
cause, or on neither.  The cause is a column that is not there or a reserved word, and never
that the result would not be a table. -/
theorem error_of_names {t u : Table} (ht : t.WellFormed) (hu : u.WellFormed)
    (hnames : ∀ name, name ∈ t.names ↔ name ∈ u.names) (plan : Plan) (e : ExecutionError) :
    (plan.execute t = .error e ↔ plan.execute u = .error e) ∧
      (plan.execute t = .error e →
        (∃ name, e.cause = .unknownTarget name) ∨ ∃ feature, e.cause = .unsupported feature) := by
  have hobstacle : plan.execute t = .error e ↔ obstacle? 0 t.names plan = some e :=
    executeFrom_eq_error_iff ht
  refine ⟨?_, fun h => cause_of_obstacle? (hobstacle.1 h)⟩
  rw [hobstacle, obstacle?_congr hnames plan]
  exact (executeFrom_eq_error_iff hu).symm

/-- The columns of people in another order and with other types, and nobody. -/
def nobody : Table := ⟨[
  .ofValues ⟨"Rank", .number, 0⟩ [],
  .ofValues ⟨"Name", .date, 1⟩ [],
  .ofValues ⟨"Team", .bool, 2⟩ []]⟩

/-- Two steps that can be executed, a condition with a reserved relation, and a column that is
gone by then. -/
def ranged : Plan := [
  .sortBy "Rank" .descending, .dropColumn ["Name"], .filterBy ⟨"Team", .inRange, "a"⟩,
  .sortBy "Name" .ascending]

/-- Without any row to be tested the reserved relation is an obstacle all the same. -/
theorem error_of_names_nobody :
    Table.people.WellFormed ∧ nobody.WellFormed ∧
    (∀ name, name ∈ Table.people.names ↔ name ∈ nobody.names) ∧
    ranged.execute Table.people = .error ⟨2, .filterBy, .unsupported .inRange⟩ ∧
    ranged.execute nobody = .error ⟨2, .filterBy, .unsupported .inRange⟩ := by
  have ht : Table.people.WellFormed := by decide
  have hu : nobody.WellFormed := by decide
  have hnames : ∀ name, name ∈ Table.people.names ↔ name ∈ nobody.names := by
    have hperm : Table.people.names.Perm nobody.names := by decide
    exact fun name => hperm.mem_iff
  have hobstacle : obstacle? 0 Table.people.names ranged =
      some ⟨2, .filterBy, .unsupported .inRange⟩ := by decide
  have herror := (executeFrom_eq_error_iff ht).2 hobstacle
  exact ⟨ht, hu, hnames, herror, (error_of_names ht hu hnames ranged _).1.1 herror⟩

end Plan
end TableTalk
