import TableTalk.Plan.Execution
import TableTalk.Proofs.Failing
import TableTalk.Proofs.Gathering
import TableTalk.Proofs.Tables

/-!
# What transformations make of a table

A transformation takes rows of all columns alike, removes columns, or puts a new version of a
column in the place of an old one.  `Applied` says which of these it comes to, one case for
each kind, so that nothing behind it unfolds `Transformation.apply`.

## Main definitions

* `Transformation.Applied` — the table that a transformation makes of a table.
* `Plan.Applied` — the table that a plan makes of a table.
* `Transformation.obstacle?` — what keeps a transformation from being applied, from the names
  of the columns alone.

## Main results

* `Transformation.apply_eq_ok_iff` — applying yields exactly what is applied.
* `Plan.executeFrom_cons_eq_ok_iff` — executing goes step by step.
* `Transformation.Applied.wellFormed` — applying keeps a table well-formed.
* `Transformation.Applied.schema_eq` — the schema of the result is the one foretold.
* `Transformation.apply_eq_error_iff` — applying fails exactly where there is an obstacle.
* `Plan.applied_iff_execute` — what a plan makes of a table is what its execution leads to.
-/

namespace TableTalk

/-! ### What a transformation comes to -/

namespace Transformation

/-- The table that a transformation makes of a table. -/
inductive Applied (t : Table) : Transformation → Table → Prop
  /-- The table itself. -/
  | empty : Applied t .empty t
  /-- Fewer columns. -/
  | dropColumn {columns : List String} (hcolumns : ∀ name ∈ columns, name ∈ t.names) :
    Applied t (.dropColumn columns) (t.keep fun c => !columns.contains c.name)
  /-- All rows in another order. -/
  | sortBy {column : String} {c : Column} (direction : Direction)
    (hcolumn : t.column? column = some c) :
    Applied t (.sortBy column direction) (t.select (direction.positions c.header.type c.contents))
  /-- One row for each group, and a new version of the column that was grouped by. -/
  | groupBy {column : String} {c : Column} {aggregate : Aggregate} {keys : KeySet} {u : Table}
    (hcolumn : t.column? column = some c) (haggregate : aggregate ≠ .groupKey)
    (hreplace : (t.select (firstsOf (groupsOf c.header.type keys c.contents))).replace
      (Table.aggregated c aggregate (groupsOf c.header.type keys c.contents)) = .ok u) :
    Applied t (.groupBy column aggregate keys) u
  /-- The rows that satisfy a condition. -/
  | filterBy {condition : Condition} {c : Column}
    (hcolumn : t.column? condition.column = some c) (hrelation : condition.relation ≠ .inRange) :
    Applied t (.filterBy condition) (t.select (positionsOf
      (fun content =>
        condition.relation.holds? c.header.type content condition.literal == some true)
      c.contents))

theorem target_eq_ok_iff {t : Table} {name : String} {c : Column} :
    t.target name = .ok c ↔ t.column? name = some c := by
  unfold Table.target
  cases t.column? name <;> simp

theorem find?_unknown_eq_none_iff {t : Table} {columns : List String} :
    columns.find? (fun name => (t.column? name).isNone) = none ↔
      ∀ name ∈ columns, name ∈ t.names := by
  rw [List.find?_eq_none]
  refine forall₂_congr fun name _ => ?_
  rw [Option.isNone_iff_eq_none, Table.column?_eq_none_iff, not_not]

/-- A grouping takes the groups that are found key by key. -/
theorem group_eq_ok_iff {t u : Table} {column : String} {aggregate : Aggregate} {keys : KeySet} :
    t.group column aggregate keys = .ok u ↔ ∃ c, t.column? column = some c ∧
      aggregate ≠ .groupKey ∧
      (t.select (firstsOf (groupsOf c.header.type keys c.contents))).replace
        (Table.aggregated c aggregate (groupsOf c.header.type keys c.contents)) = .ok u := by
  constructor
  · intro h
    obtain ⟨c, hc, h⟩ := Except.bind_eq_ok_iff.1 h
    split at h
    · cases h
    · next haggregate =>
      have hreplace := Except.mapError_eq_ok_iff.1 h
      rw [Grouping.sorted_ofTexts] at hreplace
      exact ⟨c, target_eq_ok_iff.1 hc, by simpa using haggregate, hreplace⟩
  · rintro ⟨c, hc, haggregate, hreplace⟩
    rw [← Grouping.sorted_ofTexts] at hreplace
    simp only [Table.group, target_eq_ok_iff.2 hc, Except.ok_bind]
    rw [if_neg (by simpa using haggregate)]
    exact Except.mapError_eq_ok_iff.2 hreplace

/-- Applying yields exactly what is applied. -/
theorem apply_eq_ok_iff {t u : Table} {tr : Transformation} :
    tr.apply t = .ok u ↔ Applied t tr u := by
  constructor
  · intro h
    cases tr with
    | empty =>
      cases h
      exact .empty
    | dropColumn columns =>
      simp only [apply, Table.drop] at h
      split at h
      · cases h
      · next hnone =>
        cases h
        exact .dropColumn (find?_unknown_eq_none_iff.1 hnone)
    | sortBy column direction =>
      obtain ⟨c, hc, h⟩ := Except.bind_eq_ok_iff.1 h
      cases h
      exact .sortBy direction (target_eq_ok_iff.1 hc)
    | groupBy column aggregate keys =>
      obtain ⟨c, hc, haggregate, hreplace⟩ := group_eq_ok_iff.1 h
      exact .groupBy hc haggregate hreplace
    | filterBy condition =>
      obtain ⟨c, hc, h⟩ := Except.bind_eq_ok_iff.1 h
      split at h
      · cases h
      · next hrelation =>
        cases h
        exact .filterBy (target_eq_ok_iff.1 hc) (by simpa using hrelation)
  · intro h
    cases h with
    | empty => rfl
    | dropColumn hcolumns =>
      simp only [apply, Table.drop, find?_unknown_eq_none_iff.2 hcolumns]
    | sortBy direction hcolumn =>
      simp only [apply, Table.sort, target_eq_ok_iff.2 hcolumn, Except.ok_bind]
      rfl
    | groupBy hcolumn haggregate hreplace =>
      exact group_eq_ok_iff.2 ⟨_, hcolumn, haggregate, hreplace⟩
    | filterBy hcolumn hrelation =>
      simp only [apply, Table.filter, target_eq_ok_iff.2 hcolumn, Except.ok_bind]
      rw [if_neg (by simpa using hrelation)]
      rfl

variable {t u : Table} {tr : Transformation}

/-- Applying keeps a table well-formed. -/
theorem Applied.wellFormed (h : Applied t tr u) (ht : t.WellFormed) : u.WellFormed := by
  cases h with
  | empty => exact ht
  | dropColumn => exact ht.keep _
  | sortBy => exact ht.select _
  | groupBy hcolumn haggregate hreplace => exact (ht.select _).replace hreplace
  | filterBy => exact ht.select _

/-! ### The schema of the result -/

theorem schema_keep (columns : List String) :
    (t.keep fun c => !columns.contains c.name).schema =
      ⟨t.schema.headers.filter fun h => !columns.contains h.name⟩ := by
  simp only [Table.keep, Table.schema, List.filter_map]
  rfl

theorem name_aggregated (c : Column) (aggregate : Aggregate) (groups : List Group) :
    (Table.aggregated c aggregate groups).name = c.name := by
  unfold Table.aggregated Column.name
  dsimp only
  split <;> rfl

theorem size_aggregated (c : Column) (aggregate : Aggregate) (groups : List Group) :
    (Table.aggregated c aggregate groups).size = groups.length := by
  simp only [Table.aggregated, Column.size, List.length_map, List.length_zipIdx]

theorem schema_replace_aggregated (h : t.names.Nodup) {c : Column}
    (hc : ∀ d ∈ t.columns, d.name = c.name → d.header = c.header) {aggregate : Aggregate}
    {groups : List Group} (hu : t.replace (Table.aggregated c aggregate groups) = .ok u) :
    u.schema =
      if aggregate.yieldsNumber then promote t.schema c.name else t.schema := by
  obtain ⟨-, -, rfl⟩ := (Table.replace_eq_ok_iff h).1 hu
  simp only [Table.schema, promote, List.map_map, name_aggregated]
  cases hyields : aggregate.yieldsNumber with
  | false =>
    simp only [Bool.false_eq_true, if_false]
    congr 1
    refine List.map_congr_left fun d hd => ?_
    rw [Function.comp_apply]
    split
    · next heq =>
      rw [hc d hd heq]
      simp only [Table.aggregated, hyields, Bool.false_eq_true, if_false]
    · rfl
  | true =>
    simp only [if_true]
    congr 1
    refine List.map_congr_left fun d hd => ?_
    rw [Function.comp_apply, Function.comp_apply]
    by_cases heq : d.name = c.name
    · have hheader : d.header.name = c.name := heq
      rw [if_pos heq, if_pos (beq_iff_eq.2 hheader), hc d hd heq]
      simp only [Table.aggregated, hyields, if_true]
    · have hheader : ¬d.header.name = c.name := heq
      rw [if_neg heq, if_neg (by simpa using hheader)]

/-- The schema of the result is the one foretold from the schema alone. -/
theorem Applied.schema_eq (h : Applied t tr u) (ht : t.WellFormed) :
    u.schema = tr.preview t.schema := by
  cases h with
  | empty => rfl
  | dropColumn => exact schema_keep _
  | sortBy => exact Table.schema_select t _
  | @groupBy column c aggregate keys u hcolumn haggregate hreplace =>
    obtain ⟨hmem, rfl⟩ := Table.mem_of_column? hcolumn
    have hnames : (t.select (firstsOf (groupsOf c.header.type keys c.contents))).names.Nodup := by
      rw [Table.names_select]
      exact ht.1
    refine (schema_replace_aggregated hnames ?_ hreplace).trans ?_
    · intro d hd hname
      obtain ⟨e, he, rfl⟩ := List.mem_map.1 hd
      have : e = c := List.inj_on_of_nodup_map ht.1 he hmem hname
      rw [this]
      rfl
    · rw [Table.schema_select]
      rfl
  | filterBy => exact Table.schema_select t _

/-! ### What keeps a transformation from being applied -/

/-- What keeps a transformation from being applied to a table of the given column names. -/
def obstacle? (names : List String) : Transformation → Option TransformError
  | .empty => none
  | .dropColumn columns =>
    (columns.find? fun name => !names.contains name).map .unknownTarget
  | .sortBy column _ => if names.contains column then none else some (.unknownTarget column)
  | .groupBy column aggregate _ =>
    if names.contains column then
      if aggregate == .groupKey then some (.unsupported .groupKey) else none
    else some (.unknownTarget column)
  | .filterBy condition =>
    if names.contains condition.column then
      if condition.relation == .inRange then some (.unsupported .inRange) else none
    else some (.unknownTarget condition.column)

theorem target_of_notMem {name : String} (h : name ∉ t.names) :
    t.target name = .error (.unknownTarget name) := by
  unfold Table.target
  rw [Table.column?_eq_none_iff.2 h]

/-- The aggregated column is as long as the others. -/
theorem exists_replace_aggregated (ht : t.WellFormed) {column : String} {c : Column}
    (hcolumn : t.column? column = some c) (aggregate : Aggregate) (keys : KeySet) :
    ∃ u, (t.select (firstsOf (groupsOf c.header.type keys c.contents))).replace
      (Table.aggregated c aggregate (groupsOf c.header.type keys c.contents)) = .ok u := by
  obtain ⟨hmem, -⟩ := Table.mem_of_column? hcolumn
  have hnames := (ht.select (firstsOf (groupsOf c.header.type keys c.contents))).1
  refine ⟨_, (Table.replace_eq_ok_iff hnames).2 ⟨?_, ?_, rfl⟩⟩
  · rw [size_aggregated, Table.height_select _ (List.ne_nil_of_mem hmem), length_firstsOf]
    intro i hi
    rw [← ht.2 c hmem, ← c.length_contents]
    exact lt_of_mem_firstsOf hi
  · rw [name_aggregated, Table.names_select]
    exact Table.mem_names.2 ⟨c, hmem, rfl⟩

/-- A transformation fails with its obstacle, and without one it is applied. -/
theorem obstacle?_cases (ht : t.WellFormed) (tr : Transformation) :
    (∃ e, tr.obstacle? t.names = some e ∧ tr.apply t = .error e) ∨
      (tr.obstacle? t.names = none ∧ ∃ u, Applied t tr u) := by
  cases tr with
  | empty => exact .inr ⟨rfl, t, .empty⟩
  | dropColumn columns =>
    have htest : (fun name => (t.column? name).isNone) = fun name => !t.names.contains name := by
      funext name
      rw [Bool.eq_iff_iff, Option.isNone_iff_eq_none, Table.column?_eq_none_iff]
      simp
    cases hfind : columns.find? fun name => !t.names.contains name with
    | none =>
      refine .inr ⟨by rw [obstacle?, hfind]; rfl, _, .dropColumn ?_⟩
      rw [← find?_unknown_eq_none_iff, htest, hfind]
    | some name =>
      refine .inl ⟨.unknownTarget name, by rw [obstacle?, hfind]; rfl, ?_⟩
      simp only [apply, Table.drop, htest, hfind]
  | sortBy column direction =>
    by_cases hcolumn : column ∈ t.names
    · obtain ⟨c, hc⟩ := Table.exists_column? hcolumn
      exact .inr ⟨by simp [obstacle?, hcolumn], _, .sortBy direction hc⟩
    · refine .inl ⟨.unknownTarget column, by simp [obstacle?, hcolumn], ?_⟩
      rw [apply, Table.sort, target_of_notMem hcolumn, Except.error_bind]
  | groupBy column aggregate keys =>
    by_cases hcolumn : column ∈ t.names
    · obtain ⟨c, hc⟩ := Table.exists_column? hcolumn
      by_cases haggregate : aggregate = .groupKey
      · refine .inl ⟨.unsupported .groupKey, by simp [obstacle?, hcolumn, haggregate], ?_⟩
        rw [apply, Table.group, target_eq_ok_iff.2 hc, Except.ok_bind, haggregate]
        rfl
      · obtain ⟨u, hu⟩ := exists_replace_aggregated ht hc aggregate keys
        exact .inr ⟨by simp [obstacle?, hcolumn, haggregate], u, .groupBy hc haggregate hu⟩
    · refine .inl ⟨.unknownTarget column, by simp [obstacle?, hcolumn], ?_⟩
      rw [apply, Table.group, target_of_notMem hcolumn, Except.error_bind]
  | filterBy condition =>
    by_cases hcolumn : condition.column ∈ t.names
    · obtain ⟨c, hc⟩ := Table.exists_column? hcolumn
      by_cases hrelation : condition.relation = .inRange
      · refine .inl ⟨.unsupported .inRange, by simp [obstacle?, hcolumn, hrelation], ?_⟩
        rw [apply, Table.filter, target_eq_ok_iff.2 hc, Except.ok_bind, hrelation]
        rfl
      · exact .inr ⟨by simp [obstacle?, hcolumn, hrelation], _, .filterBy hc hrelation⟩
    · refine .inl ⟨.unknownTarget condition.column, by simp [obstacle?, hcolumn], ?_⟩
      rw [apply, Table.filter, target_of_notMem hcolumn, Except.error_bind]

theorem exists_applied (ht : t.WellFormed) (h : tr.obstacle? t.names = none) :
    ∃ u, Applied t tr u := by
  rcases obstacle?_cases ht tr with ⟨e, he, -⟩ | ⟨-, hu⟩
  · rw [h] at he
    cases he
  · exact hu

/-- Applying fails exactly where there is an obstacle, and with it. -/
theorem apply_eq_error_iff (ht : t.WellFormed) {e : TransformError} :
    tr.apply t = .error e ↔ tr.obstacle? t.names = some e := by
  rcases obstacle?_cases ht tr with ⟨e', he, happly⟩ | ⟨hnone, u, hu⟩
  · rw [he, happly, Except.error.injEq, Option.some_inj]
  · rw [hnone, apply_eq_ok_iff.2 hu]
    simp

end Transformation

/-! ### What a plan comes to -/

namespace Plan

/-- The table that a plan makes of a table. -/
inductive Applied : Table → Plan → Table → Prop
  /-- Without a step, the table itself. -/
  | nil (t : Table) : Applied t [] t
  /-- The table that the other steps make of what the first one makes. -/
  | cons {t u v : Table} {tr : Transformation} {trs : Plan} (head : tr.Applied t u)
    (tail : Applied u trs v) : Applied t (tr :: trs) v

/-- A step is applied, and the steps behind it are executed on what it leads to. -/
theorem executeFrom_cons_eq_ok_iff {index : Nat} {t : Table} {tr : Transformation} {plan : Plan}
    {e : Execution} :
    executeFrom index t (tr :: plan) = .ok e ↔ ∃ u rest, Transformation.Applied t tr u ∧
      executeFrom (index + 1) u plan = .ok rest ∧
      e = { rest with steps := .of index tr t u :: rest.steps } := by
  constructor
  · intro h
    obtain ⟨u, hu, h⟩ := Except.bind_eq_ok_iff.1 h
    obtain ⟨rest, hrest, h⟩ := Except.bind_eq_ok_iff.1 h
    cases h
    exact ⟨u, rest, Transformation.apply_eq_ok_iff.1 (Except.mapError_eq_ok_iff.1 hu), hrest, rfl⟩
  · rintro ⟨u, rest, hu, hrest, rfl⟩
    refine Except.bind_eq_ok_iff.2 ⟨u, ?_, Except.bind_eq_ok_iff.2 ⟨rest, hrest, rfl⟩⟩
    exact Except.mapError_eq_ok_iff.2 (Transformation.apply_eq_ok_iff.2 hu)

theorem applied_of_executeFrom {index : Nat} {t : Table} {plan : Plan} {e : Execution}
    (h : executeFrom index t plan = .ok e) : Applied t plan e.table := by
  induction plan generalizing index t e with
  | nil =>
    cases h
    exact .nil t
  | cons tr trs ih =>
    obtain ⟨u, rest, hu, hrest, rfl⟩ := executeFrom_cons_eq_ok_iff.1 h
    have htail := ih hrest
    exact .cons hu htail

theorem Applied.exists_executeFrom {t u : Table} {plan : Plan} (h : Applied t plan u)
    (index : Nat) : ∃ e, executeFrom index t plan = .ok e := by
  induction h generalizing index with
  | nil t => exact ⟨⟨t, []⟩, rfl⟩
  | cons head tail ih =>
    obtain ⟨rest, hrest⟩ := ih (index + 1)
    exact ⟨_, executeFrom_cons_eq_ok_iff.2 ⟨_, rest, head, hrest, rfl⟩⟩

theorem Applied.wellFormed {t u : Table} {plan : Plan} (h : Applied t plan u)
    (ht : t.WellFormed) : u.WellFormed := by
  induction h with
  | nil => exact ht
  | cons head tail ih => exact ih (head.wellFormed ht)

theorem Applied.schema_eq {t u : Table} {plan : Plan} (h : Applied t plan u)
    (ht : t.WellFormed) : u.schema = plan.preview t.schema := by
  induction h with
  | nil => rfl
  | @cons t u v tr trs head tail ih =>
    rw [ih (head.wellFormed ht), head.schema_eq ht]
    rfl

theorem applied_append_iff {t v : Table} {front rest : Plan} :
    Applied t (front ++ rest) v ↔ ∃ u, Applied t front u ∧ Applied u rest v := by
  induction front generalizing t with
  | nil =>
    constructor
    · exact fun h => ⟨t, .nil t, h⟩
    · rintro ⟨u, ⟨⟩, h⟩
      exact h
  | cons tr front ih =>
    constructor
    · intro h
      cases h with
      | cons head tail =>
        obtain ⟨u, hfront, hrest⟩ := ih.1 tail
        exact ⟨u, .cons head hfront, hrest⟩
    · rintro ⟨u, h, hrest⟩
      cases h with
      | cons head tail => exact .cons head (ih.2 ⟨u, tail, hrest⟩)

theorem Applied.unique {t u v : Table} {plan : Plan} (hu : Applied t plan u)
    (hv : Applied t plan v) : u = v := by
  induction hu with
  | nil =>
    cases hv
    rfl
  | cons head tail ih =>
    cases hv with
    | cons head' tail' =>
      have hsame := (Transformation.apply_eq_ok_iff.2 head).symm.trans
        (Transformation.apply_eq_ok_iff.2 head')
      cases hsame
      exact ih tail'

/-- What a plan makes of a table is what its execution leads to. -/
theorem applied_iff_execute {t u : Table} {plan : Plan} :
    Applied t plan u ↔ ∃ e, plan.execute t = .ok e ∧ e.table = u := by
  constructor
  · intro h
    obtain ⟨e, he⟩ := h.exists_executeFrom 0
    exact ⟨e, he, (applied_of_executeFrom he).unique h⟩
  · rintro ⟨e, he, rfl⟩
    exact applied_of_executeFrom he

end Plan
end TableTalk
