import TableTalk.Proofs.Sorting

/-!
# Filters earlier or later

A filter looks at one row at a time.  Whatever rows it meets and in whatever order, it keeps
those that satisfy its condition and leaves them in that order.  So it makes no difference
whether rows are filtered before or after a sort, another filter, or a removal of columns that
the condition does not look at.  A sort of fewer rows is another sort, but rows have only one
order.

## Main definitions

* `Condition.accepts` — whether a row satisfies a condition.
* `Transformation.Passable` — the transformations that a filter can be moved past.

## Main results

* `Table.filter_select` — what a filter keeps of some rows.
* `Table.exists_sort_filtered`, `Table.filter_keep` — filters with sorts and removals.
* `Transformation.filterBy_comm` — **a filter can be applied before or after.**
-/

namespace TableTalk

/-- Whether the row at a position satisfies a condition on a column. -/
def Condition.accepts (f : Condition) (c : Column) (i : Nat) : Bool :=
  (c.contents[i]?).any fun content =>
    f.relation.holds? c.header.type content f.literal == some true

theorem positionsOf_eq_filter (p : String → Bool) (contents : List String) :
    positionsOf p contents =
      (List.range contents.length).filter fun i => (contents[i]?).any p := by
  have hrange : List.range contents.length = contents.zipIdx.map (·.2) := by
    rw [List.zipIdx_map_snd, List.range_eq_range']
  rw [positionsOf_eq, hrange, List.filter_map]
  refine congrArg _ (List.filter_congr ?_)
  rintro ⟨content, i⟩ hmem
  rw [List.mk_mem_zipIdx_iff_getElem?] at hmem
  simp [hmem]

namespace Table

variable {t : Table} {c : Column} {f : Condition} {p : List Nat}

/-! ### What a filter keeps -/

/-- What a filter keeps of some rows, in whatever order they stand. -/
theorem filter_select (ht : t.WellFormed) (hp : ∀ i ∈ p, i < t.height)
    (hc : t.column? f.column = some c) (hrelation : f.relation ≠ .inRange) :
    (t.select p).filter f = .ok (t.select (p.filter (f.accepts c))) := by
  obtain ⟨hmem, -⟩ := mem_of_column? hc
  have hcolumn : (t.select p).column? f.column = some (c.select p) := by
    rw [column?_select, hc, Option.map_some]
  have hlength : (c.select p).contents.length = p.length := by
    rw [Column.length_contents]
    exact Column.size_select_of_lt fun i hi => ht.2 c hmem ▸ hp i hi
  -- The filter looks at the row at place `k` of the given rows, which is the row at `p[k]`.
  have hplaces : through p (positionsOf
      (fun content => f.relation.holds? c.header.type content f.literal == some true)
      (c.select p).contents) = p.filter (f.accepts c) := by
    have hall := List.filterMap_getElem?_range p
    rw [positionsOf_eq_filter, hlength, through, List.filterMap_filter]
    conv_rhs => rw [← hall, List.filter_filterMap]
    refine List.filterMap_congr fun k hk => ?_
    have hk : k < p.length := List.mem_range.1 hk
    have hi : p[k]? = some p[k] := List.getElem?_eq_getElem hk
    rw [getElem?_contents_select ht hmem hp hi, hi]
    rfl
  rw [← hplaces, ← select_select ht hp]
  exact Transformation.apply_eq_ok_iff.2 (.filterBy hcolumn hrelation)

/-- What a filter keeps of a table. -/
theorem filter_eq (ht : t.WellFormed) (hc : t.column? f.column = some c)
    (hrelation : f.relation ≠ .inRange) :
    t.filter f = .ok (t.select ((List.range t.height).filter (f.accepts c))) := by
  have h := filter_select ht (p := List.range t.height) (fun i hi => List.mem_range.1 hi) hc
    hrelation
  rwa [select_range ht] at h

/-! ### Filters and sorts -/

/-- Sorting what is kept and keeping of what is sorted put the same rows in order. -/
theorem exists_sort_filtered (ht : t.WellFormed) (hc : t.column? f.column = some c)
    (hrelation : f.relation ≠ .inRange) {name : String} {d : Column}
    (hd : t.column? name = some d) (direction : Direction) :
    ∃ u v, (t.select ((List.range t.height).filter (f.accepts c))).sort name direction = .ok u ∧
      t.sort name direction = .ok v ∧ v.filter f = .ok u := by
  have hrows : ∀ i ∈ List.range t.height, i < t.height := fun i hi => List.mem_range.1 hi
  obtain ⟨p, hp, hsort⟩ := exists_sort ht hd direction
  obtain ⟨q, hq, hsort'⟩ :=
    ((InOrder.range t.height).filter (f.accepts c)).exists_sort ht
      (fun i hi => hrows i (List.mem_filter.1 hi).1) hd direction
  have hsame : q = p.filter (f.accepts c) := hq.unique (hp.filter _)
  refine ⟨t.select q, t.select p, hsort', hsort, ?_⟩
  rw [hsame]
  exact filter_select ht (fun i hi => hrows i (hp.perm.subset hi)) hc hrelation

/-! ### Filters and removals -/

/-- Some rows of some columns. -/
theorem keep_select (t : Table) (p : List Nat) (keeps : String → Bool) :
    (t.select p).keep (fun c => keeps c.name) = (t.keep fun c => keeps c.name).select p := by
  rw [keep, columns_select, List.filter_map]
  rfl

/-- A column that is kept is found again. -/
theorem column?_keep (ht : t.WellFormed) (keeps : Column → Bool) {name : String}
    (hc : t.column? name = some c) (hkeeps : keeps c = true) :
    (t.keep keeps).column? name = some c := by
  obtain ⟨hmem, rfl⟩ := mem_of_column? hc
  exact (ht.keep keeps).column?_name (List.mem_filter.2 ⟨hmem, hkeeps⟩)

/-- A filter keeps the same rows whatever other columns there are. -/
theorem filter_keep (ht : t.WellFormed) (keeps : Column → Bool) (hc : t.column? f.column = some c)
    (hkeeps : keeps c = true) (hrelation : f.relation ≠ .inRange) :
    (t.keep keeps).filter f =
      .ok ((t.keep keeps).select ((List.range t.height).filter (f.accepts c))) := by
  have hc' := column?_keep ht keeps hc hkeeps
  have hheight : (t.keep keeps).height = t.height := by
    obtain ⟨hmem, -⟩ := mem_of_column? hc'
    rw [← (ht.keep keeps).2 c hmem, ht.2 c (List.mem_filter.1 hmem).1]
  rw [← hheight]
  exact filter_eq (ht.keep keeps) hc' hrelation

end Table

/-! ### Moving filters -/

namespace Transformation

/-- The transformations that a filter by a column can be moved past. -/
inductive Passable (names : List String) (column : String) : Transformation → Prop
  /-- A sort. -/
  | sortBy {other : String} (direction : Direction) (h : other ∈ names) :
    Passable names column (.sortBy other direction)
  /-- Another filter. -/
  | filterBy {other : Condition} (h : other.column ∈ names)
    (hrelation : other.relation ≠ .inRange) : Passable names column (.filterBy other)
  /-- A removal of other columns. -/
  | dropColumn {columns : List String} (h : ∀ name ∈ columns, name ∈ names)
    (hcolumn : column ∉ columns) : Passable names column (.dropColumn columns)

variable {t : Table} {f : Condition}

/-- **A filter can be applied before or after** a sort, another filter, or a removal of columns
that it does not look at: both ways the same rows are left, with the same cells and in the same
order. -/
theorem filterBy_comm (ht : t.WellFormed) (hf : f.column ∈ t.names)
    (hrelation : f.relation ≠ .inRange) {tr : Transformation}
    (htr : tr.Passable t.names f.column) :
    ∃ u, ((Transformation.filterBy f).apply t >>= fun v => tr.apply v) = .ok u ∧
      (tr.apply t >>= fun v => (Transformation.filterBy f).apply v) = .ok u := by
  obtain ⟨c, hc⟩ := Table.exists_column? hf
  have hfilter : (Transformation.filterBy f).apply t =
      .ok (t.select ((List.range t.height).filter (f.accepts c))) :=
    Table.filter_eq ht hc hrelation
  rw [hfilter, Except.ok_bind]
  cases htr with
  | @sortBy other direction hother =>
    obtain ⟨d, hd⟩ := Table.exists_column? hother
    obtain ⟨u, v, hsort, hsort', hfilter'⟩ :=
      Table.exists_sort_filtered ht hc hrelation hd direction
    refine ⟨u, hsort, ?_⟩
    rw [apply, hsort', Except.ok_bind]
    exact hfilter'
  | @filterBy other hother hrelation' =>
    -- A row is kept if it satisfies both conditions.
    obtain ⟨d, hd⟩ := Table.exists_column? hother
    have hrows : ∀ (g : Nat → Bool), ∀ i ∈ (List.range t.height).filter g, i < t.height :=
      fun g i hi => List.mem_range.1 (List.mem_filter.1 hi).1
    refine ⟨_, Table.filter_select ht (hrows _) hd hrelation', ?_⟩
    rw [apply, Table.filter_eq ht hd hrelation', Except.ok_bind, List.filter_comm]
    exact Table.filter_select ht (hrows _) hc hrelation
  | @dropColumn columns hcolumns hcolumn =>
    have hkeeps : (!columns.contains c.name) = true := by
      rw [(Table.mem_of_column? hc).2]
      simpa using hcolumn
    refine ⟨(t.keep fun c => !columns.contains c.name).select
      ((List.range t.height).filter (f.accepts c)), ?_, ?_⟩
    · rw [← Table.keep_select t _ fun name => !columns.contains name]
      refine apply_eq_ok_iff.2 (.dropColumn ?_)
      rwa [Table.names_select]
    · rw [apply_eq_ok_iff.2 (.dropColumn hcolumns), Except.ok_bind]
      exact Table.filter_keep ht (fun c => !columns.contains c.name) hc hkeeps hrelation

/-- The runners who are known to be faster than ten, the slowest of them first. -/
theorem filterBy_comm_heats :
    let f : Condition := ⟨"Time", .lessThan, "10.0"⟩
    let tr : Transformation := .sortBy "Time" .descending
    Table.heats.WellFormed ∧ f.column ∈ Table.heats.names ∧ f.relation ≠ .inRange ∧
      tr.Passable Table.heats.names f.column ∧
      ∃ u, ((Transformation.filterBy f).apply Table.heats >>= fun v => tr.apply v) = .ok u ∧
        (tr.apply Table.heats >>= fun v => (Transformation.filterBy f).apply v) = .ok u := by
  intro f tr
  have ht : Table.heats.WellFormed := by decide
  have hf : f.column ∈ Table.heats.names := by decide
  have hrelation : f.relation ≠ .inRange := by decide
  have htr : tr.Passable Table.heats.names f.column := .sortBy .descending (by decide)
  exact ⟨ht, hf, hrelation, htr, filterBy_comm ht hf hrelation htr⟩

end Transformation
end TableTalk
