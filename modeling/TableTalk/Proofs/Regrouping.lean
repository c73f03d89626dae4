import TableTalk.Proofs.Grouping

/-!
# Groupings of the same rows in another order

The order of the rows says which row of a key is the first, so it shows in the columns that were
not grouped by.  In the column that was grouped by it does not show, if the texts of a key are
added up or counted.

A sum of rounded numbers does depend on the order of its terms.  But the texts of a key are all
the same, white space around them aside, so they read as the same number or do not read at all:
the numbers of a key are one number as many times as there are texts.  The keys themselves stand
in an order of their own, whatever row has them first.

## Main definitions

* `Table.Reordered` — a table with the same rows in any order.

## Main results

* `Table.Rearranged.reordered` — a table whose rows were moved as a whole has the same rows.
* `numbers_eq` — the numbers of a key.
* `Aggregate.combine_of_perm` — what sums and counts make of texts in another order.
* `Table.exists_regrouped` — **a grouping makes the same column of the same rows.**
-/

namespace TableTalk

variable {c c' : Column} {aggregate : Aggregate} {keys : KeySet}

/-! ### The same rows -/

namespace Table

/-- The table `u` has the rows of `t` in any order, whatever rows its cells remember. -/
structure Reordered (t u : Table) : Prop where
  /-- The columns have distinct names and equal lengths. -/
  wellFormed : u.WellFormed
  /-- The columns are the same. -/
  schema_eq : u.schema = t.schema
  /-- The rows have the same texts. -/
  rows_perm : u.rows.Perm t.rows

variable {t u : Table} {p : List Nat}

/-- The texts of a row are those of its cells. -/
theorem rowAt_eq_map_cellsAt (t : Table) (i : Nat) :
    t.rowAt i = (t.cellsAt i).map fun cell => (cell.map Cell.content).getD "" := by
  rw [rowAt, cellsAt, List.map_map]
  refine List.map_congr_left fun c _ => ?_
  rw [Column.contents, List.getElem?_map]
  rfl

/-- A table whose rows were moved as a whole has the same rows. -/
theorem Rearranged.reordered (ht : t.WellFormed) (h : t.Rearranged p u) : t.Reordered u := by
  refine ⟨h.wellFormed, h.schema_eq, ?_⟩
  have hrows : u.rows = p.map t.rowAt := by
    rw [h.wellFormed.rows_eq, h.height_eq]
    refine List.ext_getElem (by simp [h.perm.length_eq]) fun i hi hlt => ?_
    have hp : i < p.length := by simpa using hlt
    rw [List.getElem_map, List.getElem_range, List.getElem_map, rowAt_eq_map_cellsAt,
      rowAt_eq_map_cellsAt, h.cellsAt_eq i _ (List.getElem?_eq_getElem hp)]
  rw [hrows, ht.rows_eq]
  exact h.perm.map _

/-- A column of a table with the same rows has the same texts. -/
theorem Reordered.exists_column? (h : t.Reordered u) (ht : t.WellFormed) {column : String}
    (hc : t.column? column = some c) :
    ∃ c', u.column? column = some c' ∧ c'.header = c.header ∧ c'.contents.Perm c.contents := by
  obtain ⟨hmem, rfl⟩ := mem_of_column? hc
  obtain ⟨j, hj⟩ := List.mem_iff_getElem?.1 hmem
  have hheader : (u.columns[j]?).map Column.header = some c.header := by
    have hheaders : u.columns.map Column.header = t.columns.map Column.header :=
      congrArg Schema.headers h.schema_eq
    rw [← List.getElem?_map, hheaders, List.getElem?_map, hj, Option.map_some]
  obtain ⟨c', hc', hheader⟩ := Option.map_eq_some_iff.1 hheader
  refine ⟨c', ?_, hheader, ?_⟩
  · have hfound := h.wellFormed.column?_name (List.mem_of_getElem? hc')
    rwa [Column.name, hheader] at hfound
  · rw [h.wellFormed.contents_eq hc', ht.contents_eq hj]
    exact h.rows_perm.map _

end Table

/-! ### Texts of one key -/

variable {values values' : List String} {k : String}

theorem readNumber?_trim (s : String) : readNumber? (Text.trim s) = readNumber? s := by
  rw [readNumber?, readNumber?, Text.trim_trim]

/-- The numbers of a key are one number over and over, or there are none. -/
theorem numbers_eq (h : ∀ s ∈ values, Text.trim s = k) :
    values.filterMap readNumber? = (List.replicate values.length k).filterMap readNumber? := by
  induction values with
  | nil => rfl
  | cons s values ih =>
    obtain ⟨hs, hvalues⟩ := List.forall_mem_cons.1 h
    rw [List.length_cons, List.replicate_succ, List.filterMap_cons, List.filterMap_cons,
      ih hvalues, ← hs, readNumber?_trim]

theorem Aggregate.yieldsNumber_iff :
    aggregate.yieldsNumber = true ↔ aggregate ∈ [.sum, .mean, .countDistinct, .countAll] := by
  cases aggregate <;> decide

theorem Aggregate.ne_groupKey (h : aggregate.yieldsNumber = true) : aggregate ≠ .groupKey := by
  rintro rfl
  cases h

/-- What sums and counts make of the texts of a key does not depend on the order of the texts. -/
theorem Aggregate.combine_of_perm (hperm : values'.Perm values)
    (hvalues : ∀ s ∈ values, Text.trim s = k) (hyields : aggregate.yieldsNumber = true) :
    aggregate.combine values' = aggregate.combine values := by
  have hnumbers : values'.filterMap readNumber? = values.filterMap readNumber? := by
    rw [numbers_eq hvalues, numbers_eq fun s hs => hvalues s (hperm.subset hs), hperm.length_eq]
  cases aggregate with
  | sum | mean => simp only [combine, hnumbers]
  | countDistinct =>
    simp only [combine, List.length_eraseDups_eq_card, List.toFinset_eq_of_perm _ _ hperm]
  | countAll => simp only [combine, hperm.length_eq]
  | concat | groupKey => cases hyields

theorem Column.trim_of_mem_valuesOf {s : String} (h : s ∈ c.valuesOf k) : Text.trim s = k := by
  simpa using List.of_mem_filter h

/-- There are the same keys among texts in another order. -/
theorem groupKeys_of_perm {type : ColumnType} (hperm : values'.Perm values) :
    groupKeys type keys values' = groupKeys type keys values := by
  refine eq_groupKeys (fun k => ?_) (pairwise_groupKeys type keys values')
  rw [mem_groupKeys_iff]
  simp only [hperm.mem_iff]

/-! ### Tables -/

namespace Table

variable {t t' : Table}

/-- The column that was grouped by does not depend on the order of the texts. -/
theorem aggregated_of_perm (hheader : c'.header = c.header) (hperm : c'.contents.Perm c.contents)
    (hyields : aggregate.yieldsNumber = true) (type : ColumnType) (keys : KeySet) :
    aggregated c' aggregate (groupsOf type keys c'.contents) =
      aggregated c aggregate (groupsOf type keys c.contents) := by
  have hcombine : ∀ k, aggregate.combine (c'.valuesOf k) = aggregate.combine (c.valuesOf k) :=
    fun k => Aggregate.combine_of_perm (hperm.filter _)
      (fun s hs => Column.trim_of_mem_valuesOf hs) hyields
  have hcells : (aggregated c' aggregate (groupsOf type keys c'.contents)).cells =
      (aggregated c aggregate (groupsOf type keys c.contents)).cells := by
    simp only [cells_aggregated, groupKeys_of_perm hperm, hcombine]
  calc aggregated c' aggregate (groupsOf type keys c'.contents)
      = ⟨(aggregated c aggregate (groupsOf type keys c.contents)).header,
          (aggregated c' aggregate (groupsOf type keys c'.contents)).cells⟩ := by
        rw [aggregated, aggregated, hheader]
    _ = aggregated c aggregate (groupsOf type keys c.contents) := by rw [hcells]

/-- The schema of a grouping follows from the schema of the table. -/
theorem schema_of_group {u : Table} (ht : t.WellFormed) {column : String}
    (h : t.group column aggregate keys = .ok u) :
    u.schema = (Transformation.groupBy column aggregate keys).preview t.schema := by
  have happlied : (Transformation.groupBy column aggregate keys).apply t = .ok u := h
  exact (Transformation.apply_eq_ok_iff.1 happlied).schema_eq ht

/-- What groupings of the same rows have in common. -/
theorem Reordered.exists_group (h : t.Reordered t') (ht : t.WellFormed) {column : String}
    (hc : t.column? column = some c) (hyields : aggregate.yieldsNumber = true) (keys : KeySet) :
    ∃ u u' c', t.group column aggregate keys = .ok u ∧ t'.group column aggregate keys = .ok u' ∧
      t'.column? column = some c' ∧
      t.Grouped c keys (groupKeys c.header.type keys c.contents) u ∧
      t'.Grouped c' keys (groupKeys c.header.type keys c.contents) u' ∧
      u.column? column = some (aggregated c aggregate (groupsOf c.header.type keys c.contents)) ∧
      u'.column? column =
        some (aggregated c aggregate (groupsOf c.header.type keys c.contents)) := by
  obtain ⟨c', hc', hheader, hperm⟩ := h.exists_column? ht hc
  have haggregate := Aggregate.ne_groupKey hyields
  obtain ⟨u, hgroup, hgrouped, hcolumn⟩ := Table.exists_group ht hc haggregate keys
  obtain ⟨u', hgroup', hgrouped', hcolumn'⟩ :=
    Table.exists_group h.wellFormed hc' haggregate keys
  rw [hheader, groupKeys_of_perm hperm] at hgrouped'
  rw [hheader, aggregated_of_perm hheader hperm hyields] at hcolumn'
  exact ⟨u, u', c', hgroup, hgroup', hc', hgrouped, hgrouped', hcolumn, hcolumn'⟩

/-- **A grouping that adds up or counts makes the same column of the same rows**, in whatever
order they stand: the same keys make a row, and the column that was grouped by has the same
header, texts and places.  Other columns have their headers in common, and show the first row of
each key.  So a sort before a grouping makes no difference to the column that is grouped by. -/
theorem exists_regrouped (ht : t.WellFormed) (h : t.Reordered t') {column : String}
    (hc : t.column? column = some c)
    (haggregate : aggregate ∈ [.sum, .mean, .countDistinct, .countAll]) (keys : KeySet) :
    ∃ (u u' : Table) (c' d : Column) (ks : List String),
      t.group column aggregate keys = .ok u ∧ t'.group column aggregate keys = .ok u' ∧
      u'.height = u.height ∧ u'.schema = u.schema ∧
      u.column? column = some d ∧ u'.column? column = some d ∧
      t'.column? column = some c' ∧ t.Grouped c keys ks u ∧ t'.Grouped c' keys ks u' ∧
      ∀ other ∈ t.names, ∀ direction, ∃ s v, t.sort other direction = .ok s ∧
        s.group column aggregate keys = .ok v ∧ v.height = u.height ∧
        v.column? column = some d := by
  have hyields := Aggregate.yieldsNumber_iff.2 haggregate
  obtain ⟨u, u', c', hgroup, hgroup', hc', hgrouped, hgrouped', hcolumn, hcolumn'⟩ :=
    h.exists_group ht hc hyields keys
  refine ⟨u, u', c', _, _, hgroup, hgroup', ?_, ?_, hcolumn, hcolumn', hc', hgrouped, hgrouped',
    fun other hother direction => ?_⟩
  · rw [hgrouped.height_eq, hgrouped'.height_eq]
  · rw [schema_of_group ht hgroup, schema_of_group h.wellFormed hgroup', h.schema_eq]
  · obtain ⟨e, he⟩ := exists_column? hother
    obtain ⟨p, hp, hsort⟩ := (InOrder.range t.height).exists_sort ht
      (fun i hi => List.mem_range.1 hi) he direction
    rw [select_range ht] at hsort
    obtain ⟨-, v, e, -, hgroup'', -, -, hgrouped'', -, hcolumn''⟩ :=
      ((rearranged_select ht hp.perm).reordered ht).exists_group ht hc hyields keys
    refine ⟨_, v, hsort, hgroup'', ?_, hcolumn''⟩
    rw [hgrouped''.height_eq, hgrouped.height_eq]

/-- What four people paid, each for a ticket of one of two prices. -/
def tickets : Table := ⟨[
  .ofValues ⟨"Name", .text, 0⟩ ["ann", "bob", "cy", "dee"],
  .ofValues ⟨"Price", .number, 1⟩ ["0.1", "2", " 0.1", "0.1 "]]⟩

/-- The tickets add up in the same way from the last one to the first. -/
theorem exists_regrouped_tickets :
    ∃ t', tickets.WellFormed ∧ tickets.Reordered t' ∧
      Aggregate.sum ∈ [Aggregate.sum, .mean, .countDistinct, .countAll] ∧
      ∃ u u' d, tickets.group "Price" .sum (.ofList ["2", "0.1"]) = .ok u ∧
        t'.group "Price" .sum (.ofList ["2", "0.1"]) = .ok u' ∧ t' ≠ tickets ∧
        u.column? "Price" = some d ∧ u'.column? "Price" = some d := by
  have ht : tickets.WellFormed := by decide
  have h : tickets.Reordered (tickets.select [3, 2, 1, 0]) :=
    (rearranged_select ht (by decide)).reordered ht
  have hc : tickets.column? "Price" =
      some (.ofValues ⟨"Price", .number, 1⟩ ["0.1", "2", " 0.1", "0.1 "]) := by decide
  have haggregate : Aggregate.sum ∈ [Aggregate.sum, .mean, .countDistinct, .countAll] := by decide
  obtain ⟨u, u', -, d, -, hgroup, hgroup', -, -, hcolumn, hcolumn', -⟩ :=
    exists_regrouped ht h hc haggregate (.ofList ["2", "0.1"])
  exact ⟨_, ht, h, haggregate, u, u', d, hgroup, hgroup', by decide, hcolumn, hcolumn'⟩

end Table
end TableTalk
