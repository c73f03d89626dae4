import TableTalk.Proofs.Sorting
import TableTalk.Proofs.Filtering
import TableTalk.Proofs.Typing

/-!
# One row for each key

A grouping looks for the keys of a set among the texts of a column, white space around a text
aside.  A key that no text has makes no row, any other makes one, and the rows stand in the order
of their keys.  Keys are told apart by their texts, so this order is strict even where two keys
have one value.

Of the rows of a key the first one stands for all of them, except in the column that was grouped
by: there the texts are put together, as they stand and in the order of the rows.  Every text that
has a key of the set is a text of one key, so the counts of all keys are the count of such texts.

## Main definitions

* `groupKeys` — the keys that a grouping makes a row of.
* `Column.valuesOf` — the texts of a key.
* `Table.Grouped` — the rows of a grouping, the column that was grouped by aside.

## Main results

* `mem_groupKeys_iff`, `pairwise_groupKeys` — which keys there are, and in which order.
* `sum_length_valuesOf` — the counts of the keys add up.
* `Table.exists_grouped` — **a grouping has one row for each key.**
-/

namespace List

variable {α β : Type} [DecidableEq β]

/-- What remains when repetitions are left out is a set. -/
theorem length_eraseDups_eq_card (l : List β) : l.eraseDups.length = l.toFinset.card := by
  induction l using eraseDups_induction with
  | nil => simp
  | cons a l ih =>
    have herase : (a :: l).toFinset = insert a (l.filter fun b => !b == a).toFinset := by
      ext b
      by_cases hb : b = a <;> simp [hb]
    rw [eraseDups_cons, length_cons, ih, herase, Finset.card_insert_of_notMem]
    simp

/-- An element is one of some distinct ones at most once. -/
theorem sum_ite_of_nodup {ks : List β} (h : ks.Nodup) (b : β) :
    (ks.map fun k => if b = k then 1 else 0).sum = if b ∈ ks then 1 else 0 := by
  induction ks with
  | nil => rfl
  | cons k ks ih =>
    obtain ⟨hk, hks⟩ := nodup_cons.1 h
    rw [map_cons, sum_cons, ih hks]
    by_cases hb : b = k
    · subst hb
      simp [hk]
    · simp [hb]

/-- The elements that have one of some distinct keys, counted key by key. -/
theorem sum_countP_of_nodup (key : α → β) (l : List α) {ks : List β} (h : ks.Nodup) :
    (ks.map fun k => l.countP (key · = k)).sum = l.countP (key · ∈ ks) := by
  induction l with
  | nil => simp
  | cons a l ih =>
    simp only [countP_cons, decide_eq_true_eq, sum_map_add, ih, sum_ite_of_nodup h]

end List

namespace TableTalk

/-! ### Keys that have a row -/

variable {type : ColumnType} {keys : KeySet} {contents : List String} {k : String}

/-- The keys that a grouping makes a row of, in the order of the rows. -/
def groupKeys (type : ColumnType) (keys : KeySet) (contents : List String) : List String :=
  (groupsOf type keys contents).map Group.key

/-- The keys are those that the pass over the texts meets. -/
theorem groupKeys_perm (type : ColumnType) (keys : KeySet) (contents : List String) :
    (groupKeys type keys contents).Perm (Grouping.metKeys keys contents) := by
  have hgroups := (Grouping.gathered_ofTexts keys contents).groups_eq
  have hkeys : (Grouping.metKeys keys contents).map (Group.key ∘ Group.ofKey contents) =
      Grouping.metKeys keys contents := List.map_id _
  rw [groupKeys, ← Grouping.sorted_ofTexts, ← hkeys, ← List.map_map, ← hgroups]
  exact (List.mergeSort_perm _ _).map Group.key

/-- A key makes a row if it is in the set and a text has it. -/
theorem mem_groupKeys_iff :
    k ∈ groupKeys type keys contents ↔ k ∈ keys.keys ∧ ∃ s ∈ contents, Text.trim s = k :=
  (groupKeys_perm type keys contents).mem_iff.trans Grouping.mem_metKeys

theorem nodup_groupKeys (type : ColumnType) (keys : KeySet) (contents : List String) :
    (groupKeys type keys contents).Nodup :=
  (groupKeys_perm type keys contents).nodup_iff.2 (Grouping.nodup_metKeys keys contents)

/-- The keys increase. -/
theorem pairwise_groupKeys (type : ColumnType) (keys : KeySet) (contents : List String) :
    (groupKeys type keys contents).Pairwise fun k k' => compareKeys type k k' = .lt := by
  have hsorted : (groupKeys type keys contents).Pairwise fun k k' =>
      (compareKeys type k k').isLE = true := by
    rw [groupKeys, List.pairwise_map, ← Grouping.sorted_ofTexts]
    exact Grouping.pairwise_sorted type _
  refine (hsorted.and (nodup_groupKeys type keys contents)).imp ?_
  rintro k k' ⟨hle, hne⟩
  cases hcompare : compareKeys type k k' with
  | lt => rfl
  | eq => exact absurd (eq_of_compareKeys_eq_eq hcompare) hne
  | gt =>
    rw [hcompare] at hle
    cases hle

/-- There is one list of keys. -/
theorem eq_groupKeys {ks : List String}
    (hmem : ∀ k, k ∈ ks ↔ k ∈ keys.keys ∧ ∃ s ∈ contents, Text.trim s = k)
    (hks : ks.Pairwise fun k k' => compareKeys type k k' = .lt) :
    ks = groupKeys type keys contents := by
  have hasymm : ∀ {k k'}, compareKeys type k k' = .lt → ¬compareKeys type k' k = .lt := by
    intro k k' h h'
    rw [compareKeys_swap, h'] at h
    cases h
  have hnodup : ks.Nodup := hks.imp fun h heq => by
    subst heq
    exact hasymm h h
  refine List.Perm.eq_of_pairwise (fun k k' _ _ h h' => absurd h' (hasymm h)) hks
    (pairwise_groupKeys type keys contents) ?_
  rw [List.perm_ext_iff_of_nodup hnodup (nodup_groupKeys type keys contents)]
  intro k
  rw [hmem, mem_groupKeys_iff]

/-- The keys of a list are all the keys if they are found by looking at each of the texts. -/
theorem eq_groupKeys_of_forall {ks : List String}
    (hkeys : ∀ k ∈ ks, k ∈ keys.keys ∧ ∃ s ∈ contents, Text.trim s = k)
    (htexts : ∀ s ∈ contents, Text.trim s ∈ keys.keys → Text.trim s ∈ ks)
    (hks : ks.Pairwise fun k k' => compareKeys type k k' = .lt) :
    ks = groupKeys type keys contents := by
  refine eq_groupKeys (fun k => ⟨hkeys k, ?_⟩) hks
  rintro ⟨hkey, s, hs, rfl⟩
  exact htexts s hs hkey

/-! ### Rows of a key -/

/-- The texts of a column that have a key, in the order of the rows. -/
def Column.valuesOf (c : Column) (key : String) : List String :=
  c.contents.filter fun s => Text.trim s = key

/-- The row of a column that is the first one to have a key. -/
def Column.firstOf? (c : Column) (key : String) : Option Nat :=
  c.contents.findIdx? fun s => Text.trim s = key

theorem Group.members_eq {g : Group} (h : g ∈ groupsOf type keys contents) :
    g.members = positionsOf (Text.trim · == g.key) contents := by
  rw [(eq_ofKey_of_mem_groupsOf h).1]
  rfl

theorem Group.values_eq {c : Column} {g : Group} (h : g ∈ groupsOf type keys c.contents) :
    g.values c.contents = c.valuesOf g.key := by
  rw [Group.values, Group.members_eq h, positionsOf_eq_filter, Column.valuesOf,
    List.filterMap_filter]
  conv_rhs => rw [← List.filterMap_getElem?_range c.contents, List.filter_filterMap]
  refine List.filterMap_congr fun i hi => ?_
  rw [List.getElem?_eq_getElem (List.mem_range.1 hi)]
  simp [Option.filter_some]

theorem Group.head?_eq {c : Column} {g : Group} (h : g ∈ groupsOf type keys c.contents) :
    g.members.head? = c.firstOf? g.key := by
  rw [Group.members_eq h, positionsOf_eq_filter, List.head?_filter]
  refine Option.ext fun i => ?_
  rw [List.find?_range_eq_some, Column.firstOf?, List.findIdx?_eq_some_iff_getElem]
  constructor
  · rintro ⟨hi, hlt, hbefore⟩
    have hlt := List.mem_range.1 hlt
    refine ⟨hlt, by simpa [hlt] using hi, fun j hj => ?_⟩
    simpa [hj.trans hlt] using hbefore j hj
  · rintro ⟨hlt, hi, hbefore⟩
    refine ⟨by simpa [hlt] using hi, List.mem_range.2 hlt, fun j hj => ?_⟩
    simpa [hj.trans hlt] using hbefore j hj

/-- The texts that have a key of the set, counted key by key. -/
theorem sum_length_valuesOf (c : Column) (type : ColumnType) (keys : KeySet) :
    ((groupKeys type keys c.contents).map fun k => (c.valuesOf k).length).sum =
      c.contents.countP fun s => Text.trim s ∈ keys.keys := by
  simp only [Column.valuesOf, ← List.countP_eq_length_filter]
  rw [List.sum_countP_of_nodup Text.trim c.contents (nodup_groupKeys type keys c.contents)]
  refine List.countP_congr fun s hs => ?_
  simp only [decide_eq_true_eq, mem_groupKeys_iff]
  exact ⟨fun h => h.1, fun h => ⟨h, s, hs, rfl⟩⟩

/-! ### Tables -/

namespace Table

variable {t u : Table} {c : Column} {aggregate : Aggregate}

/-- A grouping of a table by a column has one row for each of the keys, and of the cells of a row
those in other columns are the cells of the first row that has the key. -/
structure Grouped (t : Table) (c : Column) (keys : KeySet) (ks : List String) (u : Table) :
    Prop where
  /-- The keys are those of the set that a text has. -/
  mem_iff : ∀ k, k ∈ ks ↔ k ∈ keys.keys ∧ ∃ s ∈ c.contents, Text.trim s = k
  /-- They increase strictly. -/
  increasing : ks.Pairwise fun k k' => compareKeys c.header.type k k' = .lt
  /-- The columns have distinct names and equal lengths. -/
  wellFormed : u.WellFormed
  /-- There is one row for each key. -/
  height_eq : u.height = ks.length
  /-- There are no other columns. -/
  names_eq : u.names = t.names
  /-- The cells of a row are those of the first row that has the key. -/
  cells_eq : ∀ d ∈ t.columns, d.name ≠ c.name → ∃ e, u.column? d.name = some e ∧
    e.header = d.header ∧ ∀ (i : Nat) (k : String), ks[i]? = some k →
      ∃ m, c.firstOf? k = some m ∧ e.cells[i]? = d.cells[m]?

/-- The column that was grouped by, from its keys. -/
theorem cells_aggregated (c : Column) (aggregate : Aggregate) (type : ColumnType)
    (keys : KeySet) :
    (aggregated c aggregate (groupsOf type keys c.contents)).cells =
      (groupKeys type keys c.contents).zipIdx.map fun (k, i) =>
        ⟨aggregate.combine (c.valuesOf k), i⟩ := by
  rw [aggregated, groupKeys, List.zipIdx_map, List.map_map]
  refine List.map_congr_left ?_
  rintro ⟨g, i⟩ hg
  simp only [Function.comp_apply, Prod.map_apply, id,
    ← Group.values_eq (List.fst_mem_of_mem_zipIdx hg), Group.values]

/-- The first rows of the groups are the first rows of the keys. -/
theorem getElem?_firstsOf {i : Nat} {k : String}
    (h : (groupKeys type keys c.contents)[i]? = some k) :
    ∃ m, c.firstOf? k = some m ∧ (firstsOf (groupsOf type keys c.contents))[i]? = some m := by
  rw [groupKeys, List.getElem?_map, Option.map_eq_some_iff] at h
  obtain ⟨g, hg, rfl⟩ := h
  have hmem := List.mem_of_getElem? hg
  have hfirst : ∀ g ∈ groupsOf type keys c.contents, (g.members.head?).isSome = true := by
    intro g hg
    rw [List.isSome_head?]
    simpa using (eq_ofKey_of_mem_groupsOf hg).2
  obtain ⟨m, hm⟩ := Option.isSome_iff_exists.1 (hfirst g hmem)
  refine ⟨m, (Group.head?_eq hmem).symm.trans hm, ?_⟩
  rw [firstsOf, List.getElem?_filterMap_of_isSome hfirst, hg, Option.bind_some, hm]

/-- A new version of a column is found by its name, and so are all other columns. -/
theorem column?_of_replace (ht : t.WellFormed) (hu : t.replace c = .ok u) :
    u.column? c.name = some c ∧ ∀ d ∈ t.columns, d.name ≠ c.name → u.column? d.name = some d := by
  have huwell := ht.replace hu
  obtain ⟨-, hname, rfl⟩ := (replace_eq_ok_iff ht.1).1 hu
  refine ⟨?_, fun d hd hne => ?_⟩
  · obtain ⟨d, hd, hdname⟩ := mem_names.1 hname
    exact huwell.column?_name (List.mem_map.2 ⟨d, hd, if_pos hdname⟩)
  · exact huwell.column?_name (List.mem_map.2 ⟨d, hd, if_neg hne⟩)

/-- What a grouping makes of a table, and of the column that was grouped by. -/
theorem exists_group (ht : t.WellFormed) {column : String} (hc : t.column? column = some c)
    (haggregate : aggregate ≠ .groupKey) (keys : KeySet) :
    ∃ u, t.group column aggregate keys = .ok u ∧
      t.Grouped c keys (groupKeys c.header.type keys c.contents) u ∧
      u.column? column =
        some (aggregated c aggregate (groupsOf c.header.type keys c.contents)) := by
  obtain ⟨hmem, rfl⟩ := mem_of_column? hc
  obtain ⟨u, hu⟩ := Transformation.exists_replace_aggregated ht hc aggregate keys
  have happlied := Transformation.Applied.groupBy hc haggregate hu
  have hselect := ht.select (firstsOf (groupsOf c.header.type keys c.contents))
  have huwell := hselect.replace hu
  obtain ⟨hcolumn, hothers⟩ := column?_of_replace hselect hu
  have hname := Transformation.name_aggregated c aggregate
    (groupsOf c.header.type keys c.contents)
  rw [hname] at hcolumn hothers
  refine ⟨u, Transformation.apply_eq_ok_iff.2 happlied,
    ⟨fun k => mem_groupKeys_iff, pairwise_groupKeys _ _ _, huwell, ?_, ?_, ?_⟩, hcolumn⟩
  · rw [← huwell.2 _ (mem_of_column? hcolumn).1, Transformation.size_aggregated, groupKeys,
      List.length_map]
  · rw [names_replace hselect.1 hu, names_select]
  · intro d hd hne
    refine ⟨_, hothers (d.select _) (List.mem_map_of_mem hd) hne, rfl, fun i k hk => ?_⟩
    obtain ⟨m, hm, hfirst⟩ := getElem?_firstsOf hk
    refine ⟨m, hm, Column.getElem?_cells_select (fun n hn => ?_) hfirst⟩
    rw [ht.2 d hd, ← ht.2 c hmem, ← c.length_contents]
    exact lt_of_mem_firstsOf hn

/-- **A grouping has one row for each key** that is in the set and that a text has, and no other
row.  The rows stand in the order of their keys.  A row has the cells of the first row with its
key, except in the column that was grouped by: there it has its place among the rows, and the count
of the texts with its key, the count of the different ones, or all of them with commas between
them, in the order of the rows.  All counts together are the count of the texts that have a key of
the set. -/
theorem exists_grouped (ht : t.WellFormed) {column : String} (hc : t.column? column = some c)
    (haggregate : aggregate ≠ .groupKey) (keys : KeySet) :
    ∃ (u : Table) (ks : List String) (e : Column), t.group column aggregate keys = .ok u ∧
      t.Grouped c keys ks u ∧ u.column? column = some e ∧
      (∀ (i : Nat) (k : String), ks[i]? = some k → ∃ content, e.cells[i]? = some ⟨content, i⟩ ∧
        (aggregate = .countAll → content = Nat.repr (c.valuesOf k).length) ∧
        (aggregate = .countDistinct → content = Nat.repr (c.valuesOf k).toFinset.card) ∧
        (aggregate = .concat → content = ",".intercalate (c.valuesOf k))) ∧
      (aggregate = .countAll → ∃ counts : List Nat, e.contents = counts.map Nat.repr ∧
        counts.sum = c.contents.countP fun s => Text.trim s ∈ keys.keys) := by
  obtain ⟨u, hgroup, hgrouped, hcolumn⟩ := exists_group ht hc haggregate keys
  have hcells := cells_aggregated c aggregate c.header.type keys
  refine ⟨u, _, _, hgroup, hgrouped, hcolumn, fun i k hk => ?_, ?_⟩
  · refine ⟨aggregate.combine (c.valuesOf k), ?_, ?_, ?_, ?_⟩
    · simp [hcells, List.getElem?_zipIdx, hk]
    · rintro rfl
      rfl
    · rintro rfl
      rw [Aggregate.combine, List.length_eraseDups_eq_card]
    · rintro rfl
      rfl
  · rintro rfl
    refine ⟨_, ?_, sum_length_valuesOf c c.header.type keys⟩
    rw [Column.contents, hcells, List.map_map, List.map_map]
    conv_rhs => rw [← List.zipIdx_map_fst 0 (groupKeys c.header.type keys c.contents), List.map_map]
    rfl

/-- Three people are in one of the teams that are asked for, and nobody is in the third team. -/
theorem exists_grouped_people :
    people.WellFormed ∧ ∃ c, people.column? "Team" = some c ∧ Aggregate.countAll ≠ .groupKey ∧
      ∃ (u : Table) (ks : List String) (e : Column),
        people.group "Team" .countAll (.ofList ["b", "z", "a"]) = .ok u ∧
        people.Grouped c (.ofList ["b", "z", "a"]) ks u ∧ ks = ["a", "b"] ∧
        u.column? "Team" = some e ∧
        (∀ (i : Nat) (k : String), ks[i]? = some k →
          e.cells[i]? = some ⟨Nat.repr (c.valuesOf k).length, i⟩) ∧
        ∃ counts : List Nat, e.contents = counts.map Nat.repr ∧ counts.sum = 3 := by
  have ht : people.WellFormed := by decide
  have hc : people.column? "Team" =
      some (.ofValues ⟨"Team", .text, 1⟩ ["b", "a", "b", "c"]) := by decide
  obtain ⟨u, ks, e, hgroup, hgrouped, hcolumn, hcells, hcounts⟩ :=
    exists_grouped ht hc (show Aggregate.countAll ≠ .groupKey by decide) (.ofList ["b", "z", "a"])
  refine ⟨ht, _, hc, by decide, u, ks, e, hgroup, hgrouped, ?_, hcolumn, fun i k hk => ?_, ?_⟩
  · exact (eq_groupKeys hgrouped.mem_iff hgrouped.increasing).trans
      (eq_groupKeys_of_forall (by decide +kernel) (by decide +kernel) (by decide +kernel)).symm
  · obtain ⟨content, hcell, hcount, -⟩ := hcells i k hk
    rw [hcell, hcount rfl]
  · obtain ⟨counts, hcontents, hsum⟩ := hcounts rfl
    exact ⟨counts, hcontents, hsum.trans (by decide +kernel)⟩

end Table
end TableTalk
