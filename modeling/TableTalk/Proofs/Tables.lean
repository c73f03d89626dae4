import Mathlib.Data.List.Nodup
import TableTalk.Table.Basic

/-!
# Deriving tables

Taking rows of all columns alike, removing columns, and putting a new version of a column in
the place of an old one each keep a table well-formed.

## Main results

* `Table.WellFormed.select`, `Table.WellFormed.keep`, `Table.WellFormed.replace` — deriving
  tables keeps them well-formed.
* `Column.getElem?_cells_select` — the cells at the positions that were taken.
* `Table.replace_eq_ok_iff` — what a replacement comes to among distinct names.
* `Table.WellFormed.rows_eq`, `Table.WellFormed.contents_eq` — the rows of a well-formed table
  stand in its columns, and the columns are made up of its rows.

`Table.people` is a table on which the results about plans and queries are tried out.
-/

namespace List

/-- Where every element has an image, the images stand where the elements stood. -/
theorem getElem?_filterMap_of_isSome {α β : Type} {f : α → Option β} {l : List α}
    (h : ∀ a ∈ l, (f a).isSome = true) (i : Nat) : (l.filterMap f)[i]? = l[i]?.bind f := by
  induction l generalizing i with
  | nil => rfl
  | cons a l ih =>
    obtain ⟨b, hb⟩ := Option.isSome_iff_exists.1 (h a mem_cons_self)
    rw [filterMap_cons_some hb]
    cases i with
    | zero => simp [hb]
    | succ i =>
      rw [getElem?_cons_succ, getElem?_cons_succ]
      exact ih (fun a ha => h a (mem_cons_of_mem _ ha)) i

theorem length_filterMap_of_isSome {α β : Type} {f : α → Option β} {l : List α}
    (h : ∀ a ∈ l, (f a).isSome = true) : (l.filterMap f).length = l.length := by
  rw [length_filterMap_eq_countP, countP_eq_length]
  exact h

/-- Where every element has a value, the values are those of the elements. -/
theorem mapM_eq_some_map {α β : Type} {f : α → Option β} {g : α → β} {l : List α}
    (h : ∀ a ∈ l, f a = some (g a)) : l.mapM f = some (l.map g) := by
  induction l with
  | nil => rfl
  | cons a l ih =>
    rw [mapM_cons, h a mem_cons_self, ih fun b hb => h b (mem_cons_of_mem a hb)]
    rfl

/-- Each of the values is the value of an element. -/
theorem exists_of_mem_mapM {α β : Type} {f : α → Option β} {l : List α} {bs : List β}
    (h : l.mapM f = some bs) {b : β} (hb : b ∈ bs) : ∃ a ∈ l, f a = some b := by
  induction l generalizing bs with
  | nil =>
    cases h
    cases hb
  | cons a l ih =>
    rw [mapM_cons] at h
    obtain ⟨c, hc, h⟩ := Option.bind_eq_some_iff.1 h
    obtain ⟨cs, hcs, h⟩ := Option.bind_eq_some_iff.1 h
    cases h
    rcases mem_cons.1 hb with rfl | hb
    · exact ⟨a, mem_cons_self, hc⟩
    · obtain ⟨d, hd, hvalue⟩ := ih hcs hb
      exact ⟨d, mem_cons_of_mem a hd, hvalue⟩

theorem isSome_of_mapM {α β : Type} {f : α → Option β} {l : List α}
    (h : (l.mapM f).isSome = true) : ∀ a ∈ l, (f a).isSome = true := by
  induction l with
  | nil => exact fun _ ha => absurd ha not_mem_nil
  | cons a l ih =>
    obtain ⟨bs, hbs⟩ := Option.isSome_iff_exists.1 h
    rw [mapM_cons] at hbs
    obtain ⟨b, hb, hbs⟩ := Option.bind_eq_some_iff.1 hbs
    obtain ⟨cs, hcs, -⟩ := Option.bind_eq_some_iff.1 hbs
    exact forall_mem_cons.2 ⟨Option.isSome_iff_exists.2 ⟨b, hb⟩,
      ih (Option.isSome_iff_exists.2 ⟨cs, hcs⟩)⟩

/-- Where keys are distinct, replacing the element of a key is replacing all of that key. -/
theorem set_eq_map_of_nodup {α β : Type} [DecidableEq β] {f : α → β} {l : List α}
    (h : (l.map f).Nodup) {i : Nat} (hi : i < l.length) {a : α} (ha : f l[i] = f a) :
    l.set i a = l.map fun b => if f b = f a then a else b := by
  induction l generalizing i with
  | nil => rfl
  | cons b l ih =>
    rw [map_cons, nodup_cons] at h
    cases i with
    | zero =>
      replace ha : f b = f a := ha
      rw [set_cons_zero, map_cons, if_pos ha]
      have hrest : (l.map fun c => if f c = f a then a else c) = l.map id := by
        refine map_congr_left fun c hc => if_neg fun hca => ?_
        exact h.1 (mem_map.2 ⟨c, hc, hca.trans ha.symm⟩)
      rw [hrest, map_id]
    | succ i =>
      have hi : i < l.length := by simpa using hi
      replace ha : f l[i] = f a := ha
      rw [set_cons_succ, map_cons, if_neg, ih h.2 hi ha]
      intro hba
      exact h.1 (mem_map.2 ⟨_, getElem_mem _, ha.trans hba.symm⟩)

end List

namespace TableTalk

/-! ### Rows of a column -/

namespace Column

theorem cells_select (c : Column) (positions : List Nat) :
    (c.select positions).cells = positions.filterMap fun i => c.cells[i]? := by
  simp only [select, List.getElem?_toArray]

/-- A position behind the last cell is passed over. -/
theorem size_select (c : Column) (positions : List Nat) :
    (c.select positions).size = positions.countP fun i => decide (i < c.size) := by
  rw [size, cells_select, List.length_filterMap_eq_countP]
  refine List.countP_congr fun i _ => ?_
  rw [isSome_getElem?, decide_eq_true_iff]
  rfl

theorem isSome_getElem?_cells {c : Column} {i : Nat} (h : i < c.size) :
    (c.cells[i]?).isSome = true := by
  rw [List.getElem?_eq_getElem h]
  rfl

theorem size_select_of_lt {c : Column} {positions : List Nat}
    (h : ∀ i ∈ positions, i < c.size) : (c.select positions).size = positions.length := by
  rw [size, cells_select]
  exact List.length_filterMap_of_isSome fun i hi => isSome_getElem?_cells (h i hi)

theorem getElem?_cells_select {c : Column} {positions : List Nat}
    (h : ∀ i ∈ positions, i < c.size) {i k : Nat} (hi : positions[i]? = some k) :
    (c.select positions).cells[i]? = c.cells[k]? := by
  rw [cells_select,
    List.getElem?_filterMap_of_isSome fun i hi => isSome_getElem?_cells (h i hi), hi]
  rfl

theorem length_contents (c : Column) : c.contents.length = c.size := List.length_map _

end Column

namespace Table

/-! ### Finding columns -/

theorem mem_names {t : Table} {name : String} : name ∈ t.names ↔ ∃ c ∈ t.columns, c.name = name :=
  List.mem_map

theorem names_schema (t : Table) : t.schema.names = t.names := by
  simp only [schema, Schema.names, names, List.map_map]
  rfl

theorem mem_of_column? {t : Table} {name : String} {c : Column} (h : t.column? name = some c) :
    c ∈ t.columns ∧ c.name = name :=
  ⟨List.mem_of_find?_eq_some h, by simpa using List.find?_some h⟩

theorem column?_eq_none_iff {t : Table} {name : String} :
    t.column? name = none ↔ name ∉ t.names := by
  rw [column?, List.find?_eq_none, mem_names]
  simp

theorem exists_column? {t : Table} {name : String} (h : name ∈ t.names) :
    ∃ c, t.column? name = some c := by
  refine Option.ne_none_iff_exists'.1 fun hnone => ?_
  exact column?_eq_none_iff.1 hnone h

/-- Among distinct names a column is the one of its name. -/
theorem WellFormed.column?_name {t : Table} (h : t.WellFormed) {c : Column}
    (hc : c ∈ t.columns) : t.column? c.name = some c := by
  obtain ⟨d, hd⟩ := exists_column? (mem_names.2 ⟨c, hc, rfl⟩)
  obtain ⟨hmem, hname⟩ := mem_of_column? hd
  rw [hd, List.inj_on_of_nodup_map h.1 hmem hc hname]

/-! ### Deriving tables -/

/-- Columns of distinct names and one length form a table. -/
theorem wellFormed_of_size {t : Table} {n : Nat} (hnames : t.names.Nodup)
    (hsize : ∀ c ∈ t.columns, c.size = n) : t.WellFormed := by
  refine ⟨hnames, fun c hc => ?_⟩
  rw [hsize c hc, height]
  cases hcolumns : t.columns with
  | nil =>
    rw [hcolumns] at hc
    cases hc
  | cons d ds =>
    rw [List.head?_cons, Option.map_some, Option.getD_some]
    exact (hsize d (hcolumns ▸ List.mem_cons_self)).symm

theorem columns_select (t : Table) (positions : List Nat) :
    (t.select positions).columns = t.columns.map fun c => c.select positions := rfl

@[simp] theorem names_select (t : Table) (positions : List Nat) :
    (t.select positions).names = t.names := by
  simp only [names, columns_select, List.map_map]
  rfl

@[simp] theorem schema_select (t : Table) (positions : List Nat) :
    (t.select positions).schema = t.schema := by
  simp only [schema, columns_select, List.map_map]
  rfl

theorem WellFormed.select {t : Table} (h : t.WellFormed) (positions : List Nat) :
    (t.select positions).WellFormed := by
  refine wellFormed_of_size (n := positions.countP fun i => decide (i < t.height)) ?_ ?_
  · rw [names_select]
    exact h.1
  · intro c hc
    obtain ⟨d, hd, rfl⟩ := List.mem_map.1 hc
    rw [Column.size_select, h.2 d hd]

/-- A table with a column has as many rows as rows were taken. -/
theorem height_select {t : Table} {positions : List Nat} (hlt : ∀ i ∈ positions, i < t.height)
    (hne : t.columns ≠ []) : (t.select positions).height = positions.length := by
  obtain ⟨c, cs, hcolumns⟩ := List.exists_cons_of_ne_nil hne
  have hheight : t.height = c.size := by
    rw [height, hcolumns]
    rfl
  have hselect : (t.select positions).height = (c.select positions).size := by
    rw [height, columns_select, hcolumns]
    rfl
  rw [hselect]
  exact Column.size_select_of_lt fun i hi => hheight ▸ hlt i hi

theorem names_keep (t : Table) (p : Column → Bool) : (t.keep p).names.Sublist t.names :=
  List.filter_sublist.map _

theorem WellFormed.keep {t : Table} (h : t.WellFormed) (p : Column → Bool) :
    (t.keep p).WellFormed :=
  wellFormed_of_size ((names_keep t p).nodup h.1) fun c hc => h.2 c (List.mem_filter.1 hc).1

/-- Among distinct names a new version takes the place of the column of its name. -/
theorem replace_eq_ok_iff {t u : Table} (h : t.names.Nodup) {c : Column} :
    t.replace c = .ok u ↔ c.size = t.height ∧ c.name ∈ t.names ∧
      u = ⟨t.columns.map fun d => if d.name = c.name then c else d⟩ := by
  unfold replace
  split
  · next hsize =>
    have hsize : c.size ≠ t.height := by simpa using hsize
    constructor
    · intro h
      cases h
    · intro h
      exact absurd h.1 hsize
  · next hsize =>
    have hsize : c.size = t.height := by simpa using hsize
    split
    · next i hi =>
      obtain ⟨hlt, hname, -⟩ := List.findIdx?_eq_some_iff_getElem.1 hi
      have hname : t.columns[i].name = c.name := by simpa using hname
      have hset := List.set_eq_map_of_nodup h hlt hname
      simp only [Except.ok.injEq, hset, hsize, true_and]
      constructor
      · intro h
        exact ⟨mem_names.2 ⟨t.columns[i], List.getElem_mem hlt, hname⟩, h.symm⟩
      · intro h
        exact h.2.symm
    · next hnone =>
      constructor
      · intro h
        cases h
      · rintro ⟨-, hmem, -⟩
        obtain ⟨d, hd, hname⟩ := mem_names.1 hmem
        have := List.findIdx?_eq_none_iff.1 hnone d hd
        simp [hname] at this

theorem names_replace {t u : Table} (h : t.names.Nodup) {c : Column} (hu : t.replace c = .ok u) :
    u.names = t.names := by
  obtain ⟨-, -, rfl⟩ := (replace_eq_ok_iff h).1 hu
  simp only [names, List.map_map]
  refine List.map_congr_left fun d _ => ?_
  rw [Function.comp_apply]
  split
  · next hname => exact hname.symm
  · rfl

theorem WellFormed.replace {t u : Table} (h : t.WellFormed) {c : Column}
    (hu : t.replace c = .ok u) : u.WellFormed := by
  have hnames := names_replace h.1 hu
  obtain ⟨hsize, -, rfl⟩ := (replace_eq_ok_iff h.1).1 hu
  refine wellFormed_of_size (n := t.height) (hnames ▸ h.1) fun d hd => ?_
  obtain ⟨e, he, rfl⟩ := List.mem_map.1 hd
  split
  · exact hsize
  · exact h.2 e he

/-! ### Rows -/

/-- The cells that stand in one row. -/
def rowAt (t : Table) (i : Nat) : List String := t.columns.map fun c => (c.contents[i]?).getD ""

theorem length_rowAt (t : Table) (i : Nat) : (t.rowAt i).length = t.columns.length :=
  List.length_map _

theorem row?_of_lt {t : Table} {i : Nat} (h : ∀ c ∈ t.columns, i < c.size) :
    t.row? i = some (t.rowAt i) := by
  refine List.mapM_eq_some_map fun c hc => ?_
  have hlt : i < c.contents.length := (Column.length_contents c).symm ▸ h c hc
  rw [← List.getElem?_map]
  change c.contents[i]? = some ((c.contents[i]?).getD "")
  rw [List.getElem?_eq_getElem hlt, Option.getD_some]

/-- A row can be read if no column ends in front of it. -/
theorem isSome_row?_iff {t : Table} {i : Nat} :
    (t.row? i).isSome = true ↔ ∀ c ∈ t.columns, i < c.size := by
  constructor
  · intro h c hc
    have hcell := List.isSome_of_mapM h c hc
    rwa [Option.isSome_map, isSome_getElem?] at hcell
  · intro h
    rw [row?_of_lt h]
    rfl

/-- The rows of a well-formed table stand in its columns. -/
theorem WellFormed.rows_eq {t : Table} (h : t.WellFormed) :
    t.rows = (List.range t.height).map t.rowAt := by
  refine List.map_congr_left fun i hi => ?_
  rw [row?_of_lt fun c hc => (h.2 c hc).symm ▸ List.mem_range.1 hi]
  rfl

theorem WellFormed.length_of_mem_rows {t : Table} (h : t.WellFormed) {row : List String}
    (hrow : row ∈ t.rows) : row.length = t.names.length := by
  rw [h.rows_eq] at hrow
  obtain ⟨i, -, rfl⟩ := List.mem_map.1 hrow
  rw [length_rowAt, names, List.length_map]

/-- The columns of a well-formed table are made up of its rows. -/
theorem WellFormed.contents_eq {t : Table} (h : t.WellFormed) {c : Column} {j : Nat}
    (hc : t.columns[j]? = some c) : c.contents = t.rows.map fun row => (row[j]?).getD "" := by
  have hsize := h.2 c (List.mem_of_getElem? hc)
  rw [h.rows_eq, List.map_map]
  refine List.ext_getElem ?_ fun i hlt hi => ?_
  · rw [List.length_map, List.length_range, Column.length_contents, hsize]
  · simp [rowAt, hc, hlt]

/-! ### A table -/

instance (t : Table) : Decidable t.WellFormed := inferInstanceAs (Decidable (_ ∧ _))

/-- Four people, the teams they are in, and their ranks. -/
def people : Table := ⟨[
  .ofValues ⟨"Name", .text, 0⟩ ["ann", "bob", "cy", "dee"],
  .ofValues ⟨"Team", .text, 1⟩ ["b", "a", "b", "c"],
  .ofValues ⟨"Rank", .text, 2⟩ ["4", "2", "3", "1"]]⟩

end Table
end TableTalk
