import TableTalk.Proofs.Alignment

/-!
# Rows of rows

Rows are taken column by column.  A column passes over a position at which it has no cell, and what
it takes behind such a position moves up, so what stands at a position afterwards depends on how
many were passed over in front of it.  Among the positions that are not passed over it does not:
there the positions of positions are positions.

The columns of a table are of one length, so they pass over the same positions, and what holds of
each of them holds of the table.

## Main results

* `Column.select_filter` — a position behind the last cell makes no difference.
* `Column.select_select`, `Column.select_range` — cells of cells, and all cells.
* `Table.select_select`, `Table.select_range` — rows of rows, and all rows.
* `Table.selected_twice` — **rows of rows, wherever the positions are.**
-/

namespace List

/-- The elements at all positions are the elements. -/
theorem filterMap_getElem?_range {α : Type} (l : List α) :
    (range l.length).filterMap (fun i => l[i]?) = l := by
  refine ext_getElem? fun i => ?_
  rw [getElem?_filterMap_of_isSome fun i hi => ?_]
  · by_cases hi : i < l.length
    · rw [getElem?_range hi, Option.bind_some]
    · rw [getElem?_eq_none (by simpa using hi), getElem?_eq_none (by simpa using hi)]
      rfl
  · rw [getElem?_eq_getElem (mem_range.1 hi)]
    rfl

end List

namespace TableTalk

/-! ### Cells of cells -/

namespace Column

/-- Columns that are taken from one column differ in their cells only. -/
theorem select_eq_of_cells {c d : Column} {p : List Nat} (hheader : d.header = c.header)
    (hcells : d.cells = p.filterMap fun i => c.cells[i]?) : d = c.select p := by
  rw [← cells_select] at hcells
  cases d
  cases hheader
  exact congrArg (Column.mk c.header) hcells

/-- A position behind the last cell makes no difference. -/
theorem select_filter (c : Column) (p : List Nat) :
    c.select (p.filter (· < c.size)) = c.select p := by
  refine select_eq_of_cells rfl ?_
  rw [cells_select, List.filterMap_filter]
  refine List.filterMap_congr fun i _ => ?_
  by_cases hi : i < c.size
  · rw [decide_eq_true hi, if_pos rfl]
  · rw [decide_eq_false hi, if_neg Bool.false_ne_true]
    exact (List.getElem?_eq_none (Nat.le_of_not_lt hi)).symm

/-- Cells of cells are the cells at the positions of the positions that are not passed over. -/
theorem select_select (c : Column) (p q : List Nat) :
    (c.select p).select q = c.select (Table.through (p.filter (· < c.size)) q) := by
  have hcells : ∀ i ∈ p.filter (· < c.size), (c.cells[i]?).isSome = true := fun i hi =>
    isSome_getElem?_cells (of_decide_eq_true (List.mem_filter.1 hi).2)
  -- What is left of the positions are as many as there are cells, and in the same places.
  rw [← select_filter c p]
  refine select_eq_of_cells rfl ?_
  rw [cells_select, cells_select, Table.through, List.filterMap_filterMap]
  exact List.filterMap_congr fun i _ => List.getElem?_filterMap_of_isSome hcells i

/-- All cells are the column. -/
theorem select_range (c : Column) : c.select (List.range c.size) = c :=
  (select_eq_of_cells rfl (List.filterMap_getElem?_range c.cells).symm).symm

end Column

/-! ### Rows of rows -/

namespace Table

variable {t : Table} {p : List Nat}

theorem column?_select (t : Table) (p : List Nat) (name : String) :
    (t.select p).column? name = (t.column? name).map (·.select p) := by
  rw [column?, columns_select, List.find?_map]
  rfl

/-- Rows of rows are the rows at the positions of the positions of rows. -/
theorem select_select_filter (ht : t.WellFormed) (p q : List Nat) :
    (t.select p).select q = t.select (through (p.filter (· < t.height)) q) := by
  rw [select, columns_select, List.map_map, select]
  refine congrArg Table.mk (List.map_congr_left fun c hc => ?_)
  rw [← ht.2 c hc]
  exact c.select_select p q

/-- Rows of rows are rows. -/
theorem select_select (ht : t.WellFormed) (hp : ∀ i ∈ p, i < t.height) (q : List Nat) :
    (t.select p).select q = t.select (through p q) := by
  have hall : p.filter (· < t.height) = p :=
    List.filter_eq_self.2 fun i hi => decide_eq_true (hp i hi)
  rw [select_select_filter ht, hall]

/-- All rows are the table. -/
theorem select_range (ht : t.WellFormed) : t.select (List.range t.height) = t := by
  have hcolumns : t.columns.map (fun c => c.select (List.range t.height)) = t.columns.map id := by
    refine List.map_congr_left fun c hc => ?_
    rw [← ht.2 c hc]
    exact c.select_range
  rw [select, hcolumns, List.map_id]

/-- **Rows of rows, wherever the positions are.**  Rows that are taken from rows of a table are the
rows of the table at the positions that stand at the second positions among the first ones, those
without a row left out; a second position at which none stands is passed over.  All rows in order
are the table. -/
theorem selected_twice (ht : t.WellFormed) (p q : List Nat) :
    (t.select p).select q = t.select (through (p.filter (· < t.height)) q) ∧
      t.select (List.range t.height) = t :=
  ⟨select_select_filter ht p q, select_range ht⟩

/-- Among the four people the position 9 is passed over, so the last row is at position 2. -/
theorem selected_twice_people :
    people.WellFormed ∧
      (people.select [3, 9, 0, 3]).select [2, 0, 5, 3] = people.select [3, 3] ∧
      people.select [0, 1, 2, 3] = people := by
  have ht : people.WellFormed := by decide
  exact ⟨ht, selected_twice ht [3, 9, 0, 3] [2, 0, 5, 3]⟩

end Table

end TableTalk
