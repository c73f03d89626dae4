import Mathlib
import TableTalk.Proofs.Applying

/-!
# Rows stay together

Whatever a plan does to a table, the rows of the result are rows of the table: one list of
positions, in which no row stands twice, says for all columns alike where the cells came
from.  Only a column that was grouped by holds cells of its own.

## Main definitions

* `Table.RowsAt` — the rows of a table are the rows of another one at the given positions.
* `Plan.grouped` — the columns that a plan groups by.

## Main results

* `Table.RowsAt.trans` — positions of positions are positions.
* `Transformation.Applied.rowsAt` — a transformation takes rows as a whole.
* `Plan.exists_positions_of_execute` — **the rows of a result are rows of the table.**
-/

namespace TableTalk

namespace Table

/-- The rows of a table `u` are the rows of `t` at the given positions, the columns of the
given names aside. -/
structure RowsAt (t : Table) (positions : List Nat) (aside : List String) (u : Table) :
    Prop where
  /-- No row is taken twice. -/
  nodup : positions.Nodup
  /-- Every position is the one of a row. -/
  lt_height : ∀ i ∈ positions, i < t.height
  /-- Every column has one cell for each position. -/
  size_eq : ∀ c ∈ u.columns, c.size = positions.length
  /-- The cell is the one that stood there in the column of the same name. -/
  cells_eq : ∀ c ∈ u.columns, c.name ∉ aside → ∃ d, t.column? c.name = some d ∧
    ∀ i k : Nat, positions[i]? = some k → c.cells[i]? = d.cells[k]?

/-- A table with a column has one row for each position. -/
theorem RowsAt.height_eq {t u : Table} {positions : List Nat} {aside : List String}
    (h : RowsAt t positions aside u) (hne : u.columns ≠ []) : u.height = positions.length := by
  obtain ⟨c, cs, hcolumns⟩ := List.exists_cons_of_ne_nil hne
  rw [height, hcolumns, List.head?_cons, Option.map_some, Option.getD_some]
  exact h.size_eq c (hcolumns ▸ List.mem_cons_self)

/-- A table without columns has no rows, whatever the positions. -/
theorem RowsAt.height_le {t u : Table} {positions : List Nat} {aside : List String}
    (h : RowsAt t positions aside u) : u.height ≤ positions.length := by
  by_cases hne : u.columns = []
  · rw [height, hne]
    exact Nat.zero_le _
  · exact Nat.le_of_eq (h.height_eq hne)

/-- The positions of the rows at the positions `q` among the rows at the positions `p`. -/
def through (p q : List Nat) : List Nat := q.filterMap fun i => p[i]?

theorem getElem?_through {p q : List Nat} (h : ∀ i ∈ q, i < p.length) (i : Nat) :
    (through p q)[i]? = q[i]?.bind fun k => p[k]? := by
  refine List.getElem?_filterMap_of_isSome (fun k hk => ?_) i
  rw [List.getElem?_eq_getElem (h k hk)]
  rfl

theorem length_through {p q : List Nat} (h : ∀ i ∈ q, i < p.length) :
    (through p q).length = q.length := by
  refine List.length_filterMap_of_isSome fun k hk => ?_
  rw [List.getElem?_eq_getElem (h k hk)]
  rfl

theorem nodup_through {p q : List Nat} (hp : p.Nodup) (hq : q.Nodup) : (through p q).Nodup := by
  rw [through, List.nodup_iff_pairwise_ne, List.pairwise_filterMap]
  refine List.Pairwise.imp (fun {i j} hij k hk l hl hkl => ?_) hq
  subst hkl
  obtain ⟨hi, hik⟩ := List.getElem?_eq_some_iff.1 hk
  obtain ⟨hj, hjk⟩ := List.getElem?_eq_some_iff.1 hl
  exact hij ((List.Nodup.getElem_inj_iff hp).1 (hik.trans hjk.symm))

/-- Positions of positions are positions. -/
theorem RowsAt.trans {t u v : Table} {p q : List Nat} {aside aside' : List String}
    (h : RowsAt t p aside u) (h' : RowsAt u q aside' v) :
    RowsAt t (through p q) (aside ++ aside') v := by
  have hlt : ∀ i ∈ q, i < p.length := fun i hi =>
    Nat.lt_of_lt_of_le (h'.lt_height i hi) h.height_le
  refine ⟨nodup_through h.nodup h'.nodup, ?_, ?_, ?_⟩
  · intro k hk
    obtain ⟨i, -, hik⟩ := List.mem_filterMap.1 hk
    exact h.lt_height k (List.mem_of_getElem? hik)
  · intro c hc
    rw [length_through hlt, h'.size_eq c hc]
  · intro c hc hname
    rw [List.mem_append, not_or] at hname
    obtain ⟨d, hd, hcells⟩ := h'.cells_eq c hc hname.2
    obtain ⟨hmem, hdname⟩ := mem_of_column? hd
    obtain ⟨e, he, hcells'⟩ := h.cells_eq d hmem (hdname ▸ hname.1)
    refine ⟨e, hdname ▸ he, fun i k hik => ?_⟩
    rw [getElem?_through hlt] at hik
    obtain ⟨j, hij, hjk⟩ := Option.bind_eq_some_iff.1 hik
    rw [hcells i j hij, hcells' j k hjk]

/-! ### Deriving tables -/

/-- The rows at some positions are rows. -/
theorem rowsAt_select {t : Table} (ht : t.WellFormed) {positions : List Nat}
    (hnodup : positions.Nodup) (hlt : ∀ i ∈ positions, i < t.height) :
    RowsAt t positions [] (t.select positions) := by
  have hsize : ∀ c ∈ t.columns, ∀ i ∈ positions, i < c.size := fun c hc i hi =>
    ht.2 c hc ▸ hlt i hi
  refine ⟨hnodup, hlt, ?_, ?_⟩
  · intro c hc
    obtain ⟨d, hd, rfl⟩ := List.mem_map.1 hc
    exact Column.size_select_of_lt (hsize d hd)
  · intro c hc _
    obtain ⟨d, hd, rfl⟩ := List.mem_map.1 hc
    exact ⟨d, ht.column?_name hd, fun i k hik => Column.getElem?_cells_select (hsize d hd) hik⟩

/-- All rows are rows, however many columns are left. -/
theorem rowsAt_keep {t : Table} (ht : t.WellFormed) (p : Column → Bool) :
    RowsAt t (List.range t.height) [] (t.keep p) := by
  refine ⟨List.nodup_range, fun i hi => List.mem_range.1 hi, ?_, ?_⟩
  · intro c hc
    rw [List.length_range]
    exact ht.2 c (List.mem_filter.1 hc).1
  · intro c hc _
    refine ⟨c, ht.column?_name (List.mem_filter.1 hc).1, fun i k hik => ?_⟩
    obtain ⟨_, heq⟩ := List.getElem?_eq_some_iff.1 hik
    rw [List.getElem_range] at heq
    rw [heq]

/-- A new version of a column leaves the rows of all others. -/
theorem RowsAt.replace {t u v : Table} {positions : List Nat} {aside : List String}
    (h : RowsAt t positions aside u) (hu : u.names.Nodup) {c : Column}
    (hv : u.replace c = .ok v) : RowsAt t positions (aside ++ [c.name]) v := by
  obtain ⟨hsize, hmem, rfl⟩ := (replace_eq_ok_iff hu).1 hv
  refine ⟨h.nodup, h.lt_height, ?_, ?_⟩
  · intro d hd
    obtain ⟨e, he, rfl⟩ := List.mem_map.1 hd
    split
    · rw [hsize, h.height_eq (List.ne_nil_of_mem he)]
    · exact h.size_eq e he
  · intro d hd hname
    obtain ⟨e, he, rfl⟩ := List.mem_map.1 hd
    split at hname
    · exact absurd (List.mem_append_right _ List.mem_cons_self) hname
    · next hne =>
      rw [if_neg hne]
      exact h.cells_eq e he fun haside => hname (List.mem_append_left _ haside)

end Table

/-! ### Transformations and plans -/

/-- The column that a transformation groups by. -/
def Transformation.grouped : Transformation → List String
  | .groupBy column _ _ => [column]
  | _ => []

/-- The columns that a plan groups by. -/
def Plan.grouped (plan : Plan) : List String := plan.flatMap Transformation.grouped

theorem Plan.mem_grouped {plan : Plan} {name : String} :
    name ∈ plan.grouped ↔ ∃ aggregate keys, .groupBy name aggregate keys ∈ plan := by
  unfold grouped
  rw [List.mem_flatMap]
  constructor
  · rintro ⟨tr, htr, hname⟩
    cases tr with
    | groupBy column aggregate keys =>
      rw [List.mem_singleton.1 hname]
      exact ⟨aggregate, keys, htr⟩
    | empty | dropColumn | sortBy | filterBy => cases hname
  · rintro ⟨aggregate, keys, hstep⟩
    exact ⟨_, hstep, List.mem_singleton.2 rfl⟩

/-- A column as long as the table is high has its positions among the rows. -/
theorem Table.WellFormed.lt_height {t : Table} (ht : t.WellFormed) {c : Column}
    (hc : c ∈ t.columns) {i : Nat} (hi : i < c.contents.length) : i < t.height := by
  rw [c.length_contents, ht.2 c hc] at hi
  exact hi

/-- A transformation takes rows as a whole. -/
theorem Transformation.Applied.rowsAt {t u : Table} {tr : Transformation}
    (h : Applied t tr u) (ht : t.WellFormed) : ∃ p, t.RowsAt p tr.grouped u := by
  cases h with
  | empty =>
    have hall : t.keep (fun _ => true) = t := by
      rw [Table.keep, List.filter_true]
    exact ⟨_, hall ▸ Table.rowsAt_keep ht fun _ => true⟩
  | dropColumn => exact ⟨_, Table.rowsAt_keep ht _⟩
  | @sortBy column c direction hcolumn =>
    obtain ⟨hmem, -⟩ := Table.mem_of_column? hcolumn
    have hperm := direction.positions_perm c.header.type c.contents
    refine ⟨_, Table.rowsAt_select ht (hperm.nodup_iff.2 List.nodup_range) fun i hi => ?_⟩
    exact ht.lt_height hmem (List.mem_range.1 (hperm.subset hi))
  | @groupBy column c aggregate keys u hcolumn haggregate hreplace =>
    obtain ⟨hmem, rfl⟩ := Table.mem_of_column? hcolumn
    have hrows := Table.rowsAt_select ht (nodup_firstsOf c.header.type keys c.contents)
      fun i hi => ht.lt_height hmem (lt_of_mem_firstsOf hi)
    have hreplaced := hrows.replace (ht.select _).1 hreplace
    rw [name_aggregated] at hreplaced
    exact ⟨_, hreplaced⟩
  | filterBy hcolumn hrelation =>
    obtain ⟨hmem, -⟩ := Table.mem_of_column? hcolumn
    refine ⟨_, Table.rowsAt_select ht (nodup_positionsOf _ _) fun i hi => ?_⟩
    exact ht.lt_height hmem (lt_of_mem_positionsOf hi)

/-- A plan takes rows as a whole, step by step. -/
theorem Plan.Applied.rowsAt {t u : Table} {plan : Plan} (h : Applied t plan u)
    (ht : t.WellFormed) : ∃ p, t.RowsAt p plan.grouped u := by
  induction h with
  | nil t =>
    obtain ⟨p, hp⟩ := Transformation.Applied.empty.rowsAt ht
    exact ⟨p, hp⟩
  | cons head tail ih =>
    obtain ⟨p, hp⟩ := head.rowsAt ht
    obtain ⟨q, hq⟩ := ih (head.wellFormed ht)
    exact ⟨_, hp.trans hq⟩

/-- **The rows of a result are rows of the table.**  One list of positions, in which no row
stands twice, serves all columns of the result: each has one cell for each position, and,
unless a step of the plan grouped by it, it is the cell, text and row of origin alike, that
stood there in the column of the same name. -/
theorem Plan.exists_positions_of_execute {t : Table} (ht : t.WellFormed) {plan : Plan}
    {e : Execution} (h : plan.execute t = .ok e) :
    ∃ p : List Nat, p.Nodup ∧ (∀ k ∈ p, k < t.height) ∧
      ∀ c ∈ e.table.columns, c.size = p.length ∧
        ((∀ aggregate keys, .groupBy c.name aggregate keys ∉ plan) →
          ∃ d, t.column? c.name = some d ∧
            ∀ i k : Nat, p[i]? = some k →
              ∃ cell, c.cells[i]? = some cell ∧ d.cells[k]? = some cell) := by
  obtain ⟨p, hp⟩ := (applied_of_executeFrom h).rowsAt ht
  refine ⟨p, hp.nodup, hp.lt_height, fun c hc => ⟨hp.size_eq c hc, fun hgroup => ?_⟩⟩
  obtain ⟨d, hd, hcells⟩ := hp.cells_eq c hc fun hmem => by
    obtain ⟨aggregate, keys, hstep⟩ := mem_grouped.1 hmem
    exact hgroup aggregate keys hstep
  refine ⟨d, hd, fun i k hik => ?_⟩
  have hi : i < c.size := by
    rw [hp.size_eq c hc]
    exact (List.getElem?_eq_some_iff.1 hik).1
  obtain ⟨cell, hcell⟩ := Option.isSome_iff_exists.1 (Column.isSome_getElem?_cells hi)
  exact ⟨cell, hcell, hcells i k hik ▸ hcell⟩

/-- The last name of each of two teams, and the ranks dropped. -/
def Plan.lastOfTeams : Plan := [
  .filterBy ⟨"Rank", .notEquals, "2"⟩, .sortBy "Name" .descending,
  .groupBy "Team" .concat (.ofList ["b", "c"]), .dropColumn ["Rank"]]

/-- Filtering, sorting, grouping and dropping take the rows of `cy` and `dee`. -/
theorem Plan.exists_positions_people :
    Table.people.WellFormed ∧ ∃ e, lastOfTeams.execute Table.people = .ok e ∧
      e.table = ⟨[⟨⟨"Name", .text, 0⟩, [⟨"cy", 2⟩, ⟨"dee", 3⟩]⟩,
        ⟨⟨"Team", .text, 1⟩, [⟨"b,b", 0⟩, ⟨"c", 1⟩]⟩]⟩ ∧
      ∃ p : List Nat, p.Nodup ∧ (∀ k ∈ p, k < Table.people.height) ∧
        ∀ c ∈ e.table.columns, c.size = p.length ∧
          ((∀ aggregate keys, .groupBy c.name aggregate keys ∉ lastOfTeams) →
            ∃ d, Table.people.column? c.name = some d ∧
              ∀ i k : Nat, p[i]? = some k →
                ∃ cell, c.cells[i]? = some cell ∧ d.cells[k]? = some cell) := by
  have ht : Table.people.WellFormed := by decide
  have h : lastOfTeams.execute Table.people = .ok ⟨
      ⟨[⟨⟨"Name", .text, 0⟩, [⟨"cy", 2⟩, ⟨"dee", 3⟩]⟩,
        ⟨⟨"Team", .text, 1⟩, [⟨"b,b", 0⟩, ⟨"c", 1⟩]⟩]⟩,
      [⟨0, .filterBy, ["FilterBy", "Rank", "NotEquals", "2"], 4, 3, 3, 3⟩,
        ⟨1, .sortBy, ["SortBy", "Name", "Descending"], 3, 3, 3, 3⟩,
        ⟨2, .groupBy, ["GroupBy", "Team", "ConcatValues", "b,c"], 3, 2, 3, 3⟩,
        ⟨3, .dropColumn, ["DropColumn", "Rank"], 2, 2, 3, 2⟩]⟩ := by cbv
  exact ⟨ht, _, h, rfl, exists_positions_of_execute ht h⟩

end TableTalk
