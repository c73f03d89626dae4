import TableTalk.Proofs.Orders
import TableTalk.Proofs.Selecting

/-!
# Sorting by one column after another

A sort looks at one column and moves whole rows.  It is stable, so what was decided by an
earlier sort stays decided wherever the later one cannot tell two rows apart: sorts in a row
order a table lexicographically, the last one first, and in the end by position.  This order is
strict, so there is one list of positions in this order and no other.

Cells that do not read stand behind all others, in either direction, and cannot be told apart.

## Main definitions

* `Direction.Ahead`, `Level` — which of two readings a sort puts in front, and which it leaves.
* `SortKey`, `Before` — a column and a direction, and the order of rows by a list of them.
* `InOrder` — some rows in the order of a list of keys.
* `Table.Rearranged` — a table with the same rows in another order.

## Main results

* `Direction.pairwise_positions` — what the positions of a sort are sorted by.
* `InOrder.unique` — rows have one order.
* `InOrder.exists_sort` — **a sort puts its key in front of the others.**
* `Table.exists_sort` — the rows of a table after one sort.
* `Table.exists_sorted` — a sorted table.
* `Table.exists_sorted_twice` — a table that is sorted by one column and then by another.
-/

namespace List

/-- A sort is stable: elements that may stand either way round stay as they are. -/
theorem pairwise_mergeSort_stable {α : Type} {le : α → α → Bool}
    (trans : ∀ a b c, le a b = true → le b c = true → le a c = true)
    (total : ∀ a b, (le a b || le b a) = true) {r : α → α → Prop} {l : List α}
    (h : l.Pairwise r) :
    (l.mergeSort le).Pairwise fun a b => le a b = true ∧ (le b a = true → r a b) := by
  rw [← mergeSort_zipIdx, pairwise_map]
  have hsorted := pairwise_mergeSort (zipIdxLE_trans trans) (zipIdxLE_total total) l.zipIdx
  have hdistinct : (l.zipIdx.mergeSort (zipIdxLE le)).Pairwise fun a b => a.2 ≠ b.2 := by
    rw [← pairwise_map (f := Prod.snd) (R := fun i j => i ≠ j), ← nodup_iff_pairwise_ne,
      ((mergeSort_perm _ _).map _).nodup_iff, zipIdx_map_snd]
    exact nodup_range'
  refine (hsorted.and hdistinct).imp_of_mem ?_
  rintro ⟨a, i⟩ ⟨b, j⟩ ha hb ⟨hle, hij⟩
  rw [mem_mergeSort, mk_mem_zipIdx_iff_getElem?] at ha hb
  obtain ⟨hi, rfl⟩ := getElem?_eq_some_iff.1 ha
  obtain ⟨hj, rfl⟩ := getElem?_eq_some_iff.1 hb
  unfold zipIdxLE at hle
  split at hle
  · next hab =>
    refine ⟨hab, fun hba => ?_⟩
    rw [if_pos hba, decide_eq_true_eq] at hle
    exact pairwise_iff_getElem.1 h i j hi hj (Nat.lt_of_le_of_ne hle hij)
  · cases hle

/-- Of two elements one is in front of the other. -/
theorem pair_sublist_or {α : Type} {l : List α} {a b : α} (ha : a ∈ l) (hb : b ∈ l)
    (hne : a ≠ b) : [a, b] <+ l ∨ [b, a] <+ l := by
  obtain ⟨front, back, rfl⟩ := append_of_mem ha
  rcases mem_append.1 hb with hfront | hback
  · exact .inr ((singleton_sublist.2 hfront).append ((nil_sublist back).cons_cons a))
  · have hbehind : b ∈ back := (mem_cons.1 hback).resolve_left hne.symm
    exact .inl (((singleton_sublist.2 hbehind).cons_cons a).trans (sublist_append_right _ _))

end List

namespace TableTalk

/-! ### Rows that a sort can tell apart -/

/-- The reading that a sort puts in front of the other one. -/
inductive Direction.Ahead : Direction → Option Value → Option Value → Prop
  /-- Of two values, an ascending sort puts the smaller one in front. -/
  | ascending {x y : Value} (h : Value.compare x y = .lt) : Ahead .ascending (some x) (some y)
  /-- Of two values, a descending sort puts the greater one in front. -/
  | descending {x y : Value} (h : Value.compare x y = .gt) : Ahead .descending (some x) (some y)
  /-- In both directions, what reads is in front of what does not. -/
  | read {direction : Direction} {x : Value} : Ahead direction (some x) none

/-- The readings that no sort can tell apart. -/
inductive Level : Option Value → Option Value → Prop
  /-- Two equal values. -/
  | equal {x y : Value} (h : Value.compare x y = .eq) : Level (some x) (some y)
  /-- Two texts that do not read. -/
  | unread : Level none none

namespace Direction

variable {d : Direction} {r s : Option Value}

theorem order_eq_lt_iff : d.order r s = .lt ↔ d.Ahead r s := by
  constructor
  · intro h
    cases r with
    | none => cases d <;> cases s <;> cases h
    | some x =>
      cases s with
      | none => exact .read
      | some y =>
        cases d with
        | ascending => exact .ascending h
        | descending => exact .descending (by simpa [order] using h)
  · intro h
    cases h with
    | ascending h => exact h
    | descending h => simpa [order] using h
    | read => cases d <;> rfl

theorem order_eq_eq_iff : d.order r s = .eq ↔ Level r s := by
  constructor
  · intro h
    cases r with
    | none =>
      cases s with
      | none => exact .unread
      | some y => cases d <;> cases h
    | some x =>
      cases s with
      | none => cases d <;> cases h
      | some y =>
        cases d with
        | ascending => exact .equal h
        | descending => exact .equal (by simpa [order] using h)
  · intro h
    cases h with
    | equal h => cases d <;> simp [order, Value.compareReadings, h]
    | unread => cases d <;> rfl

end Direction

instance (direction : Direction) (r s : Option Value) : Decidable (direction.Ahead r s) :=
  decidable_of_iff _ Direction.order_eq_lt_iff

instance (r s : Option Value) : Decidable (Level r s) :=
  decidable_of_iff (Direction.ascending.order r s = .eq) Direction.order_eq_eq_iff

theorem Level.symm {r s : Option Value} (h : Level r s) : Level s r := by
  rw [← Direction.order_eq_eq_iff (d := .ascending)] at h ⊢
  rw [← Direction.order_swap, h]
  rfl

theorem Direction.Ahead.not_level {direction : Direction} {r s : Option Value}
    (h : direction.Ahead r s) : ¬Level r s := by
  intro hlevel
  rw [← order_eq_lt_iff] at h
  rw [← order_eq_eq_iff (d := direction), h] at hlevel
  cases hlevel

theorem Direction.Ahead.asymm {direction : Direction} {r s : Option Value}
    (h : direction.Ahead r s) : ¬direction.Ahead s r := by
  intro h'
  rw [← order_eq_lt_iff] at h h'
  rw [← order_swap, h] at h'
  cases h'

/-! ### The order of rows by some keys -/

/-- What the text of a column in a row reads as, if it reads. -/
def Column.reading? (c : Column) (i : Nat) : Option Value :=
  (c.contents[i]?).bind (Value.read? c.header.type)

/-- A column to sort by, and the direction. -/
structure SortKey where
  /-- The column. -/
  column : Column
  /-- The direction. -/
  direction : Direction
  deriving Repr, DecidableEq

/-- The order of rows by some keys, each of which decides where those in front of it cannot.
Where no key decides, the rows stand in order of position. -/
def Before : List SortKey → Nat → Nat → Prop
  | [], i, j => i < j
  | key :: keys, i, j =>
    key.direction.Ahead (key.column.reading? i) (key.column.reading? j) ∨
      Level (key.column.reading? i) (key.column.reading? j) ∧ Before keys i j

instance decidableBefore : (keys : List SortKey) → (i j : Nat) → Decidable (Before keys i j)
  | [], i, j => inferInstanceAs (Decidable (i < j))
  | key :: keys, i, j =>
    have := decidableBefore keys i j
    inferInstanceAs (Decidable (key.direction.Ahead _ _ ∨ Level _ _ ∧ Before keys i j))

/-- Of two rows at most one is before the other. -/
theorem before_asymm {keys : List SortKey} {i j : Nat} (h : Before keys i j) :
    ¬Before keys j i := by
  induction keys with
  | nil => exact Nat.lt_asymm h
  | cons key keys ih =>
    rcases h with hahead | ⟨hlevel, h⟩
    · rintro (hahead' | ⟨hlevel', -⟩)
      · exact hahead.asymm hahead'
      · exact hahead.not_level hlevel'.symm
    · rintro (hahead' | ⟨-, h'⟩)
      · exact hahead'.not_level hlevel.symm
      · exact ih h h'

/-- Some rows in the order of some keys. -/
structure InOrder (keys : List SortKey) (rows positions : List Nat) : Prop where
  /-- The positions are those of the rows. -/
  perm : positions.Perm rows
  /-- Each row is before all that follow it. -/
  pairwise : positions.Pairwise (Before keys)

namespace InOrder

variable {keys : List SortKey} {rows p q : List Nat}

theorem range (n : Nat) : InOrder [] (List.range n) (List.range n) :=
  ⟨.refl _, List.pairwise_lt_range⟩

/-- Rows have one order. -/
theorem unique (hp : InOrder keys rows p) (hq : InOrder keys rows q) : p = q :=
  (hp.perm.trans hq.perm.symm).eq_of_pairwise
    (fun _ _ _ _ h h' => absurd h' (before_asymm h)) hp.pairwise hq.pairwise

/-- A row stands in front of another one if it is before it. -/
theorem sublist_iff (h : InOrder keys rows p) {i j : Nat} (hi : i ∈ rows) (hj : j ∈ rows)
    (hne : i ≠ j) : List.Sublist [i, j] p ↔ Before keys i j := by
  constructor
  · intro hpair
    exact List.pairwise_pair.1 (h.pairwise.sublist hpair)
  · intro hbefore
    -- If the other row stood in front, each would be before the other.
    refine (List.pair_sublist_or (h.perm.mem_iff.2 hi) (h.perm.mem_iff.2 hj) hne).resolve_right ?_
    intro hpair
    exact before_asymm hbefore (List.pairwise_pair.1 (h.pairwise.sublist hpair))

/-- Rows that are left out leave the others in order. -/
theorem filter (h : InOrder keys rows p) (keeps : Nat → Bool) :
    InOrder keys (rows.filter keeps) (p.filter keeps) :=
  ⟨h.perm.filter keeps, h.pairwise.filter keeps⟩

/-- Behind a key of a column no other key of the column decides. -/
theorem of_repeated {c : Column} {d d' : Direction}
    (h : InOrder (⟨c, d⟩ :: ⟨c, d'⟩ :: keys) rows p) : InOrder (⟨c, d⟩ :: keys) rows p := by
  refine ⟨h.perm, h.pairwise.imp ?_⟩
  rintro i j (hahead | ⟨hlevel, hahead | ⟨-, hbefore⟩⟩)
  · exact .inl hahead
  · exact absurd hlevel hahead.not_level
  · exact .inr ⟨hlevel, hbefore⟩

end InOrder

/-! ### The positions of a sort -/

theorem Direction.positions_eq (direction : Direction) (type : ColumnType)
    (contents : List String) : direction.positions type contents =
      (contents.zipIdx.mergeSort fun a b =>
        (direction.orderTexts type a.1 b.1).isLE).map (·.2) := by
  have hreadings :
      (contents.zipIdx.mergeSort fun a b => (direction.orderTexts type a.1 b.1).isLE).map
        (Prod.map (Value.read? type) id) =
      (contents.zipIdx.map (Prod.map (Value.read? type) id)).mergeSort
        fun a b => (direction.order a.1 b.1).isLE := by
    refine List.map_mergeSort ?_
    intro a _ b _
    rfl
  rw [Direction.positions, List.zipIdx_map, ← hreadings, List.map_map]
  rfl

/-- The positions of a sort are sorted by its column, and in the end by position. -/
theorem Direction.pairwise_positions (direction : Direction) (c : Column) :
    (direction.positions c.header.type c.contents).Pairwise (Before [⟨c, direction⟩]) := by
  rw [positions_eq, List.pairwise_map]
  have hplaces : (c.contents.zipIdx).Pairwise fun a b => a.2 < b.2 := by
    rw [← List.pairwise_map (f := Prod.snd) (R := (· < ·)), List.zipIdx_map_snd]
    exact List.pairwise_lt_range'
  refine (List.pairwise_mergeSort_stable ?_ ?_ hplaces).imp_of_mem ?_
  · intro a b e h h'
    exact Std.TransCmp.isLE_trans h h'
  · intro a b
    rw [← direction.orderTexts_swap c.header.type a.1 b.1]
    cases direction.orderTexts c.header.type a.1 b.1 <;> rfl
  · rintro ⟨s, i⟩ ⟨t, j⟩ hs ht ⟨hle, hplace⟩
    rw [List.mem_mergeSort, List.mk_mem_zipIdx_iff_getElem?] at hs ht
    have hi : c.reading? i = Value.read? c.header.type s := by rw [Column.reading?, hs]; rfl
    have hj : c.reading? j = Value.read? c.header.type t := by rw [Column.reading?, ht]; rfl
    simp only [Before, hi, hj]
    cases horder : direction.orderTexts c.header.type s t with
    | lt => exact .inl (order_eq_lt_iff.1 horder)
    | eq =>
      refine .inr ⟨order_eq_eq_iff.1 horder, hplace ?_⟩
      rw [← direction.orderTexts_swap c.header.type s t, horder]
      rfl
    | gt =>
      rw [horder] at hle
      cases hle

namespace Table

variable {t u : Table} {name : String} {c : Column} {p : List Nat}

/-! ### Readings of rows -/

theorem getElem?_contents_select (ht : t.WellFormed) (hc : c ∈ t.columns)
    (hp : ∀ i ∈ p, i < t.height) {i k : Nat} (hi : p[i]? = some k) :
    (c.select p).contents[i]? = c.contents[k]? := by
  rw [Column.contents, Column.contents, List.getElem?_map, List.getElem?_map,
    Column.getElem?_cells_select (fun k hk => ht.2 c hc ▸ hp k hk) hi]

theorem reading?_select (ht : t.WellFormed) (hc : c ∈ t.columns) (hp : ∀ i ∈ p, i < t.height)
    {i k : Nat} (hi : p[i]? = some k) : (c.select p).reading? i = c.reading? k := by
  rw [Column.reading?, Column.reading?, getElem?_contents_select ht hc hp hi]
  rfl

end Table

/-! ### Sorting rows that are in order -/

/-- **A sort puts its key in front of the others.**  Where it cannot tell two rows apart, they
stay in the order in which they stood. -/
theorem InOrder.exists_sort {t : Table} (ht : t.WellFormed) {keys : List SortKey}
    {rows p : List Nat} (h : InOrder keys rows p) (hrows : ∀ i ∈ rows, i < t.height)
    {name : String} {c : Column} (hc : t.column? name = some c) (direction : Direction) :
    ∃ q, InOrder (⟨c, direction⟩ :: keys) rows q ∧
      (t.select p).sort name direction = .ok (t.select q) := by
  obtain ⟨hmem, -⟩ := Table.mem_of_column? hc
  have hp : ∀ i ∈ p, i < t.height := fun i hi => hrows i (h.perm.subset hi)
  have hsize : (c.select p).contents.length = p.length := by
    rw [Column.length_contents]
    exact Column.size_select_of_lt fun i hi => ht.2 c hmem ▸ hp i hi
  have hperm := direction.positions_perm c.header.type (c.select p).contents
  rw [hsize] at hperm
  refine ⟨Table.through p (direction.positions c.header.type (c.select p).contents),
    ⟨?_, ?_⟩, ?_⟩
  · refine Trans.trans ((hperm.filterMap _).trans (List.Perm.of_eq ?_)) h.perm
    exact List.filterMap_getElem?_range p
  · rw [Table.through, List.pairwise_filterMap]
    refine (direction.pairwise_positions (c.select p)).imp ?_
    intro k l hkl i hi j hj
    simp only [Before, Table.reading?_select ht hmem hp hi, Table.reading?_select ht hmem hp hj]
      at hkl
    rcases hkl with hahead | ⟨hlevel, hlt⟩
    · exact .inl hahead
    · obtain ⟨hk, rfl⟩ := List.getElem?_eq_some_iff.1 hi
      obtain ⟨hl, rfl⟩ := List.getElem?_eq_some_iff.1 hj
      exact .inr ⟨hlevel, List.pairwise_iff_getElem.1 h.pairwise k l hk hl hlt⟩
  · rw [← Table.select_select ht hp]
    have hcolumn : (t.select p).column? name = some (c.select p) := by
      rw [Table.column?_select, hc, Option.map_some]
    rw [Table.sort, Transformation.target_eq_ok_iff.2 hcolumn, Except.ok_bind]
    rfl

/-- One sort puts the rows in the order of its key. -/
theorem Table.exists_sort {t : Table} (ht : t.WellFormed) {name : String} {c : Column}
    (hc : t.column? name = some c) (direction : Direction) :
    ∃ p, InOrder [⟨c, direction⟩] (List.range t.height) p ∧
      t.sort name direction = .ok (t.select p) := by
  have h := (InOrder.range t.height).exists_sort ht (fun i hi => List.mem_range.1 hi) hc direction
  rwa [select_range ht] at h

/-! ### Sorts in a row -/

/-- The step of a plan that sorts by a key. -/
def SortKey.step (key : SortKey) : Transformation := .sortBy key.column.name key.direction

/-- Sorts in a row put the rows in the order of their keys, the last one first. -/
theorem InOrder.exists_applied {t : Table} (ht : t.WellFormed) (keys : List SortKey)
    (hkeys : ∀ key ∈ keys, key.column ∈ t.columns) :
    ∃ p, InOrder keys (List.range t.height) p ∧
      Plan.Applied t (keys.reverse.map SortKey.step) (t.select p) := by
  induction keys with
  | nil =>
    refine ⟨List.range t.height, .range _, ?_⟩
    rw [Table.select_range ht]
    exact .nil t
  | cons key keys ih =>
    obtain ⟨p, hp, happlied⟩ := ih fun k hk => hkeys k (List.mem_cons_of_mem _ hk)
    have hc := ht.column?_name (hkeys key List.mem_cons_self)
    obtain ⟨q, hq, hsort⟩ := hp.exists_sort ht (fun i hi => List.mem_range.1 hi) hc key.direction
    refine ⟨q, hq, ?_⟩
    rw [List.reverse_cons, List.map_append, Plan.applied_append_iff]
    exact ⟨_, happlied, .cons (Transformation.apply_eq_ok_iff.1 hsort) (.nil _)⟩

namespace Table

/-! ### Rows as a whole -/

/-- The cells of one row, column by column. -/
def cellsAt (t : Table) (i : Nat) : List (Option Cell) := t.columns.map fun c => c.cells[i]?

/-- The table `u` has the rows of `t`, each of them moved as a whole. -/
structure Rearranged (t : Table) (positions : List Nat) (u : Table) : Prop where
  /-- Every row has one new place. -/
  perm : positions.Perm (List.range t.height)
  /-- The columns are the same. -/
  schema_eq : u.schema = t.schema
  /-- There are as many rows. -/
  height_eq : u.height = t.height
  /-- All columns are as long as there are rows. -/
  wellFormed : u.WellFormed
  /-- A row has all the cells that it had. -/
  cellsAt_eq : ∀ i k : Nat, positions[i]? = some k → u.cellsAt i = t.cellsAt k

variable {t : Table} {p : List Nat}

theorem cellsAt_select (ht : t.WellFormed) (hp : ∀ i ∈ p, i < t.height) {i k : Nat}
    (hi : p[i]? = some k) : (t.select p).cellsAt i = t.cellsAt k := by
  rw [cellsAt, cellsAt, columns_select, List.map_map]
  refine List.map_congr_left fun c hc => ?_
  exact Column.getElem?_cells_select (fun k hk => ht.2 c hc ▸ hp k hk) hi

theorem rearranged_select (ht : t.WellFormed) (hp : p.Perm (List.range t.height)) :
    t.Rearranged p (t.select p) := by
  have hlt : ∀ i ∈ p, i < t.height := fun i hi => List.mem_range.1 (hp.subset hi)
  refine ⟨hp, schema_select t p, ?_, ht.select p, fun i k hi => cellsAt_select ht hlt hi⟩
  by_cases hne : t.columns = []
  · rw [select, height, height, hne]
    rfl
  · rw [height_select hlt hne, hp.length_eq, List.length_range]

/-- **A sort moves whole rows:** those that read come first, in ascending or descending order,
then those that do not, and rows that cannot be told apart stay in the order in which they
stood, whatever the direction. -/
theorem exists_sorted (ht : t.WellFormed) {column : String} {c : Column}
    (hc : t.column? column = some c) (direction : Direction) :
    ∃ u positions, t.sort column direction = .ok u ∧ t.Rearranged positions u ∧
      positions.Pairwise fun i j =>
        direction.Ahead (c.reading? i) (c.reading? j) ∨
          Level (c.reading? i) (c.reading? j) ∧ i < j := by
  obtain ⟨hmem, rfl⟩ := mem_of_column? hc
  obtain ⟨p, horder, happlied⟩ := InOrder.exists_applied ht [⟨c, direction⟩]
    fun key hkey => by
      rw [List.mem_singleton.1 hkey]
      exact hmem
  cases happlied with
  | cons head tail =>
    cases tail
    exact ⟨_, p, Transformation.apply_eq_ok_iff.2 head, rearranged_select ht horder.perm,
      horder.pairwise⟩

/-- The times of five runners, two of whom have none. -/
def heats : Table := ⟨[
  .ofValues ⟨"Name", .text, 0⟩ ["dee", "ann", "cy", "bob", "eve"],
  .ofValues ⟨"Time", .number, 1⟩ ["9.5", "n/a", "10", "9.50", ""]]⟩

/-- The slowest runner first, and those without a time last. -/
theorem exists_sorted_heats :
    heats.WellFormed ∧ ∃ c, heats.column? "Time" = some c ∧
      ∃ u, heats.sort "Time" .descending = .ok u ∧ heats.Rearranged [2, 0, 3, 1, 4] u ∧
        [2, 0, 3, 1, 4].Pairwise fun i j =>
          Direction.descending.Ahead (c.reading? i) (c.reading? j) ∨
            Level (c.reading? i) (c.reading? j) ∧ i < j := by
  have ht : heats.WellFormed := by decide
  have hc : heats.column? "Time" =
      some (.ofValues ⟨"Time", .number, 1⟩ ["9.5", "n/a", "10", "9.50", ""]) := by decide
  obtain ⟨u, positions, hsort, hrearranged, hpairwise⟩ := exists_sorted ht hc .descending
  have horder : InOrder [⟨.ofValues ⟨"Time", .number, 1⟩ ["9.5", "n/a", "10", "9.50", ""],
      .descending⟩] (List.range heats.height) [2, 0, 3, 1, 4] :=
    ⟨by decide, by decide +kernel⟩
  obtain rfl := horder.unique ⟨hrearranged.perm, hpairwise⟩
  exact ⟨ht, _, hc, u, hsort, hrearranged, hpairwise⟩

/-- **Two sorts in a row order the rows by the second column, then by the first, and in the end
by position.**  After a sort by a column, an earlier one by the same column is forgotten. -/
theorem exists_sorted_twice (ht : t.WellFormed) {a b : String} {ca cb : Column}
    (ha : t.column? a = some ca) (hb : t.column? b = some cb) (d₁ d₂ : Direction) :
    ∃ u v positions, t.sort a d₁ = .ok u ∧ u.sort b d₂ = .ok v ∧ t.Rearranged positions v ∧
      positions.Pairwise (Before [⟨cb, d₂⟩, ⟨ca, d₁⟩]) ∧ (a = b → t.sort b d₂ = .ok v) := by
  obtain ⟨hmemA, rfl⟩ := mem_of_column? ha
  obtain ⟨hmemB, rfl⟩ := mem_of_column? hb
  obtain ⟨p, horder, happlied⟩ := InOrder.exists_applied ht [⟨cb, d₂⟩, ⟨ca, d₁⟩]
    fun key hkey => by
      rcases List.mem_pair.1 hkey with rfl | rfl
      · exact hmemB
      · exact hmemA
  cases happlied with
  | @cons _ u _ _ _ head tail =>
    cases tail with
    | cons head' tail' =>
      cases tail'
      refine ⟨u, _, p, Transformation.apply_eq_ok_iff.2 head,
        Transformation.apply_eq_ok_iff.2 head', rearranged_select ht horder.perm,
        horder.pairwise, fun hname => ?_⟩
      -- The sort by the column alone has its rows in the same order.
      have hsame : ca = cb := by
        rw [hname, hb, Option.some.injEq] at ha
        exact ha.symm
      subst hsame
      obtain ⟨q, hq, hsort⟩ := (InOrder.range t.height).exists_sort ht
        (fun i hi => List.mem_range.1 hi) hb d₂
      rw [select_range ht] at hsort
      rw [hsort, hq.unique horder.of_repeated]

/-- The slowest runner first, of two who are equally fast the one whose name comes first, and
those without a time by their names. -/
theorem exists_sorted_twice_heats :
    heats.WellFormed ∧ ∃ ca cb, heats.column? "Name" = some ca ∧ heats.column? "Time" = some cb ∧
      ∃ u v, heats.sort "Name" .ascending = .ok u ∧ u.sort "Time" .descending = .ok v ∧
        heats.Rearranged [2, 3, 0, 1, 4] v ∧
        [2, 3, 0, 1, 4].Pairwise (Before [⟨cb, .descending⟩, ⟨ca, .ascending⟩]) ∧
        ("Name" = "Time" → heats.sort "Time" .descending = .ok v) := by
  have ht : heats.WellFormed := by decide
  have ha : heats.column? "Name" =
      some (.ofValues ⟨"Name", .text, 0⟩ ["dee", "ann", "cy", "bob", "eve"]) := by decide
  have hb : heats.column? "Time" =
      some (.ofValues ⟨"Time", .number, 1⟩ ["9.5", "n/a", "10", "9.50", ""]) := by decide
  obtain ⟨u, v, positions, hsort, hsort', hrearranged, hpairwise, hsame⟩ :=
    exists_sorted_twice ht ha hb .ascending .descending
  have horder : InOrder [
      ⟨.ofValues ⟨"Time", .number, 1⟩ ["9.5", "n/a", "10", "9.50", ""], .descending⟩,
      ⟨.ofValues ⟨"Name", .text, 0⟩ ["dee", "ann", "cy", "bob", "eve"], .ascending⟩]
      (List.range heats.height) [2, 3, 0, 1, 4] := ⟨by decide, by decide +kernel⟩
  obtain rfl := horder.unique ⟨hrearranged.perm, hpairwise⟩
  exact ⟨ht, _, _, ha, hb, u, v, hsort, hsort', hrearranged, hpairwise, hsame⟩

end Table
end TableTalk
