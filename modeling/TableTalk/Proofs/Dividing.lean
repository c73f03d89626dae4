import TableTalk.Proofs.Filtering

/-!
# Where a literal divides a sorted table

A filter compares the texts of a column with a literal, a sort compares them with each other, and
both go by one order.  Seen from a literal that reads, every text has a side: a sort puts it in
front of the literal, level with it or behind it, or, if it does not read, behind everything.
Along a sorted column the side never goes back, so a sorted table is one block of rows for each
side, and the first three blocks are what the filters by the literal keep.

## Main definitions

* `Direction.side` — the side of a literal on which a sort puts a text.
* `Direction.relations` — the relations whose rows a sort puts one block after the other.
* `Table.lines` — the rows of a table with all their cells.
* `Table.unread` — the rows whose text in a column does not read.

## Main results

* `List.flatMap_range_filter` — a list along which a label never falls, cut up by the label.
* `Direction.side_mono` — a sort never goes back to an earlier side.
* `Direction.holds?_iff_side` — what stands in a relation to a literal stands on one side of it.
* `Table.exists_divided` — **a sorted table is what the filters keep of it, block after block.**
-/

namespace List

variable {α : Type}

/-- A list in which all that satisfies a test comes first is cut in two by the test. -/
theorem filter_append_filter_of_pairwise {p : α → Bool} {l : List α}
    (h : l.Pairwise fun a b => p b = true → p a = true) :
    l.filter p ++ l.filter (fun a => !p a) = l := by
  induction l with
  | nil => rfl
  | cons a l ih =>
    obtain ⟨ha, hl⟩ := pairwise_cons.1 h
    by_cases hp : p a = true
    · simp [hp, ih hl]
    · -- Behind an element that fails the test nothing satisfies it.
      have hnone : ∀ b ∈ l, ¬p b = true := fun b hb hpb => hp (ha b hb hpb)
      have hfront : l.filter p = [] := filter_eq_nil_iff.2 hnone
      have hrest : l.filter (fun b => !p b) = l :=
        filter_eq_self.2 fun b hb => by simp [hnone b hb]
      simp [hp, hfront, hrest]

/-- A list along which a label never falls is its elements of the first label, then those of the
second, and so on. -/
theorem flatMap_range_filter {label : α → Nat} {n : Nat} {l : List α}
    (hmono : l.Pairwise fun a b => label a ≤ label b) (hlt : ∀ a ∈ l, label a < n) :
    (range n).flatMap (fun k => l.filter fun a => label a == k) = l := by
  induction n generalizing l with
  | zero =>
    have hnil : l = [] := eq_nil_iff_forall_not_mem.2 fun a ha => Nat.not_lt_zero _ (hlt a ha)
    simp [hnil]
  | succ n ih =>
    have hsmall : ∀ k ∈ range n, (l.filter fun a => label a == k) =
        (l.filter fun a => decide (label a < n)).filter fun a => label a == k := by
      intro k hk
      rw [filter_filter]
      refine filter_congr fun a _ => ?_
      have := mem_range.1 hk
      by_cases hlabel : label a = k <;> simp [hlabel, this]
    have hlast : (l.filter fun a => label a == n) =
        l.filter fun a => !decide (label a < n) := by
      refine filter_congr fun a ha => ?_
      have := hlt a ha
      rw [Bool.eq_iff_iff]
      simp only [beq_iff_eq, Bool.not_eq_true', decide_eq_false_iff_not]
      omega
    have hcut := filter_append_filter_of_pairwise (p := fun a => decide (label a < n))
      (hmono.imp fun {a b} hab => by simp only [decide_eq_true_eq]; omega)
    rw [range_succ, flatMap_append, flatMap_congr hsmall, ih (hmono.filter _), flatMap_singleton,
      hlast, hcut]
    intro a ha
    simpa using (mem_filter.1 ha).2

end List

namespace TableTalk

/-! ### The sides of a literal -/

namespace Direction

variable {d : Direction} {type : ColumnType} {literal s t : String}

/-- The side of a literal on which a sort puts a text: `0` in front of the literal, `1` level with
it, `2` behind it, and `3` behind all that reads. -/
def side (d : Direction) (type : ColumnType) (literal s : String) : Nat :=
  if (Value.read? type s).isSome then
    match d.orderTexts type s literal with
    | .lt => 0
    | .eq => 1
    | .gt => 2
  else 3

theorem side_of_read?_eq_none (h : Value.read? type s = none) : d.side type literal s = 3 := by
  simp [side, h]

theorem side_le_two_iff (d : Direction) (type : ColumnType) (literal s : String) :
    d.side type literal s ≤ 2 ↔ (Value.read? type s).isSome = true := by
  unfold side
  split
  · next h => split <;> simp [h]
  · next h => simp [h]

theorem side_lt (d : Direction) (type : ColumnType) (literal s : String) :
    d.side type literal s < 4 := by
  unfold side
  split
  · split <;> decide
  · decide

/-- A sort never goes back to an earlier side. -/
theorem side_mono (h : (d.orderTexts type s t).isLE = true) :
    d.side type literal s ≤ d.side type literal t := by
  cases ht : Value.read? type t with
  | none =>
    rw [side_of_read?_eq_none ht]
    exact Nat.le_of_lt_succ (side_lt d type literal s)
  | some y =>
    -- What stands in front of a text that reads does read.
    have hs : (Value.read? type s).isSome = true := by
      cases hs : Value.read? type s with
      | some x => rfl
      | none =>
        rw [orderTexts, hs, ht] at h
        cases d <;> cases h
    simp only [side, hs, ht, Option.isSome_some, if_true]
    cases horder : d.orderTexts type t literal with
    | lt => simp [Std.TransCmp.lt_of_isLE_of_lt h horder]
    | eq =>
      have hle : (d.orderTexts type s literal).isLE = true :=
        Std.TransCmp.isLE_trans h (by simp [horder])
      cases horder' : d.orderTexts type s literal with
      | lt | eq => simp
      | gt => simp [horder'] at hle
    | gt => cases d.orderTexts type s literal <;> simp

/-- The relations to a literal whose rows a sort puts one block after the other. -/
def relations : Direction → List Relation
  | .ascending => [.lessThan, .equals, .greaterThan]
  | .descending => [.greaterThan, .equals, .lessThan]

theorem ne_inRange_of_mem_relations {r : Relation} (h : r ∈ d.relations) : r ≠ .inRange := by
  rintro rfl
  cases d <;> simp [relations] at h

theorem lt_three_of_relations {k : Nat} {r : Relation} (h : d.relations[k]? = some r) : k < 3 := by
  obtain ⟨hk, -⟩ := List.getElem?_eq_some_iff.1 h
  cases d <;> exact hk

/-- What stands in a relation to a literal that reads stands on one side of it. -/
theorem holds?_iff_side (hliteral : (Value.read? type literal).isSome = true) {k : Nat}
    {r : Relation} (hr : d.relations[k]? = some r) :
    r.holds? type s literal = some true ↔ d.side type literal s = k := by
  obtain ⟨x, hx⟩ := Option.isSome_iff_exists.1 hliteral
  -- A text that does not read differs from the literal, which does.
  have hne : Value.read? type s = none → s ≠ literal := by
    rintro hs rfl
    rw [hs] at hx
    cases hx
  match d, k, lt_three_of_relations hr with
  | .ascending, 0, _ | .ascending, 1, _ | .ascending, 2, _
  | .descending, 0, _ | .descending, 1, _ | .descending, 2, _ =>
    cases hr
    cases hs : Value.read? type s with
    | none => simp [Relation.holds?, isOrdered, equalTyped, side, hs, hne hs]
    | some y =>
      cases hcompare : Value.compare y x <;>
        simp [Relation.holds?, isOrdered, equalTyped, compareTyped, side, orderTexts, hs, hx,
          order, Value.compareReadings, hcompare]

/-- To a literal that does not read no text stands in an order. -/
theorem holds?_of_read?_eq_none (hliteral : Value.read? type literal = none) {r : Relation}
    (hr : r = .lessThan ∨ r = .greaterThan) : r.holds? type s literal = some false := by
  rcases hr with rfl | rfl <;> simp [Relation.holds?, isOrdered, hliteral]

end Direction

/-! ### Rows of a table -/

namespace Table

variable {t : Table} {c : Column} {p : List Nat} {name : String}

/-- The rows of the table with all their cells. -/
def lines (t : Table) : List (List (Option Cell)) := (List.range t.height).map t.cellsAt

/-- The rows whose text in a column does not read. -/
def unread (t : Table) (c : Column) : Table :=
  t.select ((List.range t.height).filter fun i => (c.reading? i).isNone)

theorem lines_select (ht : t.WellFormed) (hp : ∀ i ∈ p, i < t.height) (hc : c ∈ t.columns) :
    (t.select p).lines = p.map t.cellsAt := by
  rw [lines, height_select hp (List.ne_nil_of_mem hc)]
  refine List.ext_getElem (by simp) fun k hk _ => ?_
  have hk : k < p.length := by simpa using hk
  rw [List.getElem_map, List.getElem_range, List.getElem_map]
  exact cellsAt_select ht hp (List.getElem?_eq_getElem hk)

/-- Among rows that were taken, the places of those that satisfy a test. -/
theorem through_filter_range {keeps keeps' : Nat → Bool}
    (h : ∀ k i, p[k]? = some i → keeps' k = keeps i) :
    through p ((List.range p.length).filter keeps') = p.filter keeps := by
  conv_rhs => rw [← List.filterMap_getElem?_range p, List.filter_filterMap]
  rw [through, List.filterMap_filter]
  refine List.filterMap_congr fun k hk => ?_
  obtain ⟨i, hi⟩ : ∃ i, p[k]? = some i := ⟨_, List.getElem?_eq_getElem (List.mem_range.1 hk)⟩
  simp [hi, h k i hi, Option.filter_some]

theorem unread_select (ht : t.WellFormed) (hp : ∀ i ∈ p, i < t.height) (hc : c ∈ t.columns) :
    (t.select p).unread (c.select p) = t.select (p.filter fun i => (c.reading? i).isNone) := by
  rw [unread, select_select ht hp, height_select hp (List.ne_nil_of_mem hc)]
  refine congrArg t.select (through_filter_range fun k i hk => ?_)
  rw [reading?_select ht hc hp hk]

/-- A filter by an order relation to a literal that does not read keeps no row. -/
theorem filter_of_read?_eq_none (ht : t.WellFormed) (hc : t.column? name = some c)
    {literal : String} (hliteral : Value.read? c.header.type literal = none) {r : Relation}
    (hr : r = .lessThan ∨ r = .greaterThan) :
    t.filter ⟨name, r, literal⟩ = .ok (t.select []) := by
  have hrelation : r ≠ .inRange := by rcases hr with rfl | rfl <;> decide
  rw [filter_eq ht hc hrelation]
  have hnone : (List.range t.height).filter (Condition.accepts ⟨name, r, literal⟩ c) = [] := by
    refine List.filter_eq_nil_iff.2 fun i _ => ?_
    rw [Condition.accepts]
    cases c.contents[i]? with
    | none => simp
    | some s => simp [Direction.holds?_of_read?_eq_none hliteral hr]
  rw [hnone]

/-- Equal or not: each row is kept by one of two filters. -/
theorem accepts_notEquals {literal : String} {i : Nat} (hi : i < c.contents.length) :
    Condition.accepts ⟨name, .notEquals, literal⟩ c i =
      !Condition.accepts ⟨name, .equals, literal⟩ c i := by
  simp [Condition.accepts, List.getElem?_eq_getElem hi, Relation.holds?]

end Table

/-! ### Sides of rows -/

namespace Column

variable {c : Column} {d : Direction} {literal : String} {p : List Nat}

/-- The side of a literal on which a sort by the column puts a row. -/
def side (c : Column) (d : Direction) (literal : String) (i : Nat) : Nat :=
  ((c.contents[i]?).map (d.side c.header.type literal)).getD 3

theorem side_lt (c : Column) (d : Direction) (literal : String) (i : Nat) :
    c.side d literal i < 4 := by
  rw [side]
  cases c.contents[i]? with
  | none => exact Nat.lt_succ_self 3
  | some s => exact d.side_lt c.header.type literal s

theorem side_eq_three_iff {i : Nat} : c.side d literal i = 3 ↔ c.reading? i = none := by
  rw [side, reading?]
  cases c.contents[i]? with
  | none => simp
  | some s =>
    have hread := d.side_le_two_iff c.header.type literal s
    have hlt := d.side_lt c.header.type literal s
    simp only [Option.map_some, Option.getD_some, Option.bind_some,
      ← Option.not_isSome_iff_eq_none, ← hread]
    omega

/-- A row that comes before another one is not on a later side. -/
theorem side_mono {i j : Nat} (hi : i < c.contents.length) (hj : j < c.contents.length)
    (h : Before [⟨c, d⟩] i j) : c.side d literal i ≤ c.side d literal j := by
  simp only [side, Before, reading?, List.getElem?_eq_getElem hi, List.getElem?_eq_getElem hj,
    Option.bind_some, Option.map_some, Option.getD_some] at h ⊢
  refine Direction.side_mono ?_
  rcases h with hahead | ⟨hlevel, -⟩
  · rw [Direction.orderTexts, Direction.order_eq_lt_iff.2 hahead]
    rfl
  · rw [Direction.orderTexts, Direction.order_eq_eq_iff.2 hlevel]
    rfl

/-- A filter by a literal that reads keeps the rows on one side. -/
theorem accepts_eq_side (hliteral : (Value.read? c.header.type literal).isSome = true) {k : Nat}
    {r : Relation} (hr : d.relations[k]? = some r) (name : String) (i : Nat) :
    Condition.accepts ⟨name, r, literal⟩ c i = (c.side d literal i == k) := by
  have hk : k < 3 := Direction.lt_three_of_relations hr
  rw [Condition.accepts, side, Bool.eq_iff_iff, beq_iff_eq]
  cases c.contents[i]? with
  | none =>
    have hne : ¬3 = k := by omega
    simp [hne]
  | some s =>
    rw [Option.any_some, beq_iff_eq]
    exact Direction.holds?_iff_side hliteral hr

/-- Rows in the order of a column are one block for each side of a literal. -/
theorem blocks_of_pairwise (hliteral : (Value.read? c.header.type literal).isSome = true)
    (hsize : ∀ i ∈ p, i < c.contents.length) (hp : p.Pairwise (Before [⟨c, d⟩]))
    (name : String) :
    d.relations.flatMap (fun r => p.filter (Condition.accepts ⟨name, r, literal⟩ c)) ++
      p.filter (fun i => (c.reading? i).isNone) = p := by
  have hmono : p.Pairwise fun i j => c.side d literal i ≤ c.side d literal j :=
    hp.imp_of_mem fun {i j} hi hj h => side_mono (hsize i hi) (hsize j hj) h
  have hcut := List.flatMap_range_filter hmono fun i _ => c.side_lt d literal i
  have hunread : (fun i => (c.reading? i).isNone) = fun i => c.side d literal i == 3 := by
    funext i
    rw [Bool.eq_iff_iff, Option.isNone_iff_eq_none, beq_iff_eq, side_eq_three_iff]
  have hblock : ∀ (k : Nat) (r : Relation), d.relations[k]? = some r →
      Condition.accepts ⟨name, r, literal⟩ c = fun i => c.side d literal i == k :=
    fun k r hr => funext (accepts_eq_side hliteral hr name)
  -- The four sides are the three relations in their order, and what does not read.
  conv_rhs => rw [← hcut]
  show _ = [0, 1, 2, 3].flatMap fun k => p.filter fun i => c.side d literal i == k
  cases d <;>
    simp [Direction.relations, hblock 0 _ rfl, hblock 1 _ rfl, hblock 2 _ rfl, hunread]

end Column

namespace Table

variable {t : Table} {c : Column} {name : String}

/-- **A sorted table is what the filters keep of it, block after block:** what stands in front of a
literal, what is level with it, what stands behind it, and the rows that do not read.  Whether the
literal reads or not, the rows that equal it and those that do not are all rows, each of them once,
and to a literal that does not read nothing stands in an order. -/
theorem exists_divided (ht : t.WellFormed) (hc : t.column? name = some c) (literal : String) :
    ((Value.read? c.header.type literal).isSome = true → ∀ direction : Direction,
      ∃ (s : Table) (d : Column) (kept : Relation → Table),
      t.sort name direction = .ok s ∧ s.column? name = some d ∧
      (∀ r ∈ direction.relations, s.filter ⟨name, r, literal⟩ = .ok (kept r)) ∧
      s.lines = direction.relations.flatMap (fun r => (kept r).lines) ++ (s.unread d).lines) ∧
    (∃ (u v : Table) (p q : List Nat), t.filter ⟨name, .equals, literal⟩ = .ok u ∧
      t.filter ⟨name, .notEquals, literal⟩ = .ok v ∧
      u.lines = p.map t.cellsAt ∧ v.lines = q.map t.cellsAt ∧
      p.Pairwise (· < ·) ∧ q.Pairwise (· < ·) ∧ (p ++ q).Perm (List.range t.height)) ∧
    (Value.read? c.header.type literal = none → ∀ r, r = .lessThan ∨ r = .greaterThan →
      ∃ u, t.filter ⟨name, r, literal⟩ = .ok u ∧ u.lines = []) := by
  obtain ⟨hmem, -⟩ := mem_of_column? hc
  have hrows : ∀ i ∈ List.range t.height, i < t.height := fun i hi => List.mem_range.1 hi
  refine ⟨?_, ?_, ?_⟩
  · intro hliteral direction
    obtain ⟨p, horder, hsort⟩ := (InOrder.range t.height).exists_sort ht hrows hc direction
    rw [select_range ht] at hsort
    have hp : ∀ i ∈ p, i < t.height := fun i hi => hrows i (horder.perm.subset hi)
    have hkept : ∀ keeps : Nat → Bool, ∀ i ∈ p.filter keeps, i < t.height :=
      fun keeps i hi => hp i (List.mem_filter.1 hi).1
    have hsize : ∀ i ∈ p, i < c.contents.length := by
      intro i hi
      rw [c.length_contents, ht.2 c hmem]
      exact hp i hi
    refine ⟨t.select p, c.select p,
      fun r => t.select (p.filter (Condition.accepts ⟨name, r, literal⟩ c)), hsort, ?_, ?_, ?_⟩
    · rw [column?_select, hc, Option.map_some]
    · intro r hr
      exact filter_select ht hp hc (Direction.ne_inRange_of_mem_relations hr)
    · simp only [unread_select ht hp hmem, lines_select ht (hkept _) hmem, lines_select ht hp hmem,
        ← List.map_flatMap, ← List.map_append]
      rw [Column.blocks_of_pairwise hliteral hsize horder.pairwise]
  · let keeps := Condition.accepts ⟨name, .equals, literal⟩ c
    have hnot : (List.range t.height).filter (Condition.accepts ⟨name, .notEquals, literal⟩ c) =
        (List.range t.height).filter fun i => !keeps i := by
      refine List.filter_congr fun i hi => accepts_notEquals ?_
      rw [c.length_contents, ht.2 c hmem]
      exact hrows i hi
    have hin : ∀ keeps : Nat → Bool, ∀ i ∈ (List.range t.height).filter keeps, i < t.height :=
      fun keeps i hi => hrows i (List.mem_filter.1 hi).1
    have hequals := filter_eq (f := ⟨name, .equals, literal⟩) ht hc nofun
    have hothers := filter_eq (f := ⟨name, .notEquals, literal⟩) ht hc nofun
    refine ⟨_, _, (List.range t.height).filter keeps,
      (List.range t.height).filter fun i => !keeps i, hequals, hothers,
      lines_select ht (hin _) hmem, ?_, List.pairwise_lt_range.filter _,
      List.pairwise_lt_range.filter _, List.filter_append_perm _ _⟩
    rw [hnot, lines_select ht (hin _) hmem]
  · intro hliteral r hr
    refine ⟨_, filter_of_read?_eq_none ht hc hliteral hr, ?_⟩
    exact lines_select ht (fun i hi => absurd hi List.not_mem_nil) hmem

/-- The runner who is slower than 9.5 comes first, then those who are as fast, then the two without
a time; no runner is faster, and none is faster than a runner without a time. -/
theorem exists_divided_heats :
    heats.WellFormed ∧ ∃ c, heats.column? "Time" = some c ∧
      (Value.read? c.header.type "9.500").isSome = true ∧
      Value.read? c.header.type "n/a" = none ∧
      (∃ (s : Table) (d : Column) (kept : Relation → Table),
        heats.sort "Time" .descending = .ok s ∧ s.column? "Time" = some d ∧
        (∀ r ∈ [.greaterThan, .equals, .lessThan],
          s.filter ⟨"Time", r, "9.500"⟩ = .ok (kept r)) ∧
        s.lines = [.greaterThan, .equals, .lessThan].flatMap (fun r => (kept r).lines) ++
          (s.unread d).lines) ∧
      ∃ u, heats.filter ⟨"Time", .lessThan, "n/a"⟩ = .ok u ∧ u.lines = [] := by
  have ht : heats.WellFormed := by decide
  have hc : heats.column? "Time" =
      some (.ofValues ⟨"Time", .number, 1⟩ ["9.5", "n/a", "10", "9.50", ""]) := by decide
  have hliteral : (Value.read? .number "9.500").isSome = true := by decide +kernel
  have hother : Value.read? .number "n/a" = none := by decide +kernel
  obtain ⟨hblocks, -, -⟩ := exists_divided ht hc "9.500"
  obtain ⟨-, -, hnone⟩ := exists_divided ht hc "n/a"
  exact ⟨ht, _, hc, hliteral, hother, hblocks hliteral .descending,
    hnone hother .lessThan (.inl rfl)⟩

end Table
end TableTalk
