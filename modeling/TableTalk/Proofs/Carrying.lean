import TableTalk.Proofs.Denoting
import TableTalk.Proofs.Promoting

/-!
# Numbers that are computed and compared again

A sum or a mean is put in a cell as a text, and a later step reads it from there.  The text is a
decimal without an exponent, and for a whole number below `10 ^ 15` it is the numeral, in which the
point and the zeros behind it are left out.  In either case it is read as the number that was
written, bit for bit.

The column that was grouped by is a column of numbers from then on.  Later steps move its cells and
leave some of them out, but make no new ones as long as none of them groups by the column again.  So
whenever a row with such a cell is sorted or filtered by it, what is compared is the number that was
computed.

## Main definitions

* `Shortest.Plain` — a decimal without an exponent.
* `Aggregate.number?` — the number that an aggregate computes.
* `Relation.holdsOf` — whether a relation holds of numbers that compare in a way.
* `Table.ReadsAs` — what sorts and filters take a cell for.

## Main results

* `plain_numberText` — a finite number is written without an exponent.
* `numberText_of_signedUnits` — a whole number below `10 ^ 15` is written as its numeral.
* `Plan.Applied.mem_cells` — the cells of a column come from the column, unless a step groups by it.
* `Table.readsAs_of_number?` — a row that holds a number is sorted and filtered as the number.
* `Table.carried_of_bits` — **a number that was computed is carried as it is.**
-/

namespace TableTalk

/-! ### Bits -/

namespace Binary64

variable {x : Binary64}

/-- The bits of the number with some bits are these bits. -/
theorem toBits_ofBits (bits : UInt64) : (ofBits bits).toBits = bits := by
  have hlt : bits.toNat < 2 ^ 64 := bits.toNat_lt
  have hpow : Nat.pow 2 63 = 2 ^ 63 := rfl
  have hsum : (if (ofBits bits).negative then Nat.pow 2 63 else 0) + (ofBits bits).magnitude =
      bits.toNat := by
    simp only [ofBits, hpow, decide_eq_true_eq]
    split <;> omega
  rw [toBits, hsum, UInt64.ofNat_toNat]

theorem natAbs_signedUnits (x : Binary64) : x.signedUnits.natAbs = units x.magnitude := by
  rw [signedUnits]
  split
  · rw [Int.natAbs_neg, Int.natAbs_natCast]
  · rw [Int.natAbs_natCast]

theorem signedUnits_neg_iff (hzero : x.isZero = false) :
    x.signedUnits < 0 ↔ x.negative = true := by
  have hpos : 0 < units x.magnitude := by
    rw [Nat.pos_iff_ne_zero, ne_eq, units_eq_zero_iff]
    simpa [isZero] using hzero
  rw [signedUnits]
  split
  · next hsign => simp [hsign, hpos]
  · next hsign => simp [hsign]

/-- A number whose value is whole is whole. -/
theorem whole?_of_signedUnits {n : Int} (hfinite : x.isFinite = true)
    (hvalue : x.signedUnits = n * (Nat.pow 2 1074 : Nat)) : x.whole? = some n.natAbs := by
  have hunit : 0 < Nat.pow 2 1074 := by decide +kernel
  have hunits := x.natAbs_signedUnits
  rw [hvalue, Int.natAbs_mul, Int.natAbs_natCast] at hunits
  simp only [whole?, hfinite, ← hunits, Nat.mul_mod_left, Nat.mul_div_cancel _ hunit,
    Bool.true_and, beq_self_eq_true, if_true]

end Binary64

/-! ### Texts of numbers -/

namespace Shortest

/-- A decimal without an exponent: a minus sign if need be, digits, and digits behind the point if
there is one. -/
inductive Plain : List Char → Prop
  /-- Digits. -/
  | whole (negative : Bool) {ds : List Char} (hne : ds ≠ [])
    (hdigits : ∀ e ∈ ds, e.isDigit = true) : Plain (signed negative ds)
  /-- Digits on both sides of a point. -/
  | point (negative : Bool) {ds es : List Char} (hne : ds ≠ [])
    (hdigits : ∀ e ∈ ds, e.isDigit = true) (hne' : es ≠ [])
    (hdigits' : ∀ e ∈ es, e.isDigit = true) : Plain (signed negative (ds ++ '.' :: es))

theorem plain_digits (negative : Bool) (n : Nat) : Plain (signed negative (digits n)) :=
  .whole negative (digits_ne_nil n) fun _ he => isDigit_of_mem_digits he

theorem plain_positional (negative : Bool) (d j : Nat) :
    Plain (signed negative (positional d j)) := by
  rcases Nat.lt_or_ge j finestPlace with hlt | hle
  · have hplaces : 0 < finestPlace - j := Nat.sub_pos_of_lt hlt
    have hmod := Nat.mod_lt d (Nat.pow_pos (by decide) : 0 < 10 ^ (finestPlace - j))
    have hlength := length_padded hplaces hmod
    rw [positional_of_lt hlt]
    exact .point negative (digits_ne_nil _) (fun _ he => isDigit_of_mem_digits he)
      (List.ne_nil_of_length_pos (hlength.symm ▸ hplaces)) fun _ he => isDigit_of_mem_padded he
  · rw [positional_of_le hle]
    exact plain_digits negative _

end Shortest

section

open Shortest (signed digits Plain plain_digits plain_positional)

variable {x : Binary64}

theorem plain_text (hfinite : x.isFinite = true) : Plain x.text.toList := by
  rw [text_of_isFinite hfinite, String.toList_ofList, Shortest.magnitudeText]
  split
  · exact plain_digits x.negative 0
  · exact plain_positional x.negative _ _

theorem numberText_of_whole? {n : Nat} (hzero : x.isZero = false) (hn : x.whole? = some n)
    (hlt : n < Nat.pow 10 15) : numberText x = String.ofList (signed x.negative (digits n)) := by
  simp only [numberText, hzero, Bool.false_eq_true, if_false, hn, hlt, if_true, signed]
  split <;> rfl

/-- A finite number is written without an exponent. -/
theorem plain_numberText (hfinite : x.isFinite = true) : Plain (numberText x).toList := by
  cases hzero : x.isZero with
  | true =>
    rw [numberText, if_pos hzero]
    exact plain_digits false 0
  | false =>
    cases hwhole : x.whole? with
    | none =>
      simp only [numberText, hzero, Bool.false_eq_true, if_false, hwhole]
      exact plain_text hfinite
    | some n =>
      by_cases hlt : n < Nat.pow 10 15
      · rw [numberText_of_whole? hzero hwhole hlt, String.toList_ofList]
        exact plain_digits x.negative n
      · simp only [numberText, hzero, Bool.false_eq_true, if_false, hwhole, hlt]
        exact plain_text hfinite

/-- A whole number below `10 ^ 15` is written as its numeral. -/
theorem numberText_of_signedUnits {n : Int} (hfinite : x.isFinite = true) (hzero : x.isZero = false)
    (hvalue : x.signedUnits = n * (Nat.pow 2 1074 : Nat)) (hn : n.natAbs < 10 ^ 15) :
    numberText x = toString n := by
  have hunit : (0 : Int) < (Nat.pow 2 1074 : Nat) := by decide +kernel
  -- Zero is left out, so the sign bit is the sign of the whole number.
  have hsign : n < 0 ↔ x.negative = true := by
    rw [← Binary64.signedUnits_neg_iff hzero, hvalue, Int.mul_neg_iff,
      or_iff_right fun h => hunit.not_gt h.2, and_iff_left hunit]
  rw [numberText_of_whole? hzero (Binary64.whole?_of_signedUnits hfinite hvalue) hn]
  cases n with
  | ofNat m =>
    have hpositive : x.negative = false :=
      Bool.eq_false_iff.2 fun h => absurd (hsign.2 h) (Int.not_lt.2 (Int.natCast_nonneg m))
    rw [hpositive]
    rfl
  | negSucc m =>
    have hminus : String.ofList (['-'] ++ digits (m + 1)) = "-" ++ Nat.repr (m + 1) :=
      String.ofList_append
    rw [hsign.1 (Int.negSucc_lt_zero m)]
    exact hminus

end

/-! ### Cells that are moved -/

/-- The cells of a column came from the column, unless a step of the plan grouped by it. -/
theorem Plan.Applied.mem_cells {t u : Table} {plan : Plan} (h : Applied t plan u)
    (ht : t.WellFormed) {c : Column} (hc : c ∈ u.columns) (hgroup : c.name ∉ plan.grouped)
    {cell : Cell} (hcell : cell ∈ c.cells) :
    ∃ d ∈ t.columns, d.header = c.header ∧ cell ∈ d.cells := by
  induction h with
  | nil => exact ⟨c, hc, rfl, hcell⟩
  | @cons t u v tr trs head tail ih =>
    have hsplit : c.name ∉ tr.grouped ∧ c.name ∉ Plan.grouped trs := by
      rw [← not_or, ← List.mem_append]
      exact hgroup
    obtain ⟨d, hd, hheader, hmem⟩ := ih (head.wellFormed ht) hc hsplit.2
    have hname : d.name = c.name := congrArg Header.name hheader
    obtain ⟨e, he, hheader', hmem'⟩ := head.mem_cells ht hd (hname ▸ hsplit.1) hmem
    exact ⟨e, he, hheader'.trans hheader, hmem'⟩

/-! ### Cells that are computed -/

/-- The number that an aggregate computes of the texts of a group, if it computes one. -/
def Aggregate.number? (values : List String) : Aggregate → Option Binary64
  | .sum => some (Binary64.sum (values.filterMap readNumber?))
  | .mean =>
    let numbers := values.filterMap readNumber?
    if numbers.isEmpty then none else some ((Binary64.sum numbers).divideBy numbers.length)
  | .concat | .countDistinct | .countAll | .groupKey => none

section

variable {aggregate : Aggregate} {values : List String} {x : Binary64}

/-- What is computed is written in a column of numbers. -/
theorem Aggregate.combine_of_number? (h : aggregate.number? values = some x) :
    aggregate.combine values = numberText x ∧ aggregate.yieldsNumber = true := by
  cases aggregate with
  | sum =>
    cases h
    exact ⟨rfl, rfl⟩
  | mean =>
    simp only [number?, Option.ite_none_left_eq_some, Option.some_inj] at h
    obtain ⟨hne, rfl⟩ := h
    exact ⟨if_neg hne, rfl⟩
  | concat | countDistinct | countAll | groupKey => cases h

/-- A cell of the column that was grouped by belongs to one of the keys. -/
theorem Table.exists_key_of_mem_aggregated {c : Column} {type : ColumnType} {keys : KeySet}
    {cell : Cell} (h : cell ∈ (aggregated c aggregate (groupsOf type keys c.contents)).cells) :
    ∃ k, (groupKeys type keys c.contents)[cell.row]? = some k ∧
      cell.content = aggregate.combine (c.valuesOf k) := by
  rw [cells_aggregated] at h
  obtain ⟨⟨k, i⟩, hk, rfl⟩ := List.mem_map.1 h
  exact ⟨k, List.mk_mem_zipIdx_iff_getElem?.1 hk, rfl⟩

end

/-! ### Numbers that are compared -/

/-- Whether a relation holds of two numbers that compare in a way. -/
def Relation.holdsOf (o : Ordering) : Relation → Bool
  | .equals => o == .eq
  | .notEquals => o != .eq
  | .lessThan => o == .lt
  | .greaterThan => o == .gt
  | .inRange => false

theorem Relation.holds?_number {s literal : String} {x y : Binary64} (hx : readNumber? s = some x)
    (hy : readNumber? literal = some y) {relation : Relation} (hrelation : relation ≠ .inRange) :
    relation.holds? .number s literal = some (relation.holdsOf (x.compare y)) := by
  have hequal : equalTyped .number s literal = (x.compare y == .eq) := by
    rw [Bool.eq_iff_iff, equalTyped_number hx hy, beq_iff_eq]
  have hordered : ∀ o, isOrdered .number o s literal = (x.compare y == o) := by
    intro o
    rw [isOrdered, compareTyped_number hx hy, Value.read?, Value.read?, hx, hy]
    rfl
  cases relation with
  | equals => rw [holds?, hequal, holdsOf]
  | notEquals => rw [holds?, hequal, holdsOf, bne]
  | lessThan => rw [holds?, hordered, holdsOf]
  | greaterThan => rw [holds?, hordered, holdsOf]
  | inRange => exact absurd rfl hrelation

namespace Column

variable {c : Column} {i : Nat} {x : Binary64}

/-- A sort by a column that puts the number in a row in front of the number in another row, if
there is one there. -/
theorem before_iff_number (hnumber : c.header.type = .number) (hx : c.number? i = some x)
    (direction : Direction) (j : Nat) :
    Before [⟨c, direction⟩] i j ↔ ∀ y ∈ c.number? j,
      x.compare y = (if direction = .ascending then .lt else .gt) ∨ x = y ∧ i < j := by
  simp only [Before, reading?_number hnumber, hx, Option.map_some]
  cases c.number? j with
  | none => simpa using Or.inl Direction.Ahead.read
  | some y =>
    simp only [Option.map_some, ahead_number, level_number, Binary64.compare_eq_eq_iff,
      Option.mem_some_iff, forall_eq']

/-- A filter by a literal that is a number compares the number in a row with it. -/
theorem accepts_eq_holdsOf (hnumber : c.header.type = .number) (hx : c.number? i = some x)
    {literal : String} {y : Binary64} (hy : readNumber? literal = some y) {relation : Relation}
    (hrelation : relation ≠ .inRange) (name : String) :
    Condition.accepts ⟨name, relation, literal⟩ c i = relation.holdsOf (x.compare y) := by
  obtain ⟨s, hs, hread⟩ := Option.bind_eq_some_iff.1 hx
  rw [Condition.accepts, hs, Option.any_some, hnumber, Relation.holds?_number hread hy hrelation]
  exact Bool.eq_iff_iff.2 (by rw [beq_iff_eq, Option.some_inj])

end Column

namespace Table

/-- Sorts and filters by a column take what stands in a row for a number. -/
structure ReadsAs (t : Table) (c : Column) (i : Nat) (x : Binary64) : Prop where
  /-- The text in the row is read as the number. -/
  number?_eq : c.number? i = some x
  /-- A sort puts the row in front of those that hold no number and of those whose number is on the
  other side of its own, and leaves it where it stood among those that hold the same number. -/
  exists_sort : ∀ direction : Direction, ∃ u p, t.sort c.name direction = .ok u ∧
    t.Rearranged p u ∧ ∀ j < t.height, i ≠ j → (List.Sublist [i, j] p ↔ ∀ y ∈ c.number? j,
      x.compare y = (if direction = .ascending then .lt else .gt) ∨ x = y ∧ i < j)
  /-- A filter by a number keeps the row if the relation holds of the two numbers. -/
  exists_filter : ∀ (relation : Relation) (literal : String) (y : Binary64),
    relation ≠ .inRange → readNumber? literal = some y →
    ∃ u keeps, t.filter ⟨c.name, relation, literal⟩ = .ok u ∧ t.Kept keeps u ∧
      (keeps i ↔ relation.holdsOf (x.compare y) = true)

variable {t u : Table} {c d : Column} {x : Binary64}

/-- A number in a column of numbers is what sorts and filters take it for. -/
theorem readsAs_of_number? (ht : t.WellFormed) (hc : c ∈ t.columns)
    (hnumber : c.header.type = .number) {i : Nat} (hx : c.number? i = some x) :
    t.ReadsAs c i x := by
  have hcolumn := ht.column?_name hc
  refine ⟨hx, fun direction => ?_, fun relation literal y hrelation hy => ?_⟩
  · obtain ⟨p, horder, hsort⟩ := exists_sort ht hcolumn direction
    have hi : i < t.height := by
      obtain ⟨s, hs, -⟩ := Option.bind_eq_some_iff.1 hx
      exact ht.lt_height hc (List.getElem?_eq_some_iff.1 hs).1
    refine ⟨_, p, hsort, rearranged_select ht horder.perm, fun j hj hne => ?_⟩
    rw [horder.sublist_iff (List.mem_range.2 hi) (List.mem_range.2 hj) hne,
      Column.before_iff_number hnumber hx]
  · obtain ⟨u, hfilter, hkept⟩ :=
      exists_kept (f := ⟨c.name, relation, literal⟩) ht hcolumn hrelation
    refine ⟨u, _, hfilter, hkept, ?_⟩
    rw [Column.accepts_eq_holdsOf hnumber hx hy hrelation]

/-- A cell of a column that was grouped by, wherever later steps have put it. -/
theorem exists_key_of_applied (ht : t.WellFormed) {column : String}
    (hc : t.column? column = some c) {aggregate : Aggregate} {keys : KeySet} {steps : Plan}
    (happlied : Plan.Applied t (.groupBy column aggregate keys :: steps) u)
    (hgroup : column ∉ Plan.grouped steps) (hd : u.column? column = some d) {cell : Cell}
    (hcell : cell ∈ d.cells) :
    ∃ k, (groupKeys c.header.type keys c.contents)[cell.row]? = some k ∧
      cell.content = aggregate.combine (c.valuesOf k) ∧
      (aggregate.yieldsNumber = true → d.header.type = .number) := by
  obtain ⟨hmem, rfl⟩ := mem_of_column? hd
  cases happlied with
  | @cons _ v _ _ _ head tail =>
    have hv := head.wellFormed ht
    have haggregate : aggregate ≠ .groupKey := by
      cases head with
      | groupBy _ haggregate _ => exact haggregate
    obtain ⟨v', hgrouped, -, hcolumn⟩ := exists_group ht hc haggregate keys
    cases (Transformation.apply_eq_ok_iff.2 head).symm.trans hgrouped
    -- No later step makes cells in the column, so the cell is one that the grouping made.
    obtain ⟨e, he, hheader, hmem'⟩ := tail.mem_cells hv hmem hgroup hcell
    have hname : e.name = d.name := congrArg Header.name hheader
    cases (hv.column?_name he).symm.trans (hname ▸ hcolumn)
    obtain ⟨k, hk, hcontent⟩ := exists_key_of_mem_aggregated hmem'
    refine ⟨k, hk, hcontent, fun hyields => ?_⟩
    rw [← hheader, aggregated, if_pos hyields]

/-- **A number that was computed is carried as it is.**  A finite number that is not zero is written
without an exponent, below `10 ^ 15` as its numeral if it is whole, and what is written is read as
the number with the same bits.  So where a step groups by a column, and no later one does, each
cell of the column belongs to one of the keys; and if the sum or the mean of the key is the number,
the cell holds its text, and the number is what the next sort or filter takes it for. -/
theorem carried_of_bits {bits : UInt64} (hx : Binary64.ofBits bits = x)
    (hfinite : x.isFinite = true) (hzero : x.isZero = false) :
    (readNumber? (numberText x)).map Binary64.toBits = some bits ∧
    Shortest.Plain (numberText x).toList ∧
    (∀ n : Int, x.signedUnits = n * (Nat.pow 2 1074 : Nat) → n.natAbs < 10 ^ 15 →
      numberText x = toString n) ∧
    ∀ (t : Table) (column : String) (c d : Column) (aggregate : Aggregate) (keys : KeySet)
      (steps : Plan) (e : Execution), t.WellFormed → t.column? column = some c →
      Plan.execute t (.groupBy column aggregate keys :: steps) = .ok e →
      column ∉ Plan.grouped steps → e.table.column? column = some d →
      ∀ (i : Nat) (cell : Cell), d.cells[i]? = some cell →
        ∃ k, (groupKeys c.header.type keys c.contents)[cell.row]? = some k ∧
          (aggregate.number? (c.valuesOf k) = some x →
            cell.content = numberText x ∧ e.table.ReadsAs d i x) := by
  have hread := readNumber?_numberText hfinite hzero
  refine ⟨?_, plain_numberText hfinite, fun n => numberText_of_signedUnits hfinite hzero, ?_⟩
  · rw [hread, Option.map_some, ← hx, Binary64.toBits_ofBits]
  · intro t column c d aggregate keys steps e ht hc hexecute hgroup hd i cell hcell
    have happlied := Plan.applied_of_executeFrom hexecute
    obtain ⟨k, hk, hcontent, htype⟩ :=
      exists_key_of_applied ht hc happlied hgroup hd (List.mem_of_getElem? hcell)
    refine ⟨k, hk, fun hnumber => ?_⟩
    obtain ⟨hcombine, hyields⟩ := Aggregate.combine_of_number? hnumber
    have htext : cell.content = numberText x := hcontent.trans hcombine
    have hx : d.number? i = some x := by
      rw [Column.number?, Column.contents, List.getElem?_map, hcell, Option.map_some,
        Option.bind_some, htext, hread]
    exact ⟨htext, readsAs_of_number? (happlied.wellFormed ht) (mem_of_column? hd).1
      (htype hyields) hx⟩

/-- The mean of the one time `10` is put in its cell as `10`, and behind a sort by name it is still
taken for the number. -/
theorem carried_of_bits_heats :
    let x : Binary64 := ⟨false, 4621819117588971520⟩
    Binary64.ofBits 4621819117588971520 = x ∧ x.isFinite = true ∧ x.isZero = false ∧
      numberText x = "10" ∧ heats.WellFormed ∧
      ∃ c d e, heats.column? "Time" = some c ∧
        Plan.execute heats [.groupBy "Time" .mean (.ofList ["10"]), .sortBy "Name" .descending] =
          .ok e ∧
        "Time" ∉ Plan.grouped [.sortBy "Name" .descending] ∧ e.table.column? "Time" = some d ∧
        d.cells[0]? = some ⟨"10", 0⟩ ∧ Aggregate.mean.number? (c.valuesOf "10") = some x ∧
        e.table.ReadsAs d 0 x := by
  intro x
  have hx : Binary64.ofBits 4621819117588971520 = x := by decide +kernel
  have hfinite : x.isFinite = true := by decide
  have hzero : x.isZero = false := by decide
  have ht : heats.WellFormed := by decide
  have hc : heats.column? "Time" =
      some (.ofValues ⟨"Time", .number, 1⟩ ["9.5", "n/a", "10", "9.50", ""]) := by decide
  have hexecute : Plan.execute heats
      [.groupBy "Time" .mean (.ofList ["10"]), .sortBy "Name" .descending] = .ok
      ⟨⟨[⟨⟨"Name", .text, 0⟩, [⟨"cy", 2⟩]⟩, ⟨⟨"Time", .number, 1⟩, [⟨"10", 0⟩]⟩]⟩,
        [⟨0, .groupBy, ["GroupBy", "Time", "Mean", "10"], 5, 1, 2, 2⟩,
          ⟨1, .sortBy, ["SortBy", "Name", "Descending"], 1, 1, 2, 2⟩]⟩ := by decide +kernel
  have hgroup : "Time" ∉ Plan.grouped [.sortBy "Name" .descending] := by decide
  have hks : ["10"] = groupKeys .number (.ofList ["10"]) ["9.5", "n/a", "10", "9.50", ""] :=
    eq_groupKeys_of_forall (by decide +kernel) (by decide +kernel) (by decide +kernel)
  obtain ⟨-, -, hnumeral, hcells⟩ := carried_of_bits hx hfinite hzero
  obtain ⟨k, hk, hcarried⟩ := hcells heats "Time" _ _ .mean (.ofList ["10"]) _ _ ht hc hexecute
    hgroup rfl 0 ⟨"10", 0⟩ rfl
  have hkey : k = "10" := by
    change (groupKeys .number (.ofList ["10"]) ["9.5", "n/a", "10", "9.50", ""])[0]? = some k at hk
    rw [← hks] at hk
    exact (Option.some.inj hk).symm
  subst hkey
  have hnumber : Aggregate.mean.number? (Column.valuesOf
      (.ofValues ⟨"Time", .number, 1⟩ ["9.5", "n/a", "10", "9.50", ""]) "10") = some x := by
    decide +kernel
  exact ⟨hx, hfinite, hzero, hnumeral 10 (by decide +kernel) (by decide), ht, _, _, _, hc, hexecute,
    hgroup, rfl, rfl, hnumber, (hcarried hnumber).2⟩

end Table
end TableTalk
