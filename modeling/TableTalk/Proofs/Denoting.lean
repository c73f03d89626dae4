import TableTalk.Proofs.Dividing
import TableTalk.Proofs.Numbers

/-!
# Numbers behind their spellings

A number has any number of spellings, with zeros in front and behind, a plus sign, an exponent or
a point anywhere.  All decimals of one value have as many digits in front of the point, are the
same fraction of units, and so are rounded to the same magnitude.  Numbers are then compared by
their bits, and two numbers of one value have the same bits, unless they are the two zeros.

So a filter by a number keeps the rows that hold its value in whatever spelling, and a sort leaves
rows of one value in the order in which they stood.  The exception is the sign of zero, which is
read and is compared: `-0` is less than `0`.

## Main definitions

* `Decimal.value` — the exact value of a decimal.
* `denoted?` — the exact value of the number that a text denotes.
* `Binary64.OppositeZeros` — two zeros of opposite sign.
* `Column.number?`, `Column.HoldsNumber`, `Column.KeepsOrder` — the number in a row of a column,
  whether it has the value of another one, and whether rows of one value stand as they stood.
* `Table.Kept` — a table with some of the rows of another one.

## Main results

* `Binary64.roundUnits_congr` — a fraction is rounded the same way however it is written.
* `Decimal.magnitude_congr` — decimals of one absolute value have one magnitude.
* `Binary64.signedUnits_eq_iff` — numbers of one value are the same, or zeros of opposite sign.
* `Table.compared_by_value` — **numbers are compared by value, except for the sign of zero.**
-/

namespace TableTalk

/-! ### Fractions of one value -/

namespace Binary64

variable {m num den num' den' : Nat}

theorem Nearest.congr (hden : 0 < den) (hden' : 0 < den') (h : num * den' = num' * den)
    (hm : Nearest m num den) : Nearest m num' den' := by
  have hscale : ∀ a, a * den' * den = a * den * den' := fun a => Nat.mul_right_comm a den' den
  have hnum : 2 * num' * den = 2 * num * den' := by rw [Nat.mul_assoc, ← h, Nat.mul_assoc]
  have hlow : ∀ a, a * den' ≤ 2 * num' ↔ a * den ≤ 2 * num := by
    intro a
    rw [← Nat.mul_le_mul_right_iff hden, hscale, hnum, Nat.mul_le_mul_right_iff hden']
  have hhigh : ∀ a, 2 * num' ≤ a * den' ↔ 2 * num ≤ a * den := by
    intro a
    rw [← Nat.mul_le_mul_right_iff hden, hscale, hnum, Nat.mul_le_mul_right_iff hden']
  refine ⟨(hlow _).2 hm.low, (hhigh _).2 hm.high, fun hodd => ?_⟩
  rw [← Nat.not_le, ← Nat.not_le, hlow, hhigh, Nat.not_le, Nat.not_le]
  exact hm.odd hodd

/-- A fraction is rounded the same way however it is written. -/
theorem roundUnits_congr (hden : 0 < den) (hden' : 0 < den') (h : num * den' = num' * den) :
    roundUnits num den = roundUnits num' den' := by
  obtain ⟨m, hm, hround⟩ := roundUnits_eq_min num hden
  obtain ⟨m', hm', hround'⟩ := roundUnits_eq_min num' hden'
  rw [hround, hround', (hm.congr hden hden' h).unique hden' hm']

end Binary64

/-! ### Decimals of one value -/

namespace Decimal

/-- The exact value of a decimal. -/
def value (d : Decimal) : ℚ :=
  (if d.negative then -1 else 1) * (d.significand * 10 ^ d.exponent)

variable {d e : Decimal}

theorem abs_value (d : Decimal) : |d.value| = d.significand * 10 ^ d.exponent := by
  have hpos : (0 : ℚ) ≤ d.significand * 10 ^ d.exponent := by positivity
  rw [value, abs_mul, abs_of_nonneg hpos]
  cases d.negative <;> simp

theorem abs_value_eq_zero_iff : |d.value| = 0 ↔ d.significand = 0 := by
  have hpow : (10 : ℚ) ^ d.exponent ≠ 0 := by positivity
  rw [abs_value, mul_eq_zero_iff_right hpow, Nat.cast_eq_zero]

/-- What is read has digits for its digits. -/
theorem isDigit_of_read? {cs : List Char} (h : read? cs = some d) :
    ∀ c ∈ d.digits, c.isDigit = true := by
  rcases hsplit : Numeral.splitSign cs with ⟨negative, body⟩
  simp only [read?, hsplit, Option.ite_none_left_eq_some] at h
  obtain ⟨_, -, rfl⟩ := Option.map_eq_some_iff.1 h.2
  intro c hc
  rcases List.mem_append.1 hc with hc | hc
  · exact List.mem_takeWhile_imp hc
  · split at hc
    · exact List.mem_takeWhile_imp hc
    · cases hc

/-- The first digit that is not zero stands where the value says. -/
theorem exponent_add_places_le (hd : ∀ c ∈ d.digits, c.isDigit = true)
    (he : ∀ c ∈ e.digits, c.isDigit = true) (hne : d.significand ≠ 0)
    (h : |d.value| = |e.value|) : d.exponent + d.places ≤ e.exponent + e.places := by
  have hlow : (10 : ℚ) ^ (d.exponent + d.places) ≤ 10 * |d.value| := by
    have hplaces : ((10 ^ d.places : ℕ) : ℚ) ≤ ((10 * d.significand : ℕ) : ℚ) :=
      Nat.cast_le.2 (pow_places_le hd hne)
    push_cast at hplaces
    rw [abs_value, zpow_add₀ (by norm_num), zpow_natCast]
    calc (10 : ℚ) ^ d.exponent * 10 ^ d.places ≤ 10 ^ d.exponent * (10 * d.significand) :=
          mul_le_mul_of_nonneg_left hplaces (by positivity)
      _ = 10 * (d.significand * 10 ^ d.exponent) := by ring
  have hhigh : |e.value| < (10 : ℚ) ^ (e.exponent + e.places) := by
    have hplaces : ((e.significand : ℕ) : ℚ) < ((10 ^ e.places : ℕ) : ℚ) :=
      Nat.cast_lt.2 (significand_lt he)
    push_cast at hplaces
    rw [abs_value, zpow_add₀ (by norm_num), zpow_natCast, mul_comm]
    exact mul_lt_mul_of_pos_left hplaces (by positivity)
  have hbound : (10 : ℚ) ^ (d.exponent + d.places) < 10 ^ (e.exponent + e.places + 1) := by
    rw [zpow_add_one₀ (by norm_num), mul_comm]
    exact hlow.trans_lt (mul_lt_mul_of_pos_left (h ▸ hhigh) (by norm_num))
  have := (zpow_lt_zpow_iff_right₀ (by norm_num)).1 hbound
  omega

/-- The fraction that is rounded is the value. -/
theorem fraction_eq (d : Decimal) (unit : Nat) :
    ((d.significand * unit * 10 ^ d.exponent.toNat : ℕ) : ℚ) =
      |d.value| * unit * ((10 ^ (-d.exponent).toNat : ℕ) : ℚ) := by
  have hexponent : (10 : ℚ) ^ d.exponent.toNat = 10 ^ d.exponent * 10 ^ (-d.exponent).toNat := by
    rw [← zpow_natCast, ← zpow_natCast, ← zpow_add₀ (by norm_num)]
    congr 1
    omega
  push_cast
  rw [hexponent, abs_value]
  ring

/-- Decimals of one absolute value have one magnitude. -/
theorem magnitude_congr (hd : ∀ c ∈ d.digits, c.isDigit = true)
    (he : ∀ c ∈ e.digits, c.isDigit = true) (h : |d.value| = |e.value|) :
    d.magnitude = e.magnitude := by
  have hzero : d.significand = 0 ↔ e.significand = 0 := by
    rw [← abs_value_eq_zero_iff, h, abs_value_eq_zero_iff]
  by_cases hne : d.significand = 0
  · rw [magnitude, magnitude, if_pos hne, if_pos (hzero.1 hne)]
  · have hne' : e.significand ≠ 0 := fun hzero' => hne (hzero.2 hzero')
    have hplaces : d.exponent + d.places = e.exponent + e.places :=
      le_antisymm (exponent_add_places_le hd he hne h) (exponent_add_places_le he hd hne' h.symm)
    have hround : Binary64.roundUnits (d.significand * Nat.pow 2 1074 * Nat.pow 10 d.exponent.toNat)
        (Nat.pow 10 (-d.exponent).toNat) =
          Binary64.roundUnits (e.significand * Nat.pow 2 1074 * Nat.pow 10 e.exponent.toNat)
            (Nat.pow 10 (-e.exponent).toNat) := by
      generalize Nat.pow 2 1074 = unit
      simp only [Nat.pow_eq]
      refine Binary64.roundUnits_congr (Nat.pow_pos (by decide)) (Nat.pow_pos (by decide)) ?_
      rw [← Nat.cast_inj (R := ℚ), Nat.cast_mul (d.significand * unit * _),
        Nat.cast_mul (e.significand * unit * _), fraction_eq, fraction_eq, h]
      ring
    rw [magnitude, magnitude, if_neg hne, if_neg hne', hplaces, hround]

/-- The sign of a decimal is the sign of its value, unless the value is zero. -/
theorem value_neg_iff (hne : d.significand ≠ 0) : d.value < 0 ↔ d.negative = true := by
  have hpos : (0 : ℚ) < d.significand * 10 ^ d.exponent := by positivity
  unfold value
  cases d.negative with
  | false => simpa using hpos.le
  | true => simpa using hpos

end Decimal

/-! ### Numbers of one value -/

namespace Binary64

variable {x y : Binary64}

theorem units_eq_zero_iff {m : Nat} : units m = 0 ↔ m = 0 := by
  have hzero : units 0 = 0 := units_of_lt (by decide)
  have hinjective := strictMono_units.injective.eq_iff (a := m) (b := 0)
  rwa [hzero] at hinjective

/-- One of the two numbers is `0` and the other one is `-0`. -/
def OppositeZeros (x y : Binary64) : Prop :=
  x.isZero = true ∧ y.isZero = true ∧ x.negative ≠ y.negative

instance (x y : Binary64) : Decidable (x.OppositeZeros y) := inferInstanceAs (Decidable (_ ∧ _))

/-- Numbers of one value are the same, or zeros of opposite sign. -/
theorem signedUnits_eq_iff : x.signedUnits = y.signedUnits ↔ x = y ∨ x.OppositeZeros y := by
  obtain ⟨sx, mx⟩ := x
  obtain ⟨sy, my⟩ := y
  have hx := units_eq_zero_iff (m := mx)
  have hy := units_eq_zero_iff (m := my)
  have hxy : units mx = units my ↔ mx = my := strictMono_units.injective.eq_iff
  cases sx <;> cases sy <;> simp [signedUnits, OppositeZeros, isZero] <;> omega

theorem rank_injective : Function.Injective rank := by
  rintro ⟨sx, mx⟩ ⟨sy, my⟩ h
  cases sx <;> cases sy <;> simp [rank] at h ⊢ <;> omega

theorem compare_eq_eq_iff : compare x y = .eq ↔ x = y := by
  rw [compare_eq_rank, Std.LawfulEqCmp.compare_eq_iff_eq, rank_injective.eq_iff]

/-- Numbers are equal if their values are, unless they are zeros of opposite sign. -/
theorem compare_eq_eq_iff_signedUnits :
    compare x y = .eq ↔ x.signedUnits = y.signedUnits ∧ ¬x.OppositeZeros y := by
  have hself : x = y → ¬x.OppositeZeros y := by
    rintro rfl ⟨-, -, hne⟩
    exact hne rfl
  rw [compare_eq_eq_iff, signedUnits_eq_iff]
  tauto

/-- Zero with a minus sign is in front of zero. -/
theorem compare_of_oppositeZeros (h : x.OppositeZeros y) :
    compare x y = if x.negative then .lt else .gt := by
  obtain ⟨sx, mx⟩ := x
  obtain ⟨sy, my⟩ := y
  obtain ⟨-, -, hne⟩ := h
  cases sx <;> cases sy
  · exact absurd rfl hne
  · rfl
  · rfl
  · exact absurd rfl hne

end Binary64

/-- Decimals of one value are read as numbers of one value. -/
theorem Decimal.signedUnits_congr {d e : Decimal} (hd : ∀ c ∈ d.digits, c.isDigit = true)
    (he : ∀ c ∈ e.digits, c.isDigit = true) (h : d.value = e.value) :
    d.toBinary64.signedUnits = e.toBinary64.signedUnits := by
  have habs : |d.value| = |e.value| := congrArg _ h
  have hmagnitude := magnitude_congr hd he habs
  have hzero : d.significand = 0 ↔ e.significand = 0 := by
    rw [← abs_value_eq_zero_iff, habs, abs_value_eq_zero_iff]
  rw [Binary64.signedUnits_eq_iff]
  by_cases hsign : d.negative = e.negative
  · exact .inl (by rw [toBinary64, toBinary64, hsign, hmagnitude])
  · -- Only zero has two signs.
    have hne : d.significand = 0 := by
      by_contra hne
      have hneg := value_neg_iff hne
      rw [h, value_neg_iff (fun hzero' => hne (hzero.2 hzero'))] at hneg
      exact hsign (Bool.eq_iff_iff.2 hneg.symm)
    refine .inr ⟨?_, ?_, hsign⟩
    · rw [Binary64.isZero, toBinary64, magnitude, if_pos hne]
      rfl
    · rw [Binary64.isZero, toBinary64, magnitude, if_pos (hzero.1 hne)]
      rfl

/-! ### Texts of one value -/

/-- The exact value of the number that a text denotes. -/
def denoted? (s : String) : Option ℚ := (Decimal.read? (Text.trim s).toList).map Decimal.value

section

variable {s t : String} {x y : Binary64}

/-- Texts that denote one value are read as numbers of one value. -/
theorem signedUnits_of_denoted? (h : denoted? s = denoted? t) :
    (readNumber? s).map Binary64.signedUnits = (readNumber? t).map Binary64.signedUnits := by
  unfold denoted? at h
  unfold readNumber?
  cases hs : Decimal.read? (Text.trim s).toList with
  | none =>
    rw [hs, Option.map_none, eq_comm, Option.map_eq_none_iff] at h
    rw [h]
  | some d =>
    rw [hs, Option.map_some, eq_comm, Option.map_eq_some_iff] at h
    obtain ⟨e, ht, hvalue⟩ := h
    have hd := Decimal.isDigit_of_read? hs
    have he := Decimal.isDigit_of_read? ht
    have hfinite : d.toBinary64.isFinite = e.toBinary64.isFinite := by
      rw [Binary64.isFinite, Binary64.isFinite, Decimal.toBinary64, Decimal.toBinary64,
        Decimal.magnitude_congr hd he (congrArg _ hvalue.symm)]
    rw [ht, Option.map_some, Option.map_some, Option.filter_some, Option.filter_some, hfinite]
    split
    · rw [Option.map_some, Option.map_some, Decimal.signedUnits_congr hd he hvalue.symm]
    · rfl

theorem compareTyped_number (hx : readNumber? s = some x) (hy : readNumber? t = some y) :
    compareTyped .number s t = x.compare y := by
  simp only [compareTyped, Value.read?, hx, hy, Option.map_some]
  rfl

theorem equalTyped_number (hx : readNumber? s = some x) (hy : readNumber? t = some y) :
    equalTyped .number s t = true ↔ x.compare y = .eq := by
  simp only [equalTyped, Value.read?, hx, hy, Option.map_some, beq_iff_eq]
  rfl

end

/-! ### Numbers in a column -/

section

variable {x y : Binary64}

theorem ahead_number {direction : Direction} :
    direction.Ahead (some (.number x)) (some (.number y)) ↔
      x.compare y = if direction = .ascending then .lt else .gt := by
  constructor
  · intro h
    cases h with
    | ascending h => exact h
    | descending h => exact h
  · intro h
    cases direction with
    | ascending => exact .ascending h
    | descending => exact .descending h

theorem level_number : Level (some (.number x)) (some (.number y)) ↔ x.compare y = .eq := by
  constructor
  · intro h
    cases h with
    | equal h => exact h
  · intro h
    exact .equal h

end

namespace Column

variable {c : Column} {i j : Nat}

/-- The number in a row of a column, if the text is a number. -/
def number? (c : Column) (i : Nat) : Option Binary64 := (c.contents[i]?).bind readNumber?

theorem reading?_number (hc : c.header.type = .number) (i : Nat) :
    c.reading? i = (c.number? i).map .number := by
  rw [reading?, number?, hc]
  cases c.contents[i]? with
  | none => rfl
  | some s => rw [Option.bind_some, Option.bind_some, Value.read?]

/-- The number in a row has the value of another number, and is not the other zero. -/
def HoldsNumber (c : Column) (y : Binary64) (i : Nat) : Prop :=
  ∃ x ∈ c.number? i, x.signedUnits = y.signedUnits ∧ ¬x.OppositeZeros y

theorem accepts_number (hc : c.header.type = .number) {literal : String} {y : Binary64}
    (hy : readNumber? literal = some y) (name : String) (i : Nat) :
    Condition.accepts ⟨name, .equals, literal⟩ c i = true ↔ c.HoldsNumber y i := by
  rw [Condition.accepts, HoldsNumber, number?, hc]
  cases c.contents[i]? with
  | none => simp
  | some s =>
    simp only [Option.any_some, Relation.holds?, beq_iff_eq, Option.some_inj, Option.bind_some]
    cases hx : readNumber? s with
    | none =>
      -- A text that is no number is another text than the literal.
      have hne : s ≠ literal := by
        rintro rfl
        rw [hx] at hy
        cases hy
      simp [equalTyped, Value.read?, hx, hne]
    | some x =>
      rw [equalTyped_number hx hy, Binary64.compare_eq_eq_iff_signedUnits]
      simp

/-- Of two rows that hold numbers of one value, the first in position comes first, and of `0` and
`-0` the one that the direction puts in front. -/
def KeepsOrder (c : Column) (direction : Direction) (i j : Nat) : Prop :=
  ∀ x ∈ c.number? i, ∀ y ∈ c.number? j, x.signedUnits = y.signedUnits →
    (¬x.OppositeZeros y → i < j) ∧
      (x.OppositeZeros y → (x.negative = true ↔ direction = .ascending))

theorem keepsOrder_of_before (hc : c.header.type = .number) {direction : Direction}
    (h : Before [⟨c, direction⟩] i j) : c.KeepsOrder direction i j := by
  intro x hx y hy hvalue
  rw [Option.mem_def] at hx hy
  simp only [Before, reading?_number hc, hx, hy, Option.map_some, ahead_number, level_number] at h
  constructor
  · intro hzeros
    have hsame := Binary64.compare_eq_eq_iff_signedUnits.2 ⟨hvalue, hzeros⟩
    rcases h with hahead | ⟨-, hlt⟩
    · rw [hsame] at hahead
      cases direction <;> cases hahead
    · exact hlt
  · intro hzeros
    rw [Binary64.compare_of_oppositeZeros hzeros] at h
    cases direction <;> cases hsign : x.negative <;> simp [hsign] at h ⊢

end Column

namespace Table

/-- The table `u` has some of the rows of `t`, in the order in which they stood. -/
structure Kept (t : Table) (keeps : Nat → Prop) (u : Table) : Prop where
  /-- The columns are the same. -/
  schema_eq : u.schema = t.schema
  /-- The rows are those that are kept, with all their cells. -/
  exists_lines : ∃ p : List Nat, u.lines = p.map t.cellsAt ∧ p.Pairwise (· < ·) ∧
    ∀ i, i ∈ p ↔ i < t.height ∧ keeps i

variable {t u : Table} {c : Column} {name : String} {keeps keeps' : Nat → Prop}

theorem Kept.congr (h : t.Kept keeps u) (hkeeps : ∀ i < t.height, keeps i ↔ keeps' i) :
    t.Kept keeps' u := by
  obtain ⟨p, hlines, hpairwise, hmem⟩ := h.exists_lines
  refine ⟨h.schema_eq, p, hlines, hpairwise, fun i => ?_⟩
  rw [hmem, and_congr_right (hkeeps i)]

/-- A filter keeps the rows that satisfy its condition. -/
theorem exists_kept (ht : t.WellFormed) {f : Condition} (hc : t.column? f.column = some c)
    (hrelation : f.relation ≠ .inRange) :
    ∃ u, t.filter f = .ok u ∧ t.Kept (fun i => f.accepts c i = true) u := by
  have hin : ∀ i ∈ (List.range t.height).filter (f.accepts c), i < t.height :=
    fun i hi => List.mem_range.1 (List.mem_filter.1 hi).1
  refine ⟨_, filter_eq ht hc hrelation, schema_select t _, _,
    lines_select ht hin (mem_of_column? hc).1, List.pairwise_lt_range.filter _, fun i => ?_⟩
  rw [List.mem_filter, List.mem_range]

/-- What equals a number is kept by one filter, and all else by another one. -/
theorem exists_kept_number (ht : t.WellFormed) (hc : t.column? name = some c)
    (hnumber : c.header.type = .number) {literal : String} {y : Binary64}
    (hy : readNumber? literal = some y) :
    ∃ u v, t.filter ⟨name, .equals, literal⟩ = .ok u ∧ t.Kept (c.HoldsNumber y) u ∧
      t.filter ⟨name, .notEquals, literal⟩ = .ok v ∧ t.Kept (fun i => ¬c.HoldsNumber y i) v := by
  obtain ⟨u, hu, hequal⟩ := exists_kept (f := ⟨name, .equals, literal⟩) ht hc nofun
  obtain ⟨v, hv, hother⟩ := exists_kept (f := ⟨name, .notEquals, literal⟩) ht hc nofun
  refine ⟨u, v, hu, hequal.congr fun i _ => Column.accepts_number hnumber hy name i, hv,
    hother.congr fun i hi => ?_⟩
  have hsize : i < c.contents.length := by
    rw [c.length_contents, ht.2 c (mem_of_column? hc).1]
    exact hi
  rw [accepts_notEquals hsize, Bool.not_eq_true', ← Bool.not_eq_true,
    Column.accepts_number hnumber hy]

/-- A sort by numbers leaves rows of one value in the order in which they stood. -/
theorem exists_sorted_number (ht : t.WellFormed) (hc : t.column? name = some c)
    (hnumber : c.header.type = .number) (direction : Direction) :
    ∃ u p, t.sort name direction = .ok u ∧ t.Rearranged p u ∧
      p.Pairwise (c.KeepsOrder direction) := by
  obtain ⟨p, horder, hsort⟩ := exists_sort ht hc direction
  exact ⟨_, p, hsort, rearranged_select ht horder.perm,
    horder.pairwise.imp (Column.keepsOrder_of_before hnumber)⟩

/-- **Numbers are compared by value, except for the sign of zero.**  Texts that denote one value are
read as numbers of one value.  Two texts that are read as numbers are equal, and are level, exactly
if their numbers have one value and are not `0` and `-0`, and of these `-0` is in front.  So a
filter by a number keeps the rows that hold its value, or those that do not, and a sort leaves rows
of one value in the order in which they stood, in both cases but for `0` and `-0`. -/
theorem compared_by_value {s s' : String} {x y : Binary64} (hx : readNumber? s = some x)
    (hy : readNumber? s' = some y) :
    (∀ r, denoted? r = denoted? s →
      ∃ z, readNumber? r = some z ∧ z.signedUnits = x.signedUnits) ∧
    (equalTyped .number s s' = true ↔ x.signedUnits = y.signedUnits ∧ ¬x.OppositeZeros y) ∧
    (compareTyped .number s s' = .eq ↔ x.signedUnits = y.signedUnits ∧ ¬x.OppositeZeros y) ∧
    (x.OppositeZeros y → compareTyped .number s s' = if x.negative then .lt else .gt) ∧
    ∀ (t : Table) (name : String) (c : Column), t.WellFormed → t.column? name = some c →
      c.header.type = .number →
      (∃ u v, t.filter ⟨name, .equals, s'⟩ = .ok u ∧ t.Kept (c.HoldsNumber y) u ∧
        t.filter ⟨name, .notEquals, s'⟩ = .ok v ∧ t.Kept (fun i => ¬c.HoldsNumber y i) v) ∧
      ∀ direction : Direction, ∃ u p, t.sort name direction = .ok u ∧ t.Rearranged p u ∧
        p.Pairwise (c.KeepsOrder direction) := by
  refine ⟨fun r h => ?_, ?_, ?_, fun h => ?_, fun t name c ht hc hnumber =>
    ⟨exists_kept_number ht hc hnumber hy, exists_sorted_number ht hc hnumber⟩⟩
  · have hvalue := signedUnits_of_denoted? h
    rw [hx, Option.map_some, Option.map_eq_some_iff] at hvalue
    exact hvalue
  · rw [equalTyped_number hx hy, Binary64.compare_eq_eq_iff_signedUnits]
  · rw [compareTyped_number hx hy, Binary64.compare_eq_eq_iff_signedUnits]
  · rw [compareTyped_number hx hy, Binary64.compare_of_oppositeZeros h]

/-- The runners who took 9.5 are kept however it is spelt, and stay in their order. -/
theorem compared_by_value_heats :
    ∃ x y, readNumber? "9.50" = some x ∧ readNumber? " +95e-1" = some y ∧
      x.signedUnits = y.signedUnits ∧ ¬x.OppositeZeros y ∧
      equalTyped .number "9.50" " +95e-1" = true ∧
      compareTyped .number "9.50" " +95e-1" = .eq ∧
      heats.WellFormed ∧ ∃ c, heats.column? "Time" = some c ∧ c.header.type = .number ∧
        (∃ u v, heats.filter ⟨"Time", .equals, " +95e-1"⟩ = .ok u ∧
          heats.Kept (c.HoldsNumber y) u ∧
          heats.filter ⟨"Time", .notEquals, " +95e-1"⟩ = .ok v ∧
          heats.Kept (fun i => ¬c.HoldsNumber y i) v) ∧
        ∃ u p, heats.sort "Time" .descending = .ok u ∧ heats.Rearranged p u ∧
          p.Pairwise (c.KeepsOrder .descending) := by
  let x : Binary64 := ⟨false, 4621537642612260864⟩
  have hx : readNumber? "9.50" = some x := by decide +kernel
  have hy : readNumber? " +95e-1" = some x := by decide +kernel
  have hzeros : ¬x.OppositeZeros x := by decide
  have ht : heats.WellFormed := by decide
  have hc : heats.column? "Time" =
      some (.ofValues ⟨"Time", .number, 1⟩ ["9.5", "n/a", "10", "9.50", ""]) := by decide
  obtain ⟨-, hequal, hlevel, -, htables⟩ := compared_by_value hx hy
  obtain ⟨hfilter, hsort⟩ := htables heats "Time" _ ht hc rfl
  exact ⟨x, x, hx, hy, rfl, hzeros, hequal.2 ⟨rfl, hzeros⟩, hlevel.2 ⟨rfl, hzeros⟩, ht, _, hc, rfl,
    hfilter, hsort .descending⟩

end Table

/-- Zero with a minus sign and zero are read as numbers of one value, and are neither equal nor
level. -/
theorem unequal_zeros :
    ∃ x y, readNumber? "-0" = some x ∧ readNumber? "0" = some y ∧
      x.signedUnits = y.signedUnits ∧ equalTyped .number "-0" "0" = false ∧
      compareTyped .number "-0" "0" = .lt :=
  ⟨⟨true, 0⟩, ⟨false, 0⟩, by decide +kernel, by decide +kernel, by decide +kernel,
    by decide +kernel, by decide +kernel⟩

end TableTalk
