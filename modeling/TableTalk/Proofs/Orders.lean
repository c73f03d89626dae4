import TableTalk.Plan.Apply

/-!
# Orders of values, texts and sorts

Two values of one type can be told apart by an order: truth values, numbers, moments and texts
each have one, and values of two types are never compared.  A text that does not read under the
type of its column stands behind all that do.  So the order of texts under a type is total and
transitive, and so is the order of a sort in either direction, although a descending sort turns
round only the texts that read.  Keys of one value are told apart by their texts, so that no two
keys are level.

## Main definitions

* `Binary64.rank` — the place of a number among all bit patterns.
* `Value.type` — the type under which a value is read.
* `Direction.orderTexts` — the order in which a sort puts the texts of a column.
* `compareKeys` — the order of the keys of a grouping.

## Main results

* `Value.compare_swap`, `Value.isLE_compare_trans` — the laws of the order of values.
* `Direction.order_swap`, `Direction.isLE_order_trans` — the laws of the order of a sort.
* `compareTyped`, `Direction.orderTexts` and `compareKeys` are total and transitive, as instances.
-/

namespace TableTalk

/-! ### Numbers and moments -/

namespace Binary64

/-- The place of a number among all bit patterns, with `-0` at `-1` and `0` at `0`. -/
def rank (x : Binary64) : Int := if x.negative then -(x.magnitude : Int) - 1 else x.magnitude

theorem compare_eq_rank (x y : Binary64) : Binary64.compare x y = Ord.compare x.rank y.rank := by
  obtain ⟨sx, mx⟩ := x
  obtain ⟨sy, my⟩ := y
  cases sx <;> cases sy <;> simp only [Binary64.compare, rank, Ord.compare, compareOfLessAndEq] <;>
    grind

instance : Std.TransCmp Binary64.compare := by
  have hrank : Binary64.compare = compareOn rank := by
    funext x y
    exact compare_eq_rank x y
  rw [hrank]
  infer_instance

end Binary64

/-- Moments are compared by one part after the other. -/
instance : Std.TransCmp Moment.compare :=
  inferInstanceAs (Std.TransCmp
    (compareLex (compareOn Moment.year) <| compareLex (compareOn Moment.month) <|
      compareLex (compareOn Moment.day) <| compareLex (compareOn Moment.hour) <|
      compareLex (compareOn Moment.minute) <| compareLex (compareOn Moment.second) <|
      compareOn Moment.nanosecond))

/-! ### Values of one type -/

namespace Value

/-- The type under which a value is read. -/
def type : Value → ColumnType
  | .bool _ => .bool
  | .text _ => .text
  | .number _ => .number
  | .date _ => .date

theorem type_of_read? {type : ColumnType} {s : String} {x : Value} (h : read? type s = some x) :
    x.type = type := by
  cases type with
  | text =>
    cases h
    rfl
  | bool | number | date =>
    rw [read?, Option.map_eq_some_iff] at h
    obtain ⟨y, -, rfl⟩ := h
    rfl

theorem compare_swap (x y : Value) : (compare x y).swap = compare y x := by
  cases x with
  | bool a =>
    cases y with
    | bool b => exact (@Std.OrientedCmp.eq_swap _ Ord.compare _ b a).symm
    | text | number | date => rfl
  | text s =>
    cases y with
    | text t => exact (@Std.OrientedCmp.eq_swap _ Ord.compare _ t s).symm
    | bool | number | date => rfl
  | number a =>
    cases y with
    | number b => exact (@Std.OrientedCmp.eq_swap _ Binary64.compare _ b a).symm
    | bool | text | date => rfl
  | date m =>
    cases y with
    | date n => exact (@Std.OrientedCmp.eq_swap _ Moment.compare _ n m).symm
    | bool | text | number => rfl

theorem isLE_compare_trans {x y z : Value} (hxy : x.type = y.type) (hyz : y.type = z.type)
    (h : (compare x y).isLE = true) (h' : (compare y z).isLE = true) :
    (compare x z).isLE = true := by
  -- Of three values of one type each has the same form.
  cases x <;> cases y <;> cases hxy <;> cases z <;> cases hyz
  case bool a b e => exact @Std.TransCmp.isLE_trans _ Ord.compare _ a b e h h'
  case text s t u => exact @Std.TransCmp.isLE_trans _ Ord.compare _ s t u h h'
  case number a b e => exact @Std.TransCmp.isLE_trans _ Binary64.compare _ a b e h h'
  case date m n o => exact @Std.TransCmp.isLE_trans _ Moment.compare _ m n o h h'

end Value

/-! ### The order of a sort -/

namespace Direction

theorem order_swap (direction : Direction) (r s : Option Value) :
    (direction.order r s).swap = direction.order s r := by
  cases direction <;> cases r <;> cases s <;>
    simp [order, Value.compareReadings, Value.compare_swap]

/-- The order of a sort is transitive on what is read under one type. -/
theorem isLE_order_trans (direction : Direction) {type : ColumnType} {r s t : Option Value}
    (hr : ∀ x ∈ r, x.type = type) (hs : ∀ x ∈ s, x.type = type) (ht : ∀ x ∈ t, x.type = type)
    (h : (direction.order r s).isLE = true) (h' : (direction.order s t).isLE = true) :
    (direction.order r t).isLE = true := by
  cases r with
  | none =>
    cases s with
    | none => exact h'
    | some y => cases direction <;> cases h
  | some x =>
    cases t with
    | none => cases direction <;> rfl
    | some z =>
      cases s with
      | none => cases direction <;> cases h'
      | some y =>
        have hxy := (hr x rfl).trans (hs y rfl).symm
        have hyz := (hs y rfl).trans (ht z rfl).symm
        cases direction with
        | ascending => exact Value.isLE_compare_trans hxy hyz h h'
        | descending =>
          simp only [order, Value.compare_swap] at h h' ⊢
          exact Value.isLE_compare_trans hyz.symm hxy.symm h' h

/-- The order in which a sort puts the texts of a column. -/
def orderTexts (direction : Direction) (type : ColumnType) (s t : String) : Ordering :=
  direction.order (Value.read? type s) (Value.read? type t)

theorem orderTexts_swap (direction : Direction) (type : ColumnType) (s t : String) :
    (direction.orderTexts type s t).swap = direction.orderTexts type t s :=
  direction.order_swap _ _

instance (direction : Direction) (type : ColumnType) :
    Std.TransCmp (direction.orderTexts type) where
  eq_swap := (direction.orderTexts_swap type _ _).symm
  isLE_trans := direction.isLE_order_trans (fun _ => Value.type_of_read?)
    (fun _ => Value.type_of_read?) fun _ => Value.type_of_read?

end Direction

/-- Texts are compared as an ascending sort compares them. -/
instance (type : ColumnType) : Std.TransCmp (compareTyped type) :=
  inferInstanceAs (Std.TransCmp (Direction.ascending.orderTexts type))

/-! ### The order of keys -/

instance : Std.TransCmp compareRaw := inferInstanceAs (Std.TransCmp (Ord.compare : String → _))

/-- The order of keys: by their values, then by their texts. -/
def compareKeys (type : ColumnType) (k k' : String) : Ordering :=
  (compareTyped type k k').then (compareRaw k k')

instance (type : ColumnType) : Std.TransCmp (compareKeys type) :=
  inferInstanceAs (Std.TransCmp (compareLex (compareTyped type) compareRaw))

theorem compareKeys_swap (type : ColumnType) (k k' : String) :
    compareKeys type k k' = (compareKeys type k' k).swap :=
  @Std.OrientedCmp.eq_swap _ (compareKeys type) _ k k'

theorem eq_of_compareKeys_eq_eq {type : ColumnType} {k k' : String}
    (h : compareKeys type k k' = .eq) : k = k' := by
  obtain ⟨-, hraw⟩ := Ordering.then_eq_eq.1 h
  exact (@Std.LawfulEqCmp.compare_eq_iff_eq _ Ord.compare _ k k').1 hraw

/-- No two keys are level. -/
theorem eq_of_isLE_compareKeys {type : ColumnType} {k k' : String}
    (h : (compareKeys type k k').isLE = true) (h' : (compareKeys type k' k).isLE = true) :
    k = k' := by
  rw [compareKeys_swap] at h'
  exact eq_of_compareKeys_eq_eq (Ordering.eq_eq_of_isLE_of_isLE_swap h h')

end TableTalk
