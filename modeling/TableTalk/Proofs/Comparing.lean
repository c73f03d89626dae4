import TableTalk.Proofs.Sorting

/-!
# Texts under a type are totally preordered

A comparison of texts under a type reads both of them, and what does not read stands behind all
that does.  So under each type all texts are in one order, in which those that do not read are
level.  Equality is finer: texts that do not read are equal only if they are the same text.

A sort in descending order turns round the comparison of two texts that read and of no others.
What it compares by is no less an order, so that there is a sorted list for it to find.

## Main definitions

* `TotalPreorder` — the laws of a comparison.

## Main results

* `equalTyped_iff` — two texts are equal under a type if they are the same, or read as one value.
* `Direction.orderTexts_eq_ite` — which comparisons a sort turns round.
* `ColumnType.totalPreorder_texts` — **texts under a type are totally preordered, by the comparison
  and by a sort in either direction.**
-/

namespace TableTalk

/-- A comparison by which all elements stand in one order, level or one behind the other. -/
structure TotalPreorder {α : Type} (compare : α → α → Ordering) : Prop where
  /-- An element is level with itself. -/
  refl (a : α) : compare a a = .eq
  /-- The other way round the outcome is the opposite. -/
  swap (a b : α) : (compare a b).swap = compare b a
  /-- Of two elements one is not behind the other. -/
  total (a b : α) : (compare a b).isLE = true ∨ (compare b a).isLE = true
  /-- What is not behind a second element is not behind a third one that the second is not
  behind. -/
  trans (a b c : α) : (compare a b).isLE = true → (compare b c).isLE = true →
    (compare a c).isLE = true
  /-- Being in front, being level and being behind are each passed on. -/
  trans_outcome (a b c : α) (o : Ordering) : compare a b = o → compare b c = o → compare a c = o

theorem TotalPreorder.of_transCmp {α : Type} (compare : α → α → Ordering) [Std.TransCmp compare] :
    TotalPreorder compare where
  refl _ := Std.ReflCmp.compare_self
  swap a b := (@Std.OrientedCmp.eq_swap _ compare _ b a).symm
  total a b := by
    have hswap := @Std.OrientedCmp.eq_swap _ compare _ b a
    cases hab : compare a b with
    | lt | eq => exact .inl rfl
    | gt =>
      rw [hab] at hswap
      exact .inr (by rw [hswap]; rfl)
  trans _ _ _ := Std.TransCmp.isLE_trans
  trans_outcome _ _ _ o hab hbc := by
    cases o with
    | lt => exact Std.TransCmp.lt_trans hab hbc
    | eq => exact Std.TransCmp.eq_trans hab hbc
    | gt => exact Std.TransCmp.gt_trans hab hbc

/-! ### Order and equality of texts -/

section

variable {type : ColumnType} {s t : String}

/-- What reads stands in front of what does not. -/
theorem compareTyped_eq_lt (hs : (Value.read? type s).isSome = true)
    (ht : Value.read? type t = none) : compareTyped type s t = .lt := by
  obtain ⟨x, hx⟩ := Option.isSome_iff_exists.1 hs
  rw [compareTyped, hx, ht]
  rfl

/-- All that does not read is level. -/
theorem compareTyped_eq_eq (hs : Value.read? type s = none) (ht : Value.read? type t = none) :
    compareTyped type s t = .eq := by
  rw [compareTyped, hs, ht]
  rfl

/-- Two texts are equal under a type if they are the same, or if they read as one value. -/
theorem equalTyped_iff : equalTyped type s t = true ↔
    s = t ∨ (Value.read? type s).isSome = true ∧ (Value.read? type t).isSome = true ∧
      compareTyped type s t = .eq := by
  have hself : s = t → compareTyped type s t = .eq := by
    rintro rfl
    exact Std.ReflCmp.compare_self
  unfold equalTyped
  cases hs : Value.read? type s with
  | none => simp
  | some x =>
    cases ht : Value.read? type t with
    | none => simp
    | some y =>
      simp only [compareTyped, hs, ht, Value.compareReadings] at hself
      simpa [compareTyped, hs, ht, Value.compareReadings] using hself

/-- Equal texts are level. -/
theorem compareTyped_of_equalTyped (h : equalTyped type s t = true) :
    compareTyped type s t = .eq := by
  rcases equalTyped_iff.1 h with rfl | ⟨-, -, hlevel⟩
  · exact Std.ReflCmp.compare_self
  · exact hlevel

/-- What reads is equal to what it is level with. -/
theorem equalTyped_iff_compareTyped (hs : (Value.read? type s).isSome = true) :
    equalTyped type s t = true ↔ compareTyped type s t = .eq := by
  refine ⟨compareTyped_of_equalTyped, fun hlevel => equalTyped_iff.2 (.inr ⟨hs, ?_, hlevel⟩)⟩
  cases ht : Value.read? type t with
  | some y => rfl
  | none =>
    rw [compareTyped_eq_lt hs ht] at hlevel
    cases hlevel

end

theorem equivalence_equalTyped (type : ColumnType) :
    Equivalence fun s t => equalTyped type s t = true := by
  have hlaws := TotalPreorder.of_transCmp (compareTyped type)
  refine ⟨fun s => equalTyped_iff.2 (.inl rfl), fun {s t} h => ?_, fun {s t u} h h' => ?_⟩
  · rcases equalTyped_iff.1 h with rfl | ⟨hs, ht, hlevel⟩
    · exact h
    · refine equalTyped_iff.2 (.inr ⟨ht, hs, ?_⟩)
      rw [← hlaws.swap s t, hlevel]
      rfl
  · rcases equalTyped_iff.1 h with rfl | ⟨hs, ht, hlevel⟩
    · exact h'
    · rcases equalTyped_iff.1 h' with rfl | ⟨-, hu, hlevel'⟩
      · exact h
      · exact equalTyped_iff.2 (.inr ⟨hs, hu, hlaws.trans_outcome s t u .eq hlevel hlevel'⟩)

/-! ### The comparison of a sort -/

/-- A descending sort turns round the comparison of two texts that read, and no other. -/
theorem Direction.orderTexts_eq_ite (direction : Direction) (type : ColumnType) (s t : String) :
    direction.orderTexts type s t =
      if direction = .descending ∧ (Value.read? type s).isSome = true ∧
          (Value.read? type t).isSome = true
      then (compareTyped type s t).swap else compareTyped type s t := by
  unfold orderTexts compareTyped
  cases direction with
  | ascending => rfl
  | descending =>
    cases Value.read? type s with
    | none => rfl
    | some x =>
      cases Value.read? type t with
      | none => rfl
      | some y =>
        rw [if_pos ⟨rfl, rfl, rfl⟩]
        rfl

namespace ColumnType

/-- **Texts under a type are totally preordered.**  What reads stands in front of what does not, and
all that does not read is level.  Equality under the type is an equivalence, of texts that are
level, and of texts that read it is the same as being level.  A sort in either direction goes by a
total preorder too, the same one but for the texts that read if the direction is descending. -/
theorem totalPreorder_texts (type : ColumnType) :
    TotalPreorder (compareTyped type) ∧
    (∀ s t, (Value.read? type s).isSome = true → Value.read? type t = none →
      compareTyped type s t = .lt) ∧
    (∀ s t, Value.read? type s = none → Value.read? type t = none →
      compareTyped type s t = .eq) ∧
    (Equivalence fun s t => equalTyped type s t = true) ∧
    (∀ s t, equalTyped type s t = true → compareTyped type s t = .eq) ∧
    (∀ s t, (Value.read? type s).isSome = true →
      (equalTyped type s t = true ↔ compareTyped type s t = .eq)) ∧
    ∀ direction : Direction, TotalPreorder (direction.orderTexts type) ∧
      (∀ s t, direction.orderTexts type s t =
        if direction = .descending ∧ (Value.read? type s).isSome = true ∧
            (Value.read? type t).isSome = true
        then (compareTyped type s t).swap else compareTyped type s t) ∧
      ∀ contents : List String, direction.positions type contents =
        (contents.zipIdx.mergeSort fun a b =>
          (direction.orderTexts type a.1 b.1).isLE).map (·.2) := by
  refine ⟨.of_transCmp _, fun s t => compareTyped_eq_lt, fun s t => compareTyped_eq_eq,
    equivalence_equalTyped type, fun s t => compareTyped_of_equalTyped,
    fun s t => equalTyped_iff_compareTyped, fun direction => ⟨.of_transCmp _, ?_, ?_⟩⟩
  · exact direction.orderTexts_eq_ite type
  · exact direction.positions_eq type

/-- Two spellings of ten are level and equal, two texts that are no numbers are level only, and
from the greatest number down these still come last. -/
theorem totalPreorder_texts_marks :
    equalTyped .number "1e1" "10" = true ∧ compareTyped .number "1e1" "10" = .eq ∧
      compareTyped .number "n/a" "" = .eq ∧ equalTyped .number "n/a" "" = false ∧
      Direction.descending.orderTexts .number "9" "10" = .gt ∧
      Direction.descending.orderTexts .number "9" "n/a" = .lt := by
  obtain ⟨-, hfront, hlevel, -, hequal, -, hsort⟩ := totalPreorder_texts .number
  obtain ⟨-, hturned, -⟩ := hsort .descending
  have hten : equalTyped .number "1e1" "10" = true := by decide +kernel
  have hnone : Value.read? .number "n/a" = none := by decide +kernel
  refine ⟨hten, hequal _ _ hten, hlevel _ _ hnone (by decide +kernel), by decide +kernel, ?_, ?_⟩
  · rw [hturned]
    decide +kernel
  · rw [hturned, hnone, if_neg (by simp)]
    exact hfront _ _ (by decide +kernel) hnone

end ColumnType
end TableTalk
