import TableTalk.Plan.Apply
import TableTalk.Proofs.Numbers

/-!
# What is put in a column of numbers

Counts are numbers.  A sum or a mean is one as well if the numbers of a key do not add up to more
than the greatest number.  If they do, what is written is the name of infinity, which is no number.
It takes the place of the mean, too, although a mean is not greater than the greatest of the
numbers: the division comes after the sum.  Where no text is a number there is no mean, and nothing
is written.

## Main definitions

* `Aggregate.Promoted` — what is put in a column of numbers for the texts of a key.

## Main results

* `Binary64.isFinite_divideBy` — a number that is divided stays finite.
* `isSome_readNumber?_numberText_iff` — the finite numbers are those that are read again.
* `Aggregate.promoted_combine` — what an aggregate puts in a column of numbers.
-/

namespace List

theorem length_eraseDups_le {α : Type} [BEq α] (l : List α) : l.eraseDups.length ≤ l.length := by
  induction l using eraseDups_induction with
  | nil => exact Nat.zero_le _
  | cons a l ih =>
    rw [eraseDups_cons, length_cons, length_cons]
    exact Nat.succ_le_succ (ih.trans (length_filter_le _ l))

end List

namespace TableTalk

/-! ### Finite numbers -/

namespace Binary64

/-- A fraction of a magnitude is not rounded up behind it. -/
theorem roundUnits_units_le (m : Nat) {count : Nat} (hcount : 0 < count) :
    roundUnits (units m) count ≤ m := by
  obtain ⟨n, hn, hround⟩ := roundUnits_eq_min (units m) hcount
  rw [hround]
  refine (Nat.min_le_right _ _).trans ?_
  by_contra hlt
  have hpred := strictMono_units.monotone (show m ≤ n - 1 by omega)
  have hlast := strictMono_units (show m < n by omega)
  have hlow : 2 * units m < 2 * units m := by
    calc 2 * units m < units (n - 1) + units n := by omega
      _ ≤ (units (n - 1) + units n) * count := Nat.le_mul_of_pos_right _ hcount
      _ ≤ 2 * units m := hn.low
  exact Nat.lt_irrefl _ hlow

/-- A number that is divided by a count is finite if it was. -/
theorem isFinite_divideBy (x : Binary64) {count : Nat} (hcount : 0 < count) :
    (x.divideBy count).isFinite = x.isFinite := by
  cases hx : x.isFinite with
  | true =>
    rw [divideBy, if_pos hx, isFinite_iff]
    exact (roundUnits_units_le _ hcount).trans_lt (isFinite_iff.1 hx)
  | false => rw [divideBy, if_neg (by simp [hx]), hx]

end Binary64

/-- Of the numbers that are not behind infinity, the finite ones are read again. -/
theorem isSome_readNumber?_numberText_iff {x : Binary64} (hx : x.magnitude ≤ Binary64.infinity) :
    (readNumber? (numberText x)).isSome = true ↔ x.isFinite = true := by
  constructor
  · intro hread
    rw [Binary64.isFinite_iff]
    refine Nat.lt_of_le_of_ne hx fun heq => ?_
    obtain ⟨negative, magnitude⟩ := x
    subst heq
    revert hread
    cases negative <;> decide
  · intro hfinite
    cases hzero : x.isZero with
    | true =>
      rw [numberText, if_pos hzero]
      decide
    | false =>
      rw [readNumber?_numberText hfinite hzero]
      rfl

/-- What reads is not blank. -/
theorem isBlank_of_isSome_readNumber? {s : String} (h : (readNumber? s).isSome = true) :
    Text.isBlank s = false := by
  by_contra hblank
  rw [Bool.not_eq_false, ← Text.isEmpty_trim, String.isEmpty_iff] at hblank
  rw [readNumber?, hblank] at h
  cases h

theorem isBlank_numberText {x : Binary64} (hx : x.magnitude ≤ Binary64.infinity) :
    Text.isBlank (numberText x) = false := by
  rcases isSome_readNumber?_or hx with hread | hname
  · exact isBlank_of_isSome_readNumber? hread
  · rcases List.mem_pair.1 hname with hname | hname <;> rw [hname] <;> decide

/-! ### Promoted cells -/

theorem isFinite_of_mem_readNumber? (values : List String) (x : Binary64)
    (h : x ∈ values.filterMap readNumber?) : x.isFinite = true := by
  obtain ⟨value, -, hread⟩ := List.mem_filterMap.1 h
  exact (Option.filter_eq_some_iff.1 hread).2

namespace Aggregate

/-- What is put in a column of numbers for the texts of a key. -/
structure Promoted (aggregate : Aggregate) (values : List String) (content : String) : Prop where
  /-- It is blank if it is the mean of no numbers. -/
  isBlank_iff : Text.isBlank content = true ↔
    aggregate = .mean ∧ ∀ s ∈ values, readNumber? s = none
  /-- What is not blank reads, unless it comes of a sum that is not finite. -/
  isSome_iff : (readNumber? content).isSome = true ↔ Text.isBlank content = false ∧
    (aggregate ∈ [.sum, .mean] →
      (Binary64.sum (values.filterMap readNumber?)).isFinite = true)
  /-- What is not blank and does not read is the name of an infinite number. -/
  mem_of_unread : Text.isBlank content = false → readNumber? content = none →
    content ∈ ["inf", "-inf"]

variable {aggregate : Aggregate} {values : List String}

/-- A number that is finite if the sum is. -/
theorem promoted_numberText {x : Binary64} (hx : x.magnitude ≤ Binary64.infinity)
    (hsome : aggregate = .mean → ∃ s ∈ values, readNumber? s ≠ none)
    (hfinite : x.isFinite = true ↔ (aggregate ∈ [.sum, .mean] →
      (Binary64.sum (values.filterMap readNumber?)).isFinite = true)) :
    Promoted aggregate values (numberText x) := by
  have hblank := isBlank_numberText hx
  refine ⟨?_, ?_, fun _ hunread => ?_⟩
  · rw [hblank]
    refine ⟨fun h => (Bool.false_ne_true h).elim, ?_⟩
    rintro ⟨hmean, hnone⟩
    obtain ⟨s, hs, hread⟩ := hsome hmean
    exact absurd (hnone s hs) hread
  · rw [isSome_readNumber?_numberText_iff hx, hfinite, hblank]
    simp
  · refine (isSome_readNumber?_or hx).resolve_left ?_
    rw [hunread]
    exact Bool.false_ne_true

/-- The mean of no numbers. -/
theorem promoted_empty (h : ∀ s ∈ values, readNumber? s = none) : Promoted .mean values "" := by
  have hblank : Text.isBlank "" = true := by decide
  have hread : readNumber? "" = none := by decide
  refine ⟨?_, ?_, fun hne _ => ?_⟩
  · simpa [hblank] using h
  · simp [hread, hblank]
  · rw [hblank] at hne
    cases hne

/-- A count. -/
theorem promoted_repr {n : Nat} (hn : n < Numeral.wordLimit)
    (haggregate : aggregate ∉ [.sum, .mean]) : Promoted aggregate values (Nat.repr n) := by
  have hread := isSome_readNumber?_repr hn
  have hblank := isBlank_of_isSome_readNumber? hread
  have hmean : aggregate ≠ .mean := by
    rintro rfl
    exact haggregate (by decide)
  refine ⟨?_, ?_, fun _ hunread => ?_⟩
  · simp [hblank, hmean]
  · simp [hread, hblank, haggregate]
  · rw [hunread] at hread
    cases hread

/-- What an aggregate puts in a column of numbers. -/
theorem promoted_combine (hlt : values.length < Numeral.wordLimit)
    (hyields : aggregate.yieldsNumber = true) :
    Promoted aggregate values (aggregate.combine values) := by
  have hsum := Binary64.magnitude_sum_le (isFinite_of_mem_readNumber? values)
  cases aggregate with
  | sum => exact promoted_numberText hsum nofun (by simp)
  | mean =>
    rw [combine]
    by_cases hempty : values.filterMap readNumber? = []
    · rw [hempty, List.isEmpty_nil, if_pos rfl]
      exact promoted_empty (List.filterMap_eq_nil_iff.1 hempty)
    · rw [if_neg (by simpa using hempty)]
      refine promoted_numberText (Binary64.magnitude_divideBy_le hsum _) (fun _ => ?_) ?_
      · simpa [List.filterMap_eq_nil_iff] using hempty
      · rw [Binary64.isFinite_divideBy _ (List.length_pos_iff.2 hempty)]
        simp
  | countDistinct => exact promoted_repr (values.length_eraseDups_le.trans_lt hlt) (by decide)
  | countAll => exact promoted_repr hlt (by decide)
  | concat | groupKey => cases hyields

end Aggregate

end TableTalk
