import Mathlib.Order.Monotone.Basic
import Mathlib.Tactic.Ring
import TableTalk.Number.Binary64

/-!
# Rounding to the grid

A magnitude is a place `q` on a grid that counts in steps of `2 ^ k` units: either the grid is
the finest one, or `q` lies in the upper half of the places that it has.  So magnitudes stand in
the order of their values, and the next one is one step away or more.

A fraction of units is nearest to a magnitude if it lies between the values half-way to its two
neighbours, an end counting if the magnitude is even.  There is one such magnitude at most, and
rounding finds it.

## Main definitions

* `Binary64.Nearest` — the magnitude to which a fraction of units is nearest.

## Main results

* `Binary64.strictMono_units` — magnitudes stand in the order of their values.
* `Binary64.Nearest.unique` — no fraction is nearest to two magnitudes.
* `Binary64.roundUnits_of_nearest` — **a fraction is rounded to the magnitude that it is nearest
  to.**
* `Binary64.magnitude_sum_le` — no sum of finite numbers lies behind infinity.
-/

namespace TableTalk
namespace Binary64

/-! ### Places on grids -/

theorem binade_eq : binade = 4503599627370496 := rfl

theorem place_mod_two (k q : Nat) : (k * binade + q) % 2 = q % 2 := by
  rw [binade_eq]
  omega

theorem units_of_lt {m : Nat} (h : m < binade) : units m = m := if_pos h

theorem units_of_le (k : Nat) {q : Nat} (hle : binade ≤ q) (hlt : q < 2 * binade) :
    units (k * binade + q) = q * 2 ^ k := by
  have hdiv : (k * binade + q) / binade = k + 1 := by
    rw [binade_eq] at *
    omega
  have hmod : (k * binade + q) % binade = q - binade := by
    rw [binade_eq] at *
    omega
  rw [units, if_neg (by omega), hdiv, hmod, Nat.pow_eq, Nat.add_sub_cancel,
    Nat.add_sub_cancel' hle]

/-- The last place of a grid is the first one of the upper half of the next. -/
theorem place_last (k : Nat) : k * binade + 2 * binade = (k + 1) * binade + binade := by ring

theorem units_place {k q : Nat} (hk : k = 0 ∨ binade ≤ q) (hq : q ≤ 2 * binade) :
    units (k * binade + q) = q * 2 ^ k := by
  rcases Nat.lt_or_ge q binade with hlow | hhigh
  · rcases hk with rfl | hk
    · rw [Nat.zero_mul, Nat.zero_add, units_of_lt hlow, Nat.pow_zero, Nat.mul_one]
    · omega
  · rcases Nat.eq_or_lt_of_le hq with rfl | hlt
    · rw [place_last, units_of_le (k + 1) (Nat.le_refl _) (by decide)]
      ring
    · exact units_of_le k hhigh hlt

theorem exists_place (m : Nat) :
    ∃ k q, m = k * binade + q ∧ (k = 0 ∨ binade ≤ q) ∧ q < 2 * binade := by
  by_cases hlow : m < binade
  · exact ⟨0, m, by omega, .inl rfl, by omega⟩
  · refine ⟨m / binade - 1, binade + m % binade, ?_, .inr (by omega), ?_⟩
    · rw [binade_eq] at *
      omega
    · rw [binade_eq]
      omega

theorem units_lt_succ (m : Nat) : units m < units (m + 1) := by
  obtain ⟨k, q, rfl, hk, hq⟩ := exists_place m
  have hnext : k = 0 ∨ binade ≤ q + 1 := hk.imp_right fun h => by omega
  rw [Nat.add_assoc, units_place hk hq.le, units_place hnext hq]
  exact Nat.mul_lt_mul_of_pos_right (Nat.lt_succ_self q) (Nat.two_pow_pos k)

/-- Magnitudes stand in the order of their values. -/
theorem strictMono_units : StrictMono units := strictMono_nat_of_lt_succ units_lt_succ

/-- Behind a place, at the end of a grid as well, the next one is a step away or more. -/
theorem le_units_succ {k q : Nat} (hk : k = 0 ∨ binade ≤ q) (hq : q ≤ 2 * binade) :
    (q + 1) * 2 ^ k ≤ units (k * binade + q + 1) := by
  have hbinade := binade_eq
  rcases Nat.eq_or_lt_of_le hq with rfl | hlt
  · rw [place_last, Nat.add_assoc, units_place (.inr (by omega)) (by omega), Nat.pow_succ',
      ← Nat.mul_assoc]
    exact Nat.mul_le_mul_right _ (by omega)
  · have hnext : k = 0 ∨ binade ≤ q + 1 := hk.imp_right fun h => by omega
    rw [Nat.add_assoc, units_place hnext hlt]

/-- In front of a place that is not the first one of its grid, the next one is a step away. -/
theorem units_pred {k q : Nat} (hk : k = 0 ∨ binade < q) (hq : q ≤ 2 * binade) :
    units (k * binade + q - 1) = (q - 1) * 2 ^ k := by
  cases q with
  | zero =>
    have hzero : k = 0 := by omega
    subst hzero
    simp [units, binade_eq]
  | succ q =>
    have hfront : k = 0 ∨ binade ≤ q := hk.imp_right Nat.le_of_lt_succ
    rw [Nat.add_succ_sub_one, Nat.add_sub_cancel, units_place hfront (by omega)]

/-! ### The nearest magnitude -/

/-- The fraction of units is nearest to the magnitude, to the even one of two that are equally
near. -/
structure Nearest (m num den : Nat) : Prop where
  /-- It is not below the value half-way to the magnitude in front. -/
  low : (units (m - 1) + units m) * den ≤ 2 * num
  /-- It is not above the value half-way to the magnitude behind. -/
  high : 2 * num ≤ (units m + units (m + 1)) * den
  /-- It is half-way to neither if the magnitude is odd. -/
  odd : m % 2 = 1 →
    (units (m - 1) + units m) * den < 2 * num ∧ 2 * num < (units m + units (m + 1)) * den

theorem Nearest.le {m n num den : Nat} (hden : 0 < den) (hm : Nearest m num den)
    (hn : Nearest n num den) : m ≤ n := by
  by_contra hlt
  have hnm : n ≤ m - 1 := by omega
  have hpred := strictMono_units.monotone hnm
  have hsucc := strictMono_units.monotone (show n + 1 ≤ m by omega)
  have hle : (units n + units (n + 1)) * den ≤ (units (m - 1) + units m) * den :=
    Nat.mul_le_mul_right den (by omega)
  -- Half-way between two neighbours there is an odd one, which does not own it.
  have hhalf : units n + units (n + 1) = units (m - 1) + units m :=
    Nat.eq_of_mul_eq_mul_right hden (by have := hm.low; have := hn.high; omega)
  have heq : n = m - 1 := strictMono_units.injective (by omega)
  rcases Nat.mod_two_eq_zero_or_one m with heven | hodd
  · have := hn.odd (by omega)
    have := hm.low
    omega
  · have := hm.odd hodd
    have := hn.high
    omega

/-- No fraction is nearest to two magnitudes. -/
theorem Nearest.unique {m n num den : Nat} (hden : 0 < den) (hm : Nearest m num den)
    (hn : Nearest n num den) : m = n :=
  Nat.le_antisymm (hm.le hden hn) (hn.le hden hm)

/-! ### Rounding -/

theorem divideToEven_le (num den : Nat) :
    num / den ≤ divideToEven num den ∧ divideToEven num den ≤ num / den + 1 := by
  simp only [divideToEven]
  split
  · omega
  · split <;> omega

/-- A rounded quotient is half a unit away at most, and less if it is odd. -/
theorem divideToEven_near (num : Nat) {den : Nat} (hden : 0 < den) :
    let q := divideToEven num den
    2 * q * den ≤ 2 * num + den ∧ 2 * num ≤ (2 * q + 1) * den ∧
      (q % 2 = 1 → 2 * q * den < 2 * num + den ∧ 2 * num < (2 * q + 1) * den) := by
  have hdivide := Nat.div_add_mod num den
  have hlt := Nat.mod_lt num hden
  simp only [divideToEven]
  generalize num / den = q at hdivide
  generalize num % den = r at hdivide hlt
  subst hdivide
  have hfloor : 2 * q * den = 2 * (den * q) := by ring
  have hhalf : (2 * q + 1) * den = 2 * (den * q) + den := by ring
  have hceil : 2 * (q + 1) * den = 2 * (den * q) + 2 * den := by ring
  have hceilhalf : (2 * (q + 1) + 1) * den = 2 * (den * q) + 3 * den := by ring
  split
  · rw [hfloor, hhalf]
    omega
  · split
    · rw [hceil, hceilhalf]
      omega
    · rcases Nat.mod_two_eq_zero_or_one q with heven | hodd
      · rw [heven, Nat.add_zero, hfloor, hhalf]
        omega
      · rw [hodd, hceil, hceilhalf]
        omega

/-- The quotient that is rounded lies in the upper half of the places of its grid, unless the
grid is the finest one. -/
theorem quotient_bounds (n : Nat) :
    n / 2 ^ (n.log2 - 52) < 2 * binade ∧
      (n.log2 - 52 = 0 ∨ binade ≤ n / 2 ^ (n.log2 - 52)) := by
  have hbinade : binade = 2 ^ 52 := rfl
  refine ⟨?_, ?_⟩
  · rw [Nat.div_lt_iff_lt_mul (Nat.two_pow_pos _), hbinade, ← Nat.pow_succ', ← Nat.pow_add]
    exact Nat.lt_of_lt_of_le Nat.lt_log2_self (Nat.pow_le_pow_right (by decide) (by omega))
  · rcases Nat.eq_zero_or_pos (n.log2 - 52) with hzero | hpos
    · exact .inl hzero
    · right
      have hne : n ≠ 0 := by
        rintro rfl
        simp at hpos
      rw [Nat.le_div_iff_mul_le (Nat.two_pow_pos _), hbinade, ← Nat.pow_add]
      have hexponent : 52 + (n.log2 - 52) = n.log2 := by omega
      rw [hexponent]
      exact Nat.log2_self_le hne

/-- What is half a step away at most from a place behind the first one is nearest to it. -/
theorem nearest_of_near {k q num den : Nat} (hk : k = 0 ∨ binade ≤ q) (hq : q ≤ 2 * binade)
    (hlow : (units (k * binade + q - 1) + units (k * binade + q)) * den ≤ 2 * num)
    (hlow' : q % 2 = 1 → (units (k * binade + q - 1) + units (k * binade + q)) * den < 2 * num)
    (hhigh : 2 * num ≤ (2 * q + 1) * (den * 2 ^ k))
    (hhigh' : q % 2 = 1 → 2 * num < (2 * q + 1) * (den * 2 ^ k)) :
    Nearest (k * binade + q) num den := by
  have hbehind : (2 * q + 1) * (den * 2 ^ k) ≤
      (units (k * binade + q) + units (k * binade + q + 1)) * den := by
    rw [units_place hk hq]
    calc (2 * q + 1) * (den * 2 ^ k) = (q * 2 ^ k + (q + 1) * 2 ^ k) * den := by ring
      _ ≤ _ := Nat.mul_le_mul_right den (Nat.add_le_add_left (le_units_succ hk hq) _)
  refine ⟨hlow, hhigh.trans hbehind, ?_⟩
  rw [place_mod_two]
  intro hodd
  exact ⟨hlow' hodd, (hhigh' hodd).trans_le hbehind⟩

/-- Without a last magnitude, a fraction is rounded to the nearest one. -/
theorem nearest_place {num den : Nat} (hden : 0 < den) {k : Nat}
    (hlog : k = (num / den).log2 - 52) :
    Nearest (k * binade + divideToEven num (den * 2 ^ k)) num den := by
  obtain ⟨hlt, hplace⟩ := quotient_bounds (num / den)
  rw [← hlog, Nat.div_div_eq_div_mul] at hlt hplace
  obtain ⟨hlow, hhigh, hodd⟩ := divideToEven_near num (Nat.mul_pos hden (Nat.two_pow_pos k))
  obtain ⟨hfloor, hceil⟩ := divideToEven_le num (den * 2 ^ k)
  have hexact : num / (den * 2 ^ k) * (den * 2 ^ k) ≤ num := Nat.div_mul_le_self _ _
  generalize divideToEven num (den * 2 ^ k) = q at *
  generalize num / (den * 2 ^ k) = floor at *
  have hk : k = 0 ∨ binade ≤ q := hplace.imp_right hfloor.trans'
  have hq : q ≤ 2 * binade := by omega
  by_cases hfirst : k = 0 ∨ binade < q
  · rcases Nat.eq_zero_or_pos q with rfl | hpos
    · have hzero : k = 0 := by omega
      rw [hzero]
      refine nearest_of_near (.inl rfl) (Nat.zero_le _) ?_ (by omega) (hzero ▸ hhigh) (by omega)
      simp [units, binade_eq]
    · have hfront : (units (k * binade + q - 1) + units (k * binade + q)) * den + den * 2 ^ k =
          2 * q * (den * 2 ^ k) := by
        rw [units_pred hfirst hq, units_place hk hq]
        obtain ⟨p, rfl⟩ : ∃ p, q = p + 1 := ⟨q - 1, by omega⟩
        rw [Nat.add_sub_cancel]
        ring
      refine nearest_of_near hk hq (by omega) (fun h => ?_) hhigh fun h => (hodd h).2
      have := (hodd h).1
      omega
  · -- The place in front of the first one of a grid is nearer, but nothing was rounded up.
    have hqb : q = floor := by omega
    have hpos : k * binade + q ≠ 0 := by
      have := binade_eq
      omega
    have hfront : (units (k * binade + q - 1) + units (k * binade + q)) * den < 2 * num := by
      have hpred := strictMono_units (Nat.sub_one_lt hpos)
      calc _ < (units (k * binade + q) + units (k * binade + q)) * den :=
          Nat.mul_lt_mul_of_pos_right (by omega) hden
        _ = 2 * (floor * (den * 2 ^ k)) := by
          rw [units_place hk hq, hqb]
          ring
        _ ≤ 2 * num := Nat.mul_le_mul_left 2 hexact
    exact nearest_of_near hk hq hfront.le (fun _ => hfront) hhigh fun h => (hodd h).2

theorem roundUnits_eq_min (num : Nat) {den : Nat} (hden : 0 < den) :
    ∃ m, Nearest m num den ∧ roundUnits num den = min infinity m :=
  ⟨_, nearest_place hden rfl, rfl⟩

/-- **A fraction is rounded to the magnitude that it is nearest to.** -/
theorem roundUnits_of_nearest {m num den : Nat} (hden : 0 < den) (hm : m < infinity)
    (h : Nearest m num den) : roundUnits num den = m := by
  obtain ⟨n, hn, hround⟩ := roundUnits_eq_min num hden
  rw [hround, hn.unique hden h]
  exact Nat.min_eq_right hm.le

theorem roundUnits_le_infinity (num den : Nat) : roundUnits num den ≤ infinity :=
  Nat.min_le_left _ _

/-- What is below the greatest finite value is rounded to a finite one. -/
theorem roundUnits_lt_infinity {num den : Nat} (hden : 0 < den)
    (h : num < units (infinity - 1) * den) : roundUnits num den < infinity := by
  obtain ⟨n, hn, hround⟩ := roundUnits_eq_min num hden
  rw [hround]
  refine (Nat.min_le_right _ _).trans_lt ?_
  by_contra hle
  have hpred := strictMono_units.monotone (show infinity - 1 ≤ n - 1 by omega)
  have hlast := strictMono_units.monotone (show infinity - 1 ≤ n by omega)
  have hbound : (units (infinity - 1) + units (infinity - 1)) * den ≤
      (units (n - 1) + units n) * den := Nat.mul_le_mul_right den (by omega)
  have hlow := hn.low
  rw [Nat.add_mul] at hbound
  omega

/-! ### Sums and quotients -/

theorem isFinite_iff {x : Binary64} : x.isFinite = true ↔ x.magnitude < infinity := by
  rw [isFinite, decide_eq_true_iff]

theorem isNaN_eq_false_iff {x : Binary64} : x.isNaN = false ↔ x.magnitude ≤ infinity := by
  rw [isNaN, decide_eq_false_iff_not, Nat.not_lt]

/-- A finite number takes no sum behind infinity. -/
theorem magnitude_add_le {x y : Binary64} (hx : x.magnitude ≤ infinity)
    (hy : y.isFinite = true) : (x.add y).magnitude ≤ infinity := by
  have hy' := isFinite_iff.1 hy
  unfold add
  rw [isNaN_eq_false_iff.2 hx, isNaN_eq_false_iff.2 hy'.le, hy]
  simp only [Bool.or_self, Bool.false_eq_true, if_false, Bool.not_true, Bool.false_and]
  split
  · exact hx
  · split
    · exact Nat.zero_le _
    · exact roundUnits_le_infinity _ _

/-- No sum of finite numbers lies behind infinity. -/
theorem magnitude_sum_le {xs : List Binary64} (h : ∀ x ∈ xs, x.isFinite = true) :
    (sum xs).magnitude ≤ infinity := by
  have hfold : ∀ (ys : List Binary64) (acc : Binary64), acc.magnitude ≤ infinity →
      (∀ y ∈ ys, y.isFinite = true) → (ys.foldl add acc).magnitude ≤ infinity := by
    intro ys
    induction ys with
    | nil => exact fun acc hacc _ => hacc
    | cons y ys ih =>
      intro acc hacc hys
      exact ih _ (magnitude_add_le hacc (hys y List.mem_cons_self))
        fun z hz => hys z (List.mem_cons_of_mem y hz)
  exact hfold xs zero (Nat.zero_le _) h

theorem magnitude_divideBy_le {x : Binary64} (hx : x.magnitude ≤ infinity) (count : Nat) :
    (x.divideBy count).magnitude ≤ infinity := by
  unfold divideBy
  split
  · exact roundUnits_le_infinity _ _
  · exact hx

end Binary64
end TableTalk
