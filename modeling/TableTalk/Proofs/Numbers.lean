import TableTalk.Proofs.Reading
import TableTalk.Proofs.Rounding
import TableTalk.Table.Value

/-!
# Numbers that are written and read again

A number is written as a decimal inside the interval of values that round to it, so reading
the decimal rounds back to the number.  The powers of ten that reading never forms are out of
reach: no finite number has so many digits in front of the point, and none so many zeros
behind it.

## Main definitions

* `Shortest.signed` — a text with a minus sign in front if need be.

## Main results

* `Decimal.magnitude_of_owns` — a decimal that a magnitude owns is read as it.
* `Shortest.owns_find` — the decimal that is written is one that the magnitude owns.
* `readNumber?_numberText` — **a finite number that is not zero is read as it is written.**
* `isSome_readNumber?_repr` — the numeral of a machine word is a finite number.
-/

namespace TableTalk

/-! ### Digits -/

namespace Decimal

theorem digit_lt {c : Char} (h : c.isDigit = true) : c.toNat - '0'.toNat < 10 := by
  have hrange := Numeral.toNat_of_isDigit h
  have hzero : '0'.toNat = 48 := rfl
  omega

theorem digit_pos {c : Char} (h : c.isDigit = true) (hne : c ≠ '0') :
    1 ≤ c.toNat - '0'.toNat := by
  have hrange := Numeral.toNat_of_isDigit h
  have hzero : '0'.toNat = 48 := rfl
  have hother : c.toNat ≠ '0'.toNat := fun heq => hne (Char.toNat_inj.1 heq)
  omega

theorem ofDigitChars_cons_zero (c : Char) (cs : List Char) :
    Nat.ofDigitChars 10 (c :: cs) 0 =
      10 ^ cs.length * (c.toNat - '0'.toNat) + Nat.ofDigitChars 10 cs 0 := by
  rw [Nat.ofDigitChars_cons, Nat.ofDigitChars_eq_ofDigitChars_zero, Nat.mul_zero, Nat.zero_add]

theorem ofDigitChars_lt {cs : List Char} (h : ∀ c ∈ cs, c.isDigit = true) :
    Nat.ofDigitChars 10 cs 0 < 10 ^ cs.length := by
  induction cs with
  | nil => decide
  | cons c cs ih =>
    have hrest := ih fun d hd => h d (List.mem_cons_of_mem c hd)
    have hfirst := Nat.mul_le_mul_left (10 ^ cs.length)
      (Nat.le_of_lt_succ (digit_lt (h c List.mem_cons_self)))
    rw [ofDigitChars_cons_zero, List.length_cons, Nat.pow_succ]
    omega

/-- Zeros in front count nothing. -/
theorem ofDigitChars_dropWhile (cs : List Char) :
    Nat.ofDigitChars 10 (cs.dropWhile (· == '0')) 0 = Nat.ofDigitChars 10 cs 0 := by
  induction cs with
  | nil => rfl
  | cons c cs ih =>
    rw [List.dropWhile_cons]
    split
    · next hc =>
      rw [ih, ofDigitChars_cons_zero, beq_iff_eq.1 hc, Nat.sub_self, Nat.mul_zero, Nat.zero_add]
    · rfl

variable {d : Decimal}

theorem significand_lt (h : ∀ c ∈ d.digits, c.isDigit = true) :
    d.significand < 10 ^ d.places := by
  rw [significand, ← ofDigitChars_dropWhile]
  exact ofDigitChars_lt fun c hc => h c ((List.dropWhile_sublist _).subset hc)

theorem pow_places_le (h : ∀ c ∈ d.digits, c.isDigit = true) (hne : d.significand ≠ 0) :
    10 ^ d.places ≤ 10 * d.significand := by
  rw [significand, ← ofDigitChars_dropWhile] at hne ⊢
  rw [places]
  cases hdrop : d.digits.dropWhile (· == '0') with
  | nil =>
    rw [hdrop] at hne
    exact absurd rfl hne
  | cons c cs =>
    have hmem : c ∈ d.digits :=
      (List.dropWhile_sublist _).subset (hdrop ▸ List.mem_cons_self)
    have hzero : c ≠ '0' := by
      have hhead := List.head_dropWhile_not (· == '0') (l := d.digits) (by rw [hdrop]; simp)
      simpa [hdrop] using hhead
    have hfirst := Nat.mul_le_mul_left (10 ^ cs.length) (digit_pos (h c hmem) hzero)
    rw [ofDigitChars_cons_zero, List.length_cons, Nat.pow_succ]
    omega

end Decimal

/-! ### Values in decimal units -/

namespace Shortest

open Binary64 (infinity units Nearest)

/-- A text with a minus sign in front if need be. -/
def signed (negative : Bool) (cs : List Char) : List Char := if negative then '-' :: cs else cs

theorem scaled_eq (m : Nat) : scaled m = units m * 5 ^ finestPlace := by
  rw [scaled, Nat.pow_eq]

theorem two_pow_mul_five_pow : Nat.pow 2 1074 * 5 ^ finestPlace = 10 ^ finestPlace := by
  decide +kernel

/-- No finite number reaches `10 ^ 309`. -/
theorem scaled_infinity_lt : scaled infinity < 10 ^ (finestPlace + 309) := by decide +kernel

/-- Half of the smallest number is above `10 ^ (-330)`. -/
theorem pow_lt_scaled_one : 2 * 10 ^ finestPlace < scaled 1 * 10 ^ 330 := by decide +kernel

theorem strictMono_scaled : StrictMono scaled := by
  intro m n h
  rw [scaled_eq, scaled_eq]
  exact Nat.mul_lt_mul_of_pos_right (Binary64.strictMono_units h) (Nat.pow_pos (by decide))

/-! ### The interval of a magnitude -/

/-- The value lies in the interval, whose ends count if the magnitude is even. -/
theorem owns_iff {m c : Nat} : owns m c = true ↔
    scaled (m - 1) + scaled m ≤ 2 * c ∧ 2 * c ≤ scaled m + scaled (m + 1) ∧
      (m % 2 = 1 →
        scaled (m - 1) + scaled m < 2 * c ∧ 2 * c < scaled m + scaled (m + 1)) := by
  simp only [owns]
  split <;> simp only [Bool.and_eq_true, decide_eq_true_eq] <;> omega

theorem owns_scaled {m : Nat} (hm : 0 < m) : owns m (scaled m) = true := by
  have hfront := strictMono_scaled (Nat.sub_one_lt hm.ne')
  have hbehind := strictMono_scaled (show m < m + 1 by omega)
  exact owns_iff.2 ⟨by omega, by omega, fun _ => by omega⟩

theorem scaled_one_le {m c : Nat} (hm : 0 < m) (h : owns m c = true) : scaled 1 ≤ 2 * c := by
  have hfirst := strictMono_scaled.monotone (show 1 ≤ m from hm)
  have hlow := (owns_iff.1 h).1
  omega

theorem le_scaled_infinity {m c : Nat} (hm : m < infinity) (h : owns m c = true) :
    c ≤ scaled infinity := by
  have hlast := strictMono_scaled.monotone hm
  have hfront := strictMono_scaled.monotone hm.le
  have hhigh := (owns_iff.1 h).2.1
  change scaled (m + 1) ≤ scaled infinity at hlast
  omega

/-- A fraction of units is nearest to the magnitude that owns its value. -/
theorem nearest_of_owns {m c num den : Nat} (hden : 0 < den) (h : owns m c = true)
    (hvalue : num * 5 ^ finestPlace = c * den) : Nearest m num den := by
  have hpos : 0 < 5 ^ finestPlace := Nat.pow_pos (by decide)
  obtain ⟨hlow, hhigh, hodd⟩ := owns_iff.1 h
  have hnum : 2 * num * 5 ^ finestPlace = 2 * c * den := by
    rw [Nat.mul_assoc, hvalue, Nat.mul_assoc]
  have hsum : ∀ a b, (units a + units b) * den * 5 ^ finestPlace = (scaled a + scaled b) * den := by
    intro a b
    rw [scaled_eq, scaled_eq]
    ring
  refine ⟨?_, ?_, ?_⟩
  · refine Nat.le_of_mul_le_mul_right ?_ hpos
    rw [hsum, hnum]
    exact Nat.mul_le_mul_right den hlow
  · refine Nat.le_of_mul_le_mul_right ?_ hpos
    rw [hsum, hnum]
    exact Nat.mul_le_mul_right den hhigh
  · intro hm
    obtain ⟨hlow, hhigh⟩ := hodd hm
    refine ⟨Nat.lt_of_mul_lt_mul_right (a := 5 ^ finestPlace) ?_,
      Nat.lt_of_mul_lt_mul_right (a := 5 ^ finestPlace) ?_⟩
    · rw [hsum, hnum]
      exact Nat.mul_lt_mul_of_pos_right hlow hden
    · rw [hsum, hnum]
      exact Nat.mul_lt_mul_of_pos_right hhigh hden

/-! ### The decimal that is written -/

theorem owns_onGrid? {m j d : Nat} (h : onGrid? m j = some d) :
    owns m (d * 10 ^ j) = true := by
  simp only [onGrid?, Nat.pow_eq] at h
  split at h
  · next hbelow habove =>
    cases h
    split
    · exact hbelow
    · exact habove
  · next hbelow _ =>
    cases h
    exact hbelow
  · next _ habove =>
    cases h
    exact habove
  · cases h

/-- The decimal that is written is one that the magnitude owns. -/
theorem owns_find {m : Nat} (hm : 0 < m) (j : Nat) :
    owns m ((find m j).1 * 10 ^ (find m j).2) = true := by
  induction j with
  | zero =>
    rw [find, Nat.pow_zero, Nat.mul_one]
    exact owns_scaled hm
  | succ j ih =>
    rw [find]
    split
    · next hgrid => exact owns_onGrid? hgrid
    · exact ih

end Shortest

/-! ### Reading decimals -/

namespace Decimal

open Binary64 (infinity)
open Shortest (signed finestPlace scaled owns)

variable {d : Decimal} {m c b : Nat}

/-- A decimal that a magnitude owns has no more digits than are looked at. -/
theorem places_le (hdigits : ∀ e ∈ d.digits, e.isDigit = true) (hne : d.significand ≠ 0)
    (hfinite : m < infinity) (howns : owns m c = true)
    (hvalue : d.significand * 10 ^ finestPlace = c * 10 ^ b) : d.places ≤ b + 310 := by
  have hlast := (Shortest.le_scaled_infinity hfinite howns).trans_lt Shortest.scaled_infinity_lt
  have hexponent : finestPlace + 309 + b + 1 = b + 310 + finestPlace := by omega
  have hbound : 10 ^ (d.places + finestPlace) < 10 ^ (b + 310 + finestPlace) := by
    calc 10 ^ (d.places + finestPlace) = 10 ^ d.places * 10 ^ finestPlace := Nat.pow_add _ _ _
      _ ≤ 10 * d.significand * 10 ^ finestPlace :=
        Nat.mul_le_mul_right _ (pow_places_le hdigits hne)
      _ = 10 * (c * 10 ^ b) := by rw [Nat.mul_assoc, hvalue]
      _ < 10 * (10 ^ (finestPlace + 309) * 10 ^ b) :=
        Nat.mul_lt_mul_of_pos_left
          (Nat.mul_lt_mul_of_pos_right hlast (Nat.pow_pos (by decide))) (by decide)
      _ = 10 ^ (b + 310 + finestPlace) := by
        rw [← Nat.pow_add, ← Nat.pow_succ', Nat.succ_eq_add_one, hexponent]
  have := (Nat.pow_lt_pow_iff_right (by decide)).1 hbound
  omega

/-- A decimal that a magnitude owns has no more zeros behind the point than are looked at. -/
theorem le_places (hdigits : ∀ e ∈ d.digits, e.isDigit = true) (hm : 0 < m)
    (howns : owns m c = true) (hvalue : d.significand * 10 ^ finestPlace = c * 10 ^ b) :
    b ≤ d.places + 330 := by
  have hfirst := Shortest.scaled_one_le hm howns
  have hbound : 10 ^ (b + finestPlace) < 10 ^ (d.places + 330 + finestPlace) := by
    refine Nat.lt_of_mul_lt_mul_left (a := 2) ?_
    calc 2 * 10 ^ (b + finestPlace) = 2 * 10 ^ finestPlace * 10 ^ b := by ring
      _ < scaled 1 * 10 ^ 330 * 10 ^ b :=
        Nat.mul_lt_mul_of_pos_right Shortest.pow_lt_scaled_one (Nat.pow_pos (by decide))
      _ ≤ 2 * c * 10 ^ 330 * 10 ^ b :=
        Nat.mul_le_mul_right _ (Nat.mul_le_mul_right _ hfirst)
      _ = 2 * (d.significand * 10 ^ finestPlace * 10 ^ 330) := by
        rw [hvalue, Nat.mul_assoc 2, Nat.mul_assoc 2, Nat.mul_right_comm c]
      _ ≤ 2 * (10 ^ d.places * 10 ^ finestPlace * 10 ^ 330) :=
        Nat.mul_le_mul_left 2 (Nat.mul_le_mul_right _
          (Nat.mul_le_mul_right _ (significand_lt hdigits).le))
      _ = 2 * 10 ^ (d.places + 330 + finestPlace) := by
        rw [← Nat.pow_add, ← Nat.pow_add, Nat.add_right_comm]
  have := (Nat.pow_lt_pow_iff_right (by decide)).1 hbound
  omega

/-- A decimal that a magnitude owns is read as it. -/
theorem magnitude_of_owns (hdigits : ∀ e ∈ d.digits, e.isDigit = true) (hm : 0 < m)
    (hfinite : m < infinity) (howns : owns m c = true) (hexponent : d.exponent = -b)
    (hvalue : d.significand * 10 ^ finestPlace = c * 10 ^ b) : d.magnitude = m := by
  have hten : 0 < 10 ^ b := Nat.pow_pos (by decide)
  have hne : d.significand ≠ 0 := by
    intro hzero
    have hfirst := Shortest.scaled_one_le hm howns
    have hone : 0 < scaled 1 := by decide +kernel
    rw [hzero, Nat.zero_mul] at hvalue
    have := Nat.mul_pos (show 0 < c by omega) hten
    omega
  have hhigh := places_le hdigits hne hfinite howns hvalue
  have hlow := le_places hdigits hm howns hvalue
  have hwhole : d.exponent.toNat = 0 := by omega
  have hbehind : (-d.exponent).toNat = b := by omega
  have hone : Nat.pow 10 0 = 1 := rfl
  have hpow : Nat.pow 10 b = 10 ^ b := rfl
  rw [magnitude, if_neg hne, if_neg (by omega), if_neg (by omega), hwhole, hbehind, hone, hpow,
    Nat.mul_one]
  refine Binary64.roundUnits_of_nearest hten hfinite (Shortest.nearest_of_owns hten howns ?_)
  rw [← hvalue, ← Shortest.two_pow_mul_five_pow, Nat.mul_assoc]

/-! ### The text of a decimal -/

theorem splitSign_signed (negative : Bool) {cs : List Char} (hne : cs ≠ [])
    (hhead : (cs.head hne).isDigit = true) :
    Numeral.splitSign (signed negative cs) = (negative, cs) := by
  cases negative with
  | true => rfl
  | false =>
    obtain ⟨e, es, rfl⟩ := List.exists_cons_of_ne_nil hne
    rw [signed, if_neg Bool.false_ne_true, Numeral.splitSign]
    · rintro _ ⟨⟩
      cases hhead
    · rintro _ ⟨⟩
      cases hhead

theorem read?_whole (negative : Bool) {cs : List Char} (hne : cs ≠ [])
    (hdigits : ∀ e ∈ cs, e.isDigit = true) :
    read? (signed negative cs) = some ⟨negative, cs, 0⟩ := by
  have hsign := splitSign_signed negative hne (hdigits _ (List.head_mem hne))
  have hwhole : cs.takeWhile Char.isDigit = cs := List.takeWhile_eq_self_iff.2 hdigits
  have hbehind : cs.dropWhile Char.isDigit = [] := List.dropWhile_eq_nil_iff.2 hdigits
  have hempty : cs.isEmpty = false := List.isEmpty_eq_false_iff.2 hne
  simp only [read?, hsign, hwhole, hbehind, hempty, Bool.false_and, Bool.false_eq_true, if_false,
    List.append_nil]
  rfl

theorem read?_point (negative : Bool) {whole fraction : List Char} (hne : whole ≠ [])
    (hwhole : ∀ e ∈ whole, e.isDigit = true) (hfraction : ∀ e ∈ fraction, e.isDigit = true) :
    read? (signed negative (whole ++ '.' :: fraction)) =
      some ⟨negative, whole ++ fraction, -(fraction.length : Int)⟩ := by
  have happend : whole ++ '.' :: fraction ≠ [] := by simp
  have hhead : (whole ++ '.' :: fraction).head happend = whole.head hne :=
    List.head_append_of_ne_nil hne
  have hsign := splitSign_signed negative happend (hhead ▸ hwhole _ (List.head_mem hne))
  have hfront : (whole ++ '.' :: fraction).takeWhile Char.isDigit = whole := by
    rw [List.takeWhile_append_of_pos hwhole]
    simp
  have hbehind : (whole ++ '.' :: fraction).dropWhile Char.isDigit = '.' :: fraction := by
    rw [List.dropWhile_append_of_pos hwhole]
    simp
  have hempty : whole.isEmpty = false := List.isEmpty_eq_false_iff.2 hne
  simp only [read?, hsign, hfront, hbehind, List.takeWhile_eq_self_iff.2 hfraction,
    List.dropWhile_eq_nil_iff.2 hfraction, hempty, Bool.false_and, Bool.false_eq_true, if_false,
    readExponent?, Option.map_some, Int.zero_sub]

end Decimal

namespace Shortest

theorem isDigit_of_mem_digits {n : Nat} {e : Char} (h : e ∈ digits n) : e.isDigit = true :=
  Nat.isDigit_of_mem_toDigits (by decide) (by decide) h

theorem digits_ne_nil (n : Nat) : digits n ≠ [] := Nat.toDigits_ne_nil

/-- The digits behind the point: as many as there are places. -/
def padded (places n : Nat) : List Char :=
  List.replicate (places - (digits n).length) '0' ++ digits n

theorem positional_of_le {d j : Nat} (h : finestPlace ≤ j) :
    positional d j = digits (d * 10 ^ (j - finestPlace)) := by
  rw [positional, if_pos h, Nat.pow_eq]

theorem positional_of_lt {d j : Nat} (h : j < finestPlace) :
    positional d j = digits (d / 10 ^ (finestPlace - j)) ++
      '.' :: padded (finestPlace - j) (d % 10 ^ (finestPlace - j)) := by
  rw [positional, if_neg (Nat.not_le.2 h)]
  simp only [Nat.pow_eq]
  rfl

theorem length_padded {places n : Nat} (hplaces : 0 < places) (hn : n < 10 ^ places) :
    (padded places n).length = places := by
  have hlength : (digits n).length ≤ places :=
    (Nat.length_toDigits_le_iff (by decide) hplaces).2 hn
  rw [padded, List.length_append, List.length_replicate]
  omega

theorem isDigit_of_mem_padded {places n : Nat} {e : Char} (h : e ∈ padded places n) :
    e.isDigit = true := by
  rcases List.mem_append.1 h with h | h
  · rw [List.eq_of_mem_replicate h]
    rfl
  · exact isDigit_of_mem_digits h

theorem ofDigitChars_digits (n : Nat) : Nat.ofDigitChars 10 (digits n) 0 = n :=
  Nat.ofDigitChars_ten_toDigits

theorem ofDigitChars_padded (places n : Nat) : Nat.ofDigitChars 10 (padded places n) 0 = n := by
  rw [padded, Nat.ofDigitChars_append, Nat.ofDigitChars_replicate_zero, Nat.mul_zero,
    ofDigitChars_digits]

/-- The text of a decimal is read as a decimal of the same value. -/
theorem exists_read?_positional (negative : Bool) (d j : Nat) :
    ∃ cs b, Decimal.read? (signed negative (positional d j)) = some ⟨negative, cs, -(b : Nat)⟩ ∧
      (∀ e ∈ cs, e.isDigit = true) ∧
      Nat.ofDigitChars 10 cs 0 * 10 ^ finestPlace = d * 10 ^ j * 10 ^ b := by
  rcases Nat.lt_or_ge j finestPlace with hlt | hle
  · have hplaces : 0 < finestPlace - j := by omega
    have hsum : finestPlace = j + (finestPlace - j) := by omega
    have hmod := Nat.mod_lt d (Nat.pow_pos (by decide) : 0 < 10 ^ (finestPlace - j))
    refine ⟨digits (d / 10 ^ (finestPlace - j)) ++
      padded (finestPlace - j) (d % 10 ^ (finestPlace - j)), finestPlace - j, ?_, ?_, ?_⟩
    · rw [positional_of_lt hlt, Decimal.read?_point negative (digits_ne_nil _)
        (fun e he => isDigit_of_mem_digits he) (fun e he => isDigit_of_mem_padded he),
        length_padded hplaces hmod]
    · intro e he
      rcases List.mem_append.1 he with he | he
      · exact isDigit_of_mem_digits he
      · exact isDigit_of_mem_padded he
    · rw [Nat.ofDigitChars_append, Nat.ofDigitChars_eq_ofDigitChars_zero,
        length_padded hplaces hmod, ofDigitChars_digits, ofDigitChars_padded, Nat.div_add_mod,
        Nat.mul_assoc, ← Nat.pow_add, ← hsum]
  · refine ⟨digits (d * 10 ^ (j - finestPlace)), 0, ?_, fun e he => isDigit_of_mem_digits he, ?_⟩
    · rw [positional_of_le hle]
      exact Decimal.read?_whole negative (digits_ne_nil _) fun e he => isDigit_of_mem_digits he
    · rw [ofDigitChars_digits, Nat.pow_zero, Nat.mul_one, Nat.mul_assoc, ← Nat.pow_add,
        Nat.sub_add_cancel hle]

theorem isBlankChar_of_mem_signed {negative : Bool} {cs : List Char}
    (h : ∀ e ∈ cs, Text.isBlankChar e = false) :
    ∀ e ∈ signed negative cs, Text.isBlankChar e = false := by
  cases negative with
  | false => exact h
  | true => exact List.forall_mem_cons.2 ⟨rfl, h⟩

/-- The characters of a decimal are no white space. -/
theorem isBlankChar_of_mem_positional {d j : Nat} :
    ∀ e ∈ positional d j, Text.isBlankChar e = false := by
  have hdigit : ∀ n, ∀ e ∈ digits n, Text.isBlankChar e = false := fun n e he =>
    Numeral.isBlankChar_of_isDigit (isDigit_of_mem_digits he)
  intro e he
  rcases Nat.lt_or_ge j finestPlace with hlt | hle
  · rw [positional_of_lt hlt] at he
    rcases List.mem_append.1 he with he | he
    · exact hdigit _ e he
    · rcases List.mem_cons.1 he with rfl | he
      · rfl
      · exact Numeral.isBlankChar_of_isDigit (isDigit_of_mem_padded he)
  · rw [positional_of_le hle] at he
    exact hdigit _ e he

end Shortest

/-! ### Numbers as they are stored -/

section

open Binary64 (infinity)
open Shortest (signed digits find positional finestPlace coarsest)

theorem trim_ofList {cs : List Char} (h : ∀ e ∈ cs, Text.isBlankChar e = false) :
    Text.trim (String.ofList cs) = String.ofList cs := by
  have hkept : ∀ e ∈ (String.ofList cs).toList, Text.isBlankChar e = false := by
    rw [String.toList_ofList]
    exact h
  exact Text.trim_eq_self (fun h => hkept _ (List.head_mem h)) fun h => hkept _ (List.getLast_mem h)

theorem readNumber?_ofList {cs : List Char} {d : Decimal}
    (hkept : ∀ e ∈ cs, Text.isBlankChar e = false) (hread : Decimal.read? cs = some d)
    (hfinite : d.magnitude < infinity) : readNumber? (String.ofList cs) = some d.toBinary64 := by
  rw [readNumber?, trim_ofList hkept, String.toList_ofList, hread, Option.map_some]
  exact Option.filter_eq_some_iff.2 ⟨rfl, Binary64.isFinite_iff.2 hfinite⟩

/-- A whole number that a machine word holds is a finite number. -/
theorem magnitude_lt_infinity {d : Decimal} (hdigits : ∀ e ∈ d.digits, e.isDigit = true)
    (hexponent : d.exponent = 0) (h : d.significand < Numeral.wordLimit) :
    d.magnitude < infinity := by
  by_cases hne : d.significand = 0
  · rw [Decimal.magnitude, if_pos hne]
    decide
  · have hplaces : d.places < 310 := by
      have hword : 10 * Numeral.wordLimit < 10 ^ 310 := by decide +kernel
      have hle := Decimal.pow_places_le hdigits hne
      exact (Nat.pow_lt_pow_iff_right (a := 10) (by decide)).1 (by omega)
    have hwords : Numeral.wordLimit * Nat.pow 2 1074 < Binary64.units (infinity - 1) := by
      decide +kernel
    have hvalue := Nat.mul_lt_mul_of_pos_right h (show 0 < Nat.pow 2 1074 by decide +kernel)
    rw [Decimal.magnitude, if_neg hne, if_neg (by omega), if_neg (by omega), hexponent]
    change Binary64.roundUnits (d.significand * Nat.pow 2 1074 * 1) 1 < infinity
    exact Binary64.roundUnits_lt_infinity Nat.one_pos (by omega)

/-- The numeral of a machine word is a finite number. -/
theorem isSome_readNumber?_repr {n : Nat} (h : n < Numeral.wordLimit) :
    (readNumber? (Nat.repr n)).isSome = true := by
  have hdigits : ∀ e ∈ digits n, e.isDigit = true := fun e he => Shortest.isDigit_of_mem_digits he
  have hread := Decimal.read?_whole false (Shortest.digits_ne_nil n) hdigits
  have hsignificand : Decimal.significand ⟨false, digits n, 0⟩ < Numeral.wordLimit := by
    rw [Decimal.significand, Shortest.ofDigitChars_digits]
    exact h
  have hrepr : Nat.repr n = String.ofList (digits n) := rfl
  rw [hrepr, readNumber?_ofList (fun e he => Numeral.isBlankChar_of_isDigit (hdigits e he)) hread
    (magnitude_lt_infinity hdigits rfl hsignificand)]
  rfl

variable {x : Binary64}

theorem text_of_isFinite (h : x.isFinite = true) :
    x.text = String.ofList (signed x.negative (Shortest.magnitudeText x.magnitude)) := by
  have hnan : x.isNaN = false := Binary64.isNaN_eq_false_iff.2 (Binary64.isFinite_iff.1 h).le
  simp only [Binary64.text, hnan, h, signed, Bool.false_eq_true, if_false, if_true]

/-- The fewest digits of a finite number are read as the number. -/
theorem readNumber?_text (hfinite : x.isFinite = true) (hzero : x.isZero = false) :
    readNumber? x.text = some x := by
  have hm : x.magnitude ≠ 0 := by simpa [Binary64.isZero] using hzero
  obtain ⟨cs, b, hread, hdigits, hvalue⟩ := Shortest.exists_read?_positional x.negative
    (find x.magnitude coarsest).1 (find x.magnitude coarsest).2
  have hmagnitude : (Decimal.mk x.negative cs (-(b : Nat))).magnitude = x.magnitude :=
    Decimal.magnitude_of_owns hdigits (Nat.pos_of_ne_zero hm) (Binary64.isFinite_iff.1 hfinite)
      (Shortest.owns_find (Nat.pos_of_ne_zero hm) coarsest) rfl hvalue
  have htext : Shortest.magnitudeText x.magnitude =
      positional (find x.magnitude coarsest).1 (find x.magnitude coarsest).2 := if_neg hm
  rw [text_of_isFinite hfinite, htext, readNumber?_ofList
    (Shortest.isBlankChar_of_mem_signed Shortest.isBlankChar_of_mem_positional) hread
    (hmagnitude ▸ Binary64.isFinite_iff.1 hfinite), Decimal.toBinary64, hmagnitude]

/-- A whole number is written as its digits. -/
theorem readNumber?_whole {n : Nat} (hfinite : x.isFinite = true) (hzero : x.isZero = false)
    (hn : x.whole? = some n) :
    readNumber? (String.ofList (signed x.negative (digits n))) = some x := by
  have hm : 0 < x.magnitude := by
    have : x.magnitude ≠ 0 := by simpa [Binary64.isZero] using hzero
    omega
  simp only [Binary64.whole?, Option.ite_none_right_eq_some, Option.some_inj, Bool.and_eq_true,
    beq_iff_eq] at hn
  obtain ⟨⟨-, hmod⟩, hdiv⟩ := hn
  have hunits : Binary64.units x.magnitude = n * Nat.pow 2 1074 := by
    rw [← hdiv, Nat.mul_comm, Nat.mul_div_cancel' (Nat.dvd_of_mod_eq_zero hmod)]
  have hdigits : ∀ e ∈ digits n, e.isDigit = true := fun e he => Shortest.isDigit_of_mem_digits he
  have hvalue : (Decimal.mk x.negative (digits n) 0).significand * 10 ^ finestPlace =
      Shortest.scaled x.magnitude * 10 ^ 0 := by
    rw [Nat.pow_zero, Nat.mul_one, Shortest.scaled_eq, hunits, Nat.mul_assoc n,
      Shortest.two_pow_mul_five_pow, Decimal.significand, Shortest.ofDigitChars_digits]
  have hmagnitude : (Decimal.mk x.negative (digits n) 0).magnitude = x.magnitude :=
    Decimal.magnitude_of_owns hdigits hm (Binary64.isFinite_iff.1 hfinite)
      (Shortest.owns_scaled hm) rfl hvalue
  have hread := Decimal.read?_whole x.negative (Shortest.digits_ne_nil n) hdigits
  have hkept : ∀ e ∈ signed x.negative (digits n), Text.isBlankChar e = false :=
    Shortest.isBlankChar_of_mem_signed fun e he => Numeral.isBlankChar_of_isDigit (hdigits e he)
  rw [readNumber?_ofList hkept hread (hmagnitude ▸ Binary64.isFinite_iff.1 hfinite),
    Decimal.toBinary64, hmagnitude]

/-- **A finite number that is not zero is read as it is written.** -/
theorem readNumber?_numberText (hfinite : x.isFinite = true) (hzero : x.isZero = false) :
    readNumber? (numberText x) = some x := by
  rw [numberText, if_neg (by rw [hzero]; exact Bool.false_ne_true)]
  split
  · next n hn =>
    split
    · rw [← readNumber?_whole hfinite hzero hn, signed]
      split <;> rfl
    · exact readNumber?_text hfinite hzero
  · exact readNumber?_text hfinite hzero

/-- What is written of a number that is not behind infinity is a finite number, or the name of
an infinite one. -/
theorem isSome_readNumber?_or (h : x.magnitude ≤ infinity) :
    (readNumber? (numberText x)).isSome = true ∨ numberText x ∈ ["inf", "-inf"] := by
  cases hzero : x.isZero with
  | true =>
    left
    rw [numberText, if_pos hzero]
    decide
  | false =>
    rcases Nat.lt_or_eq_of_le h with hlt | heq
    · left
      rw [readNumber?_numberText (Binary64.isFinite_iff.2 hlt) hzero]
      rfl
    · right
      obtain ⟨negative, magnitude⟩ := x
      subst heq
      cases negative <;> decide

end
end TableTalk
