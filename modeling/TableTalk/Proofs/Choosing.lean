import TableTalk.Dialogue.Answer
import TableTalk.Proofs.Wording

/-!
# What an answer chooses

An answer to a question with options is trimmed first, and what is left settles what it comes to:
nothing, a label where labels count, a numeral, or anything else.  A label counts before a number,
and of two equal labels the first one.  A numeral has decimal digits, leading zeros among them, and
a sign if need be; one for a number that a word does not hold is no numeral at all, and one for a
number that no option has is told from any other text.

`Chosen` has one case for each of these, and they exclude each other, so that it says for each
reply exactly when it is given.

## Main definitions

* `Numeral.Signed`, `Numeral.Integer` — the numerals for a number, and for one that a word holds.
* `FirstAt` — the first position of a label among options.
* `Chosen` — what an answer comes to once it is trimmed.

## Main results

* `Numeral.integer?_eq_some_iff` — which texts are read as a number.
* `choose_eq_iff` — what an answer comes to is what it comes to once it is trimmed.
* `chosen_of_trimmed` — **when each reply is given to an answer.**
-/

namespace TableTalk

/-! ### Signed numerals -/

namespace Numeral

/-- The text is a numeral for the number: decimal digits, leading zeros among them, with a sign in
front if need be. -/
inductive Signed (s : String) : Int → Prop
  /-- There is no sign, or a plus sign. -/
  | positive {n : Nat} (h : Denotes s n) : Signed s n
  /-- There is a minus sign. -/
  | negative {n : Nat} {digits : List Char} (hs : s.toList = '-' :: digits) (hne : digits ≠ [])
    (hdigits : ∀ c ∈ digits, c.isDigit = true) (hvalue : Nat.ofDigitChars 10 digits 0 = n) :
    Signed s (-n)

/-- The text is a numeral for the number, and a signed word of 64 bits holds it. -/
structure Integer (s : String) (i : Int) : Prop where
  /-- It is a numeral for the number. -/
  signed : Signed s i
  /-- The number is not too small. -/
  minValue_le : Int64.minValue.toInt ≤ i
  /-- The number is not too large. -/
  le_maxValue : i ≤ Int64.maxValue.toInt

/-- Behind no minus sign the digits are those of an unsigned numeral. -/
theorem denotes_iff {s : String} {n : Nat} :
    Denotes s n ↔ ∃ cs, splitSign s.toList = (false, cs) ∧ digits? cs = some n := by
  constructor
  · rintro ⟨sign, digits, hs, rfl | rfl, hdigits⟩
    · exact ⟨digits, hs ▸ splitSign_of_isDigit hdigits.2.1, digits?_eq_some_iff.2 hdigits⟩
    · exact ⟨digits, hs ▸ rfl, digits?_eq_some_iff.2 hdigits⟩
  · rintro ⟨cs, hsplit, hcs⟩
    have hdigits := digits?_eq_some_iff.1 hcs
    unfold splitSign at hsplit
    split at hsplit
    · cases hsplit
    · next digits hs =>
      cases hsplit
      exact ⟨['+'], cs, hs, .inr rfl, hdigits⟩
    · cases hsplit
      exact ⟨[], _, rfl, .inl rfl, hdigits⟩

theorem eq_minus_of_splitSign {cs digits : List Char} (h : splitSign cs = (true, digits)) :
    cs = '-' :: digits := by
  unfold splitSign at h
  split at h <;> cases h
  rfl

/-- Which texts are read as a number. -/
theorem integer?_eq_some_iff {s : String} {i : Int} : integer? s = some i ↔ Integer s i := by
  have hword : Nat.pow 2 63 = 9223372036854775808 := rfl
  have hmin : Int64.minValue.toInt = -9223372036854775808 := rfl
  have hmax : Int64.maxValue.toInt = 9223372036854775807 := rfl
  constructor
  · intro h
    unfold integer? at h
    rcases hsplit : splitSign s.toList with ⟨minus, cs⟩
    rw [hsplit] at h
    dsimp only at h
    cases hcs : digits? cs with
    | none =>
      rw [hcs] at h
      cases h
    | some n =>
      rw [hcs] at h
      have hdigits := digits?_eq_some_iff.1 hcs
      cases minus with
      | true =>
        have hs := eq_minus_of_splitSign hsplit
        dsimp only at h
        rw [if_pos rfl] at h
        split at h
        · next hn =>
          cases h
          exact ⟨.negative hs hdigits.1 hdigits.2.1 hdigits.2.2, by omega, by omega⟩
        · cases h
      | false =>
        dsimp only at h
        rw [if_neg Bool.false_ne_true] at h
        split at h
        · next hn =>
          cases h
          exact ⟨.positive (denotes_iff.2 ⟨cs, hsplit, hcs⟩), by omega, by omega⟩
        · cases h
  · rintro ⟨hsigned, hmin_le, hle_max⟩
    cases hsigned with
    | @positive n hdenotes =>
      obtain ⟨cs, hsplit, hcs⟩ := denotes_iff.1 hdenotes
      have hn : n < Nat.pow 2 63 := by omega
      simp only [integer?, hsplit, hcs, Bool.false_eq_true, if_false, if_pos hn]
    | @negative n digits hs hne hdigits hvalue =>
      have hn : n ≤ Nat.pow 2 63 := by omega
      have hcs := digits?_eq_some_iff.2 ⟨hne, hdigits, hvalue⟩
      simp only [integer?, hs, splitSign, hcs, if_true, if_pos hn]

theorem integer?_eq_none_iff {s : String} : integer? s = none ↔ ∀ i, ¬Integer s i := by
  simp only [Option.eq_none_iff_forall_ne_some, ne_eq, integer?_eq_some_iff]

end Numeral

/-! ### Labels and numbers of options -/

/-- The first option with the label has the position. -/
def FirstAt (options : List String) (label : String) (i : Nat) : Prop :=
  options[i]? = some label ∧ ∀ j < i, options[j]? ≠ some label

theorem findIdx?_eq_some_iff_firstAt {options : List String} {label : String} {i : Nat} :
    options.findIdx? (· == label) = some i ↔ FirstAt options label i := by
  rw [List.findIdx?_eq_some_iff_getElem]
  constructor
  · rintro ⟨hlt, hlabel, hbefore⟩
    refine ⟨List.getElem?_eq_some_iff.2 ⟨hlt, beq_iff_eq.1 hlabel⟩, fun j hj hsame => ?_⟩
    obtain ⟨_, hsame⟩ := List.getElem?_eq_some_iff.1 hsame
    exact hbefore j hj (beq_iff_eq.2 hsame)
  · rintro ⟨hlabel, hbefore⟩
    obtain ⟨hlt, hlabel⟩ := List.getElem?_eq_some_iff.1 hlabel
    refine ⟨hlt, beq_iff_eq.2 hlabel, fun j hj hsame => ?_⟩
    have hj' : j < options.length := Nat.lt_trans hj hlt
    exact hbefore j hj (List.getElem?_eq_some_iff.2 ⟨hj', beq_iff_eq.1 hsame⟩)

/-- Only where labels count, an answer names the first option with its label. -/
theorem labelIndex?_eq_some_iff {matching : Matching} {options : List String} {answer : String}
    {i : Nat} : labelIndex? matching options answer = some i ↔
      matching = .labelOrIndex ∧ FirstAt options answer i := by
  cases matching with
  | labelOrIndex => simp [labelIndex?, findIdx?_eq_some_iff_firstAt]
  | indexOnly => simp [labelIndex?]

theorem labelIndex?_eq_none_iff {matching : Matching} {options : List String} {answer : String} :
    labelIndex? matching options answer = none ↔
      (matching = .labelOrIndex → answer ∉ options) := by
  cases matching with
  | labelOrIndex =>
    simp only [labelIndex?, List.findIdx?_eq_none_iff, beq_eq_false_iff_ne, forall_const]
    exact ⟨fun h hmem => h answer hmem rfl, fun h option hoption heq => h (heq ▸ hoption)⟩
  | indexOnly => simp [labelIndex?]

theorem optionAt_of_some {options : List String} {i : Nat} {label : String}
    (h : options[i]? = some label) : optionAt options i = .ok (.option i label) := by
  simp only [optionAt, Int.toNat_natCast, h, if_neg (Int.not_lt.2 (Int.natCast_nonneg i))]

theorem optionAt_of_none {options : List String} {number : Int}
    (h : ∀ i : Nat, number = i → options.length ≤ i) :
    optionAt options number = .error .outOfRange := by
  unfold optionAt
  split
  · rfl
  · next hnonneg =>
    have hlength := h number.toNat (Int.toNat_of_nonneg (Int.not_lt.1 hnonneg)).symm
    rw [List.getElem?_eq_none hlength]

/-! ### What an answer comes to -/

/-- What an answer comes to once it is trimmed. -/
inductive Chosen (options : List String) (matching : Matching) (allowStop : Bool)
    (answer : String) : Except Invalid Choice → Prop
  /-- Nothing is left, where stopping is allowed. -/
  | stop (hanswer : answer = "") (hstop : allowStop = true) :
    Chosen options matching allowStop answer (.ok .stop)
  /-- Nothing is left, and an answer is required. -/
  | empty (hanswer : answer = "") (hstop : allowStop = false) :
    Chosen options matching allowStop answer (.error .empty)
  /-- It is a label, where labels count. -/
  | label {i : Nat} (hanswer : answer ≠ "") (hmatching : matching = .labelOrIndex)
    (hfirst : FirstAt options answer i) :
    Chosen options matching allowStop answer (.ok (.option i answer))
  /-- It is the number of an option. -/
  | number {i : Nat} {label : String} (hanswer : answer ≠ "")
    (hnone : matching = .labelOrIndex → answer ∉ options)
    (hnumber : Numeral.Integer answer i) (hlabel : options[i]? = some label) :
    Chosen options matching allowStop answer (.ok (.option i label))
  /-- It is another number. -/
  | outOfRange {number : Int} (hanswer : answer ≠ "")
    (hnone : matching = .labelOrIndex → answer ∉ options)
    (hnumber : Numeral.Integer answer number)
    (hrange : ∀ i : Nat, number = i → options.length ≤ i) :
    Chosen options matching allowStop answer (.error .outOfRange)
  /-- It is neither a label nor a number, where labels count. -/
  | notOffered (hanswer : answer ≠ "") (hmatching : matching = .labelOrIndex)
    (hnone : answer ∉ options) (hnumber : ∀ number, ¬Numeral.Integer answer number) :
    Chosen options matching allowStop answer (.error .notOffered)
  /-- It is no number, where numbers only count. -/
  | notNumber (hanswer : answer ≠ "") (hmatching : matching = .indexOnly)
    (hnumber : ∀ number, ¬Numeral.Integer answer number) :
    Chosen options matching allowStop answer (.error .notNumber)

section

variable {answer : String} {options : List String} {matching : Matching} {allowStop : Bool}
  {reply : Except Invalid Choice}

/-- Some case applies to every answer. -/
theorem chosen_of_choose_eq (h : choose answer options matching allowStop = reply) :
    Chosen options matching allowStop (Text.trim answer) reply := by
  unfold choose at h
  generalize Text.trim answer = t at h ⊢
  dsimp only at h
  by_cases hanswer : t = ""
  · subst hanswer
    cases allowStop <;> cases h
    · exact .empty rfl rfl
    · exact .stop rfl rfl
  · rw [if_neg (by simp [hanswer])] at h
    cases hlabel : labelIndex? matching options t with
    | some i =>
      obtain ⟨hmatching, hfirst⟩ := labelIndex?_eq_some_iff.1 hlabel
      rw [hlabel] at h
      simp only [hfirst.1, Option.getD_some] at h
      exact h ▸ .label hanswer hmatching hfirst
    | none =>
      have hnone := labelIndex?_eq_none_iff.1 hlabel
      rw [hlabel] at h
      cases hnumber : Numeral.integer? t with
      | some number =>
        have hinteger := Numeral.integer?_eq_some_iff.1 hnumber
        simp only [hnumber] at h
        by_cases hrange : ∃ i : Nat, number = i ∧ i < options.length
        · obtain ⟨i, rfl, hi⟩ := hrange
          have hsome := List.getElem?_eq_getElem hi
          rw [optionAt_of_some hsome] at h
          exact h ▸ .number hanswer hnone hinteger hsome
        · have hlength : ∀ i : Nat, number = i → options.length ≤ i := fun i hi =>
            Nat.not_lt.1 fun hlt => hrange ⟨i, hi, hlt⟩
          rw [optionAt_of_none hlength] at h
          exact h ▸ .outOfRange hanswer hnone hinteger hlength
      | none =>
        have hinteger := Numeral.integer?_eq_none_iff.1 hnumber
        simp only [hnumber] at h
        cases matching with
        | labelOrIndex => exact h ▸ .notOffered hanswer rfl (hnone rfl) hinteger
        | indexOnly => exact h ▸ .notNumber hanswer rfl hinteger

/-- Each case says what the answer comes to. -/
theorem choose_eq_of_chosen (h : Chosen options matching allowStop (Text.trim answer) reply) :
    choose answer options matching allowStop = reply := by
  unfold choose
  generalize Text.trim answer = t at h ⊢
  cases h with
  | stop hanswer hstop | empty hanswer hstop =>
    subst hanswer hstop
    rfl
  | label hanswer hmatching hfirst =>
    have hlabel := labelIndex?_eq_some_iff.2 ⟨hmatching, hfirst⟩
    simp only [String.isEmpty_eq_false_iff.2 hanswer, hlabel, hfirst.1]
    rfl
  | number hanswer hnone hnumber hlabel =>
    have hindex := labelIndex?_eq_none_iff.2 hnone
    have hinteger := Numeral.integer?_eq_some_iff.2 hnumber
    simp only [String.isEmpty_eq_false_iff.2 hanswer, hindex, hinteger, optionAt_of_some hlabel]
    rfl
  | outOfRange hanswer hnone hnumber hrange =>
    have hindex := labelIndex?_eq_none_iff.2 hnone
    have hinteger := Numeral.integer?_eq_some_iff.2 hnumber
    simp only [String.isEmpty_eq_false_iff.2 hanswer, hindex, hinteger, optionAt_of_none hrange]
    rfl
  | notOffered hanswer hmatching hnone hnumber =>
    have hindex := labelIndex?_eq_none_iff.2 fun _ : matching = .labelOrIndex => hnone
    have hinteger := Numeral.integer?_eq_none_iff.2 hnumber
    subst hmatching
    simp only [String.isEmpty_eq_false_iff.2 hanswer, hindex, hinteger]
    rfl
  | notNumber hanswer hmatching hnumber =>
    subst hmatching
    have hinteger := Numeral.integer?_eq_none_iff.2 hnumber
    simp only [String.isEmpty_eq_false_iff.2 hanswer, labelIndex?, hinteger]
    rfl

/-- What an answer comes to is what it comes to once it is trimmed. -/
theorem choose_eq_iff : choose answer options matching allowStop = reply ↔
    Chosen options matching allowStop (Text.trim answer) reply :=
  ⟨chosen_of_choose_eq, choose_eq_of_chosen⟩

/-! ### When each reply is given -/

theorem Chosen.stop_iff : Chosen options matching allowStop answer (.ok .stop) ↔
    answer = "" ∧ allowStop = true := by
  constructor
  · intro h
    cases h with
    | stop hanswer hstop => exact ⟨hanswer, hstop⟩
  · rintro ⟨hanswer, hstop⟩
    exact .stop hanswer hstop

theorem Chosen.empty_iff : Chosen options matching allowStop answer (.error .empty) ↔
    answer = "" ∧ allowStop = false := by
  constructor
  · intro h
    cases h with
    | empty hanswer hstop => exact ⟨hanswer, hstop⟩
  · rintro ⟨hanswer, hstop⟩
    exact .empty hanswer hstop

/-- An option is chosen by its label or by its number, and the label is its own either way. -/
theorem Chosen.option_iff {i : Nat} {label : String} :
    Chosen options matching allowStop answer (.ok (.option i label)) ↔
      answer ≠ "" ∧ options[i]? = some label ∧
        (matching = .labelOrIndex ∧ FirstAt options answer i ∨
          (matching = .labelOrIndex → answer ∉ options) ∧ Numeral.Integer answer i) := by
  constructor
  · intro h
    cases h with
    | label hanswer hmatching hfirst => exact ⟨hanswer, hfirst.1, .inl ⟨hmatching, hfirst⟩⟩
    | number hanswer hnone hnumber hlabel => exact ⟨hanswer, hlabel, .inr ⟨hnone, hnumber⟩⟩
  · rintro ⟨hanswer, hlabel, ⟨hmatching, hfirst⟩ | ⟨hnone, hnumber⟩⟩
    · have hsame : some label = some answer := hlabel.symm.trans hfirst.1
      cases hsame
      exact .label hanswer hmatching hfirst
    · exact .number hanswer hnone hnumber hlabel

theorem Chosen.outOfRange_iff : Chosen options matching allowStop answer (.error .outOfRange) ↔
    answer ≠ "" ∧ (matching = .labelOrIndex → answer ∉ options) ∧
      ∃ number, Numeral.Integer answer number ∧
        ∀ i : Nat, number = i → options.length ≤ i := by
  constructor
  · intro h
    cases h with
    | outOfRange hanswer hnone hnumber hrange => exact ⟨hanswer, hnone, _, hnumber, hrange⟩
  · rintro ⟨hanswer, hnone, _, hnumber, hrange⟩
    exact .outOfRange hanswer hnone hnumber hrange

theorem Chosen.notOffered_iff : Chosen options matching allowStop answer (.error .notOffered) ↔
    answer ≠ "" ∧ (matching = .labelOrIndex ∧ answer ∉ options) ∧
      ∀ number, ¬Numeral.Integer answer number := by
  constructor
  · intro h
    cases h with
    | notOffered hanswer hmatching hnone hnumber =>
      exact ⟨hanswer, ⟨hmatching, hnone⟩, hnumber⟩
  · rintro ⟨hanswer, ⟨hmatching, hnone⟩, hnumber⟩
    exact .notOffered hanswer hmatching hnone hnumber

theorem Chosen.notNumber_iff : Chosen options matching allowStop answer (.error .notNumber) ↔
    answer ≠ "" ∧ matching = .indexOnly ∧ ∀ number, ¬Numeral.Integer answer number := by
  constructor
  · intro h
    cases h with
    | notNumber hanswer hmatching hnumber => exact ⟨hanswer, hmatching, hnumber⟩
  · rintro ⟨hanswer, hmatching, hnumber⟩
    exact .notNumber hanswer hmatching hnumber

end

/-- **When each reply is given to an answer.**  A blank answer stops the query where that is
allowed, and elsewhere an answer is required.  Any other one chooses an option if it is a label
where labels count, the first option with that label, or if it is no such label and a numeral for
the number of an option; the label is that of the option.  A numeral for another number is out of
range.  What is neither is not offered where labels count, and no number where they do not. -/
theorem chosen_of_trimmed (answer : String) (options : List String) (matching : Matching)
    (allowStop : Bool) :
    let t := Text.trim answer
    let reply := choose answer options matching allowStop
    (reply = .ok .stop ↔ t = "" ∧ allowStop = true) ∧
    (reply = .error .empty ↔ t = "" ∧ allowStop = false) ∧
    (∀ i label, reply = .ok (.option i label) ↔ t ≠ "" ∧ options[i]? = some label ∧
      (matching = .labelOrIndex ∧ FirstAt options t i ∨
        (matching = .labelOrIndex → t ∉ options) ∧ Numeral.Integer t i)) ∧
    (reply = .error .outOfRange ↔ t ≠ "" ∧ (matching = .labelOrIndex → t ∉ options) ∧
      ∃ number, Numeral.Integer t number ∧ ∀ i : Nat, number = i → options.length ≤ i) ∧
    (reply = .error .notOffered ↔ t ≠ "" ∧ (matching = .labelOrIndex ∧ t ∉ options) ∧
      ∀ number, ¬Numeral.Integer t number) ∧
    (reply = .error .notNumber ↔ t ≠ "" ∧ matching = .indexOnly ∧
      ∀ number, ¬Numeral.Integer t number) := by
  intro t reply
  simp only [reply, choose_eq_iff]
  exact ⟨Chosen.stop_iff, Chosen.empty_iff, fun _ _ => Chosen.option_iff, Chosen.outOfRange_iff,
    Chosen.notOffered_iff, Chosen.notNumber_iff⟩

example : choose "7" ["Name", "7", "Age", "7"] .labelOrIndex false = .ok (.option 1 "7") := by
  decide

example : choose "\u3000-00 " ["Name", "7"] .indexOnly true = .ok (.option 0 "Name") := by decide

end TableTalk
