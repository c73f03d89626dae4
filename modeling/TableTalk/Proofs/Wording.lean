import TableTalk.Proofs.Reading

/-!
# Which texts are words

The words of a vocabulary are its labels and their short forms, and no other text is read as one
of its members.  A kind is named by its label or by a numeral for its number.  Labels begin with a
letter and numerals with a digit or a plus sign, so that no text is both, and it makes no
difference which of the two is tried first.

## Main definitions

* `Vocabulary.spellings` — the texts that are words of a vocabulary.
* `Numeral.Denotes` — the numerals for a number.
* `Kind.Named` — the texts that name a kind.

## Main results

* `Vocabulary.exists_read?_iff` — which texts are read as a member.
* `Aggregate.needsKeys_eq_false_iff` — which word asks for no keys.
* `Numeral.natural?_eq_some_iff` — which texts are read as a number.
* `Kind.resolve?_eq_some_iff` — which texts name a kind.
-/

namespace TableTalk

/-! ### Words -/

namespace Vocabulary

/-- The texts that are words of a vocabulary. -/
def spellings (α : Type) [Vocabulary α] : List String :=
  (members : List α).flatMap fun a => label a :: shortForms a

variable {α : Type} [Vocabulary α]

theorem eq_label_or_mem_shortForms {s : String} {a : α} (h : read? s = some a) :
    s = label a ∨ s ∈ shortForms a := by
  have hfound := List.find?_some h
  rw [Bool.or_eq_true, beq_iff_eq, List.contains_iff_mem] at hfound
  exact hfound.imp_left Eq.symm

/-- A text is read exactly if it is a word. -/
theorem isSome_read?_iff {s : String} : (read? s : Option α).isSome = true ↔ s ∈ spellings α := by
  rw [read?, List.find?_isSome, spellings, List.mem_flatMap]
  simp only [Bool.or_eq_true, beq_iff_eq, List.contains_iff_mem, List.mem_cons, eq_comm (a := s)]

theorem read?_eq_none_iff {s : String} : (read? s : Option α) = none ↔ s ∉ spellings α := by
  rw [← isSome_read?_iff, Bool.not_eq_true, Option.isSome_eq_false_iff, Option.isNone_iff_eq_none]

theorem exists_read?_iff {s : String} : (∃ a : α, read? s = some a) ↔ s ∈ spellings α := by
  rw [← isSome_read?_iff, Option.isSome_iff_exists]

end Vocabulary

example : Vocabulary.spellings Direction = ["Ascending", "Asc", "Descending", "Desc"] := rfl

example : Vocabulary.spellings Relation = ["Equals", "==", "NotEquals", "!=", "LessThan", "<",
    "GreaterThan", ">", "InRange"] := rfl

example : Vocabulary.spellings Aggregate = ["Sum", "Mean", "Avg", "ConcatValues", "Concat",
    "CountDistinct", "CountAll", "GroupKey"] := rfl

/-- Of all aggregates only the one that is spelt `GroupKey` asks for no keys. -/
theorem Aggregate.needsKeys_eq_false_iff {word : String} {a : Aggregate}
    (h : Vocabulary.read? word = some a) : a.needsKeys = false ↔ word = "GroupKey" := by
  constructor
  · intro hkeys
    cases a with
    | groupKey =>
      rcases Vocabulary.eq_label_or_mem_shortForms h with hword | hword
      · exact hword
      · cases hword
    | sum | mean | concat | countDistinct | countAll => cases hkeys
  · rintro rfl
    cases h
    rfl

theorem Aggregate.needsKeys_of_ne {word : String} {a : Aggregate}
    (h : Vocabulary.read? word = some a) (hne : word ≠ "GroupKey") : a.needsKeys = true := by
  rwa [← Bool.not_eq_false, needsKeys_eq_false_iff h]

/-! ### Kinds -/

/-- The text is a numeral for the number: decimal digits, with a plus sign in front if need be. -/
def Numeral.Denotes (s : String) (n : Nat) : Prop :=
  ∃ sign digits, s.toList = sign ++ digits ∧ (sign = [] ∨ sign = ['+']) ∧ digits ≠ [] ∧
    (∀ c ∈ digits, c.isDigit = true) ∧ Nat.ofDigitChars 10 digits 0 = n

theorem Numeral.digits?_eq_some_iff {cs : List Char} {n : Nat} : digits? cs = some n ↔
    cs ≠ [] ∧ (∀ c ∈ cs, c.isDigit = true) ∧ Nat.ofDigitChars 10 cs 0 = n := by
  unfold digits?
  by_cases hne : cs = []
  · simp [hne]
  · by_cases hall : ∀ c ∈ cs, c.isDigit = true
    · have hdigits : cs.all Char.isDigit = true := List.all_eq_true.2 hall
      simp only [hdigits, List.isEmpty_eq_false_iff.2 hne, Bool.not_true, Bool.or_false,
        Bool.false_eq_true, if_false, Option.some.injEq]
      exact ⟨fun h => ⟨hne, hall, h⟩, fun h => h.2.2⟩
    · have hdigits : cs.all Char.isDigit = false := by simpa using hall
      simp [hdigits, hall]

/-- A plus sign in front of the digits is passed over. -/
theorem Numeral.natural?_eq (s : String) : ∃ sign digits, s.toList = sign ++ digits ∧
    (sign = [] ∧ digits.head? ≠ some '+' ∨ sign = ['+']) ∧
    natural? s = (digits? digits).filter (· < wordLimit) := by
  unfold natural?
  split
  · next cs hcs => exact ⟨['+'], cs, hcs, .inr rfl, rfl⟩
  · next hplus =>
    refine ⟨[], s.toList, rfl, .inl ⟨rfl, fun hhead => ?_⟩, rfl⟩
    obtain ⟨cs, hcs⟩ := List.head?_eq_some_iff.1 hhead
    exact hplus cs hcs

/-- A numeral is read if a word holds the number. -/
theorem Numeral.natural?_eq_some_iff {s : String} {n : Nat} :
    natural? s = some n ↔ Denotes s n ∧ n < wordLimit := by
  obtain ⟨sign, digits, hs, hsign, hnatural⟩ := natural?_eq s
  rw [hnatural, Option.filter_eq_some_iff, decide_eq_true_eq, digits?_eq_some_iff]
  refine and_congr_left fun _ => ?_
  constructor
  · intro h
    exact ⟨sign, digits, hs, hsign.imp_left And.left, h⟩
  · rintro ⟨sign', digits', hs', hsign', hne, hall, hvalue⟩
    -- A digit is no plus sign, so there is one way only to cut off the sign.
    have hdigit : digits'.head? ≠ some '+' := by
      intro hhead
      have hplus := hall '+' (List.mem_of_mem_head? hhead)
      cases hplus
    have hsame : digits = digits' := by
      rw [hs] at hs'
      rcases hsign with ⟨rfl, hplus⟩ | rfl <;> rcases hsign' with rfl | rfl
      · exact hs'
      · rw [List.nil_append] at hs'
        rw [hs'] at hplus
        exact absurd rfl hplus
      · rw [List.nil_append] at hs'
        rw [← hs'] at hdigit
        exact absurd rfl hdigit
      · exact List.append_cancel_left hs'
    exact hsame ▸ ⟨hne, hall, hvalue⟩

namespace Kind

/-- The text is the label of the kind or a numeral for its number. -/
def Named (s : String) (k : Kind) : Prop := s = k.name ∨ Numeral.Denotes s k.index

theorem getElem?_all_iff {i : Nat} {k : Kind} : all[i]? = some k ↔ i = k.index := by
  constructor
  · intro h
    rcases i with _ | _ | _ | _ | _ | i <;> cases h <;> rfl
  · rintro rfl
    cases k <;> rfl

theorem ofLabel?_eq_some_iff {s : String} {k : Kind} :
    (Vocabulary.ofLabel? s : Option Kind) = some k ↔ s = k.name := by
  constructor
  · intro h
    have hfound := List.find?_some (p := fun k : Kind => Vocabulary.label k == s) h
    exact (beq_iff_eq.1 hfound).symm
  · rintro rfl
    cases k <;> rfl

/-- Which texts name a kind, white space around them aside. -/
theorem resolve?_eq_some_iff {token : String} {k : Kind} :
    resolve? token = some k ↔ Named (Text.trim token) k := by
  have hsmall : k.index < Numeral.wordLimit := by cases k <;> decide
  have hlabel : Numeral.natural? k.name = none := by cases k <;> decide
  unfold resolve? Named
  cases hnumber : Numeral.natural? (Text.trim token) with
  | some i =>
    have hdenotes := (Numeral.natural?_eq_some_iff.1 hnumber).1
    simp only [hnumber, getElem?_all_iff]
    constructor
    · rintro rfl
      exact .inr hdenotes
    · rintro (hname | hdenotes)
      · rw [hname, hlabel] at hnumber
        cases hnumber
      · rw [Numeral.natural?_eq_some_iff.2 ⟨hdenotes, hsmall⟩, Option.some.injEq] at hnumber
        exact hnumber.symm
  | none =>
    simp only [hnumber, ofLabel?_eq_some_iff]
    constructor
    · exact .inl
    · rintro (hname | hdenotes)
      · exact hname
      · rw [Numeral.natural?_eq_some_iff.2 ⟨hdenotes, hsmall⟩] at hnumber
        cases hnumber

end Kind
end TableTalk
