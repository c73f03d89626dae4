import TableTalk.Proofs.Spelling

/-!
# What is read off an answer

Three readings decide what an answer without a label comes to.  Trimming leaves nothing of a
blank text and only of a blank text.  A list of keys spells none if it is made of commas and
white space.  And the number that a numeral denotes is the one it was written for, as long as
a machine word holds it.

## Main results

* `Text.isEmpty_trim` — trimming empties the blank texts.
* `KeySet.isEmpty_ofTokens_eq_false_iff_piece`, `KeySet.isEmpty_ofTokens_eq_false_iff` — which
  lists spell a key.
* `Numeral.integer?_toString` — the number of a numeral.
-/

namespace TableTalk

namespace Text

/-! ### Characters that are kept -/

/-- Only what is unwanted is stripped. -/
theorem mem_stripWhile_iff {α : Type} {p : α → Bool} {as : List α} {a : α} (ha : p a = false) :
    a ∈ stripWhile p as ↔ a ∈ as := by
  have hwanted : ¬p a = true := Bool.eq_false_iff.1 ha
  constructor
  · exact fun h => (stripWhile_sublist p as).subset h
  · intro h
    have hfront : a ∈ as.dropWhile p := by
      rw [← List.takeWhile_append_dropWhile (p := p) (l := as)] at h
      rcases List.mem_append.1 h with h | h
      · exact absurd (List.mem_takeWhile_imp h) hwanted
      · exact h
    rw [stripWhile_eq]
    rw [← List.rdropWhile_append_rtakeWhile (p := p) (l := as.dropWhile p)] at hfront
    rcases List.mem_append.1 hfront with h | h
    · exact h
    · exact absurd (List.mem_rtakeWhile_imp h) hwanted

theorem mem_trim_iff {s : String} {c : Char} (hc : isBlankChar c = false) :
    c ∈ (trim s).toList ↔ c ∈ s.toList := by
  rw [toList_trim]
  exact mem_stripWhile_iff hc

theorem isBlank_eq_false_iff {s : String} :
    isBlank s = false ↔ ∃ c ∈ s.toList, isBlankChar c = false := by
  simp only [isBlank, List.all_eq_false, Bool.not_eq_true]

/-- Trimming empties the blank texts. -/
theorem isEmpty_trim (s : String) : (trim s).isEmpty = isBlank s := by
  cases hblank : isBlank s with
  | false =>
    obtain ⟨c, hc, hkept⟩ := isBlank_eq_false_iff.1 hblank
    rw [String.isEmpty_eq_false_iff]
    intro hnil
    have hmem := (mem_trim_iff hkept).2 hc
    rw [hnil] at hmem
    cases hmem
  | true =>
    rw [String.isEmpty_iff]
    by_contra hne
    have hempty : (trim s).isEmpty = false := String.isEmpty_eq_false_iff.2 hne
    obtain ⟨c, hc, hkept⟩ := isBlank_eq_false_iff.1 (proper_trim hempty).isBlank_eq
    have hs := isBlank_eq_false_iff.2 ⟨c, (mem_trim_iff hkept).1 hc, hkept⟩
    rw [hblank] at hs
    cases hs

/-- The pieces of a list hold everything it was not cut at. -/
theorem mem_flatten_cutAt_iff {α : Type} {p : α → Bool} {as : List α} {a : α} :
    a ∈ (cutAt p as).flatten ↔ a ∈ as ∧ p a = false := by
  induction as with
  | nil => simp [cutAt]
  | cons b as ih =>
    obtain ⟨first, rest, hcut⟩ := List.exists_cons_of_ne_nil (cutAt_ne_nil p as)
    rw [hcut] at ih
    rw [cutAt, hcut]
    -- An element to be cut at opens a piece, any other one is put in front of the first.
    cases hb : p b with
    | true =>
      rw [if_pos rfl, List.flatten_cons, List.nil_append, ih, List.mem_cons]
      constructor
      · rintro ⟨hmem, ha⟩
        exact ⟨.inr hmem, ha⟩
      · rintro ⟨rfl | hmem, ha⟩
        · rw [hb] at ha
          cases ha
        · exact ⟨hmem, ha⟩
    | false =>
      rw [if_neg Bool.false_ne_true, List.modifyHead_cons, List.flatten_cons, List.cons_append,
        ← List.flatten_cons, List.mem_cons, ih, List.mem_cons]
      constructor
      · rintro (rfl | ⟨hmem, ha⟩)
        · exact ⟨.inl rfl, hb⟩
        · exact ⟨.inr hmem, ha⟩
      · rintro ⟨rfl | hmem, ha⟩
        · exact .inl rfl
        · exact .inr ⟨hmem, ha⟩

end Text

/-! ### Lists of keys -/

/-- Lists spell a key exactly if a piece between commas is not blank. -/
theorem KeySet.isEmpty_ofTokens_eq_false_iff_piece {lists : List String} :
    (KeySet.ofTokens lists).isEmpty = false ↔
      ∃ list ∈ lists, ∃ piece ∈ Text.commaPieces list, Text.isBlank piece = false := by
  rw [KeySet.isEmpty, List.isEmpty_eq_false_iff_exists_mem]
  constructor
  · rintro ⟨key, hkey⟩
    rw [ofTokens, mem_ofList] at hkey
    obtain ⟨hkey, hne⟩ := List.mem_filter.1 hkey
    obtain ⟨piece, hpiece, rfl⟩ := List.mem_map.1 hkey
    obtain ⟨list, hlist, hpiece⟩ := List.mem_flatMap.1 hpiece
    rw [Text.isEmpty_trim, Bool.not_eq_true'] at hne
    exact ⟨list, hlist, piece, hpiece, hne⟩
  · rintro ⟨list, hlist, piece, hpiece, hkept⟩
    refine ⟨Text.trim piece, ?_⟩
    rw [ofTokens, mem_ofList]
    refine List.mem_filter.2 ⟨List.mem_map_of_mem (List.mem_flatMap.2 ⟨list, hlist, hpiece⟩), ?_⟩
    rw [Text.isEmpty_trim, hkept]
    rfl

/-- A list spells a key unless it is made of commas and white space. -/
theorem KeySet.isEmpty_ofTokens_eq_false_iff {text : String} :
    (KeySet.ofTokens [text]).isEmpty = false ↔
      ∃ c ∈ text.toList, c ≠ ',' ∧ Text.isBlankChar c = false := by
  simp only [isEmpty_ofTokens_eq_false_iff_piece, List.mem_singleton, exists_eq_left,
    Text.commaPieces, List.mem_map, exists_exists_and_eq_and, Text.isBlank_eq_false_iff,
    String.toList_ofList]
  constructor
  · rintro ⟨piece, hpiece, c, hc, hkept⟩
    obtain ⟨hmem, hcomma⟩ := Text.mem_flatten_cutAt_iff.1 (List.mem_flatten_of_mem hpiece hc)
    exact ⟨c, hmem, beq_eq_false_iff_ne.1 hcomma, hkept⟩
  · rintro ⟨c, hmem, hcomma, hkept⟩
    have hsplit : (c == ',') = false := beq_eq_false_iff_ne.2 hcomma
    have hflat : c ∈ (Text.cutAt (· == ',') text.toList).flatten :=
      Text.mem_flatten_cutAt_iff.2 ⟨hmem, hsplit⟩
    obtain ⟨piece, hpiece, hc⟩ := List.mem_flatten.1 hflat
    exact ⟨piece, hpiece, c, hc, hkept⟩

/-- Trimming a list takes no key out of it. -/
theorem KeySet.isEmpty_ofTokens_trim {text : String} :
    (KeySet.ofTokens [Text.trim text]).isEmpty = false ↔
      ∃ c ∈ text.toList, c ≠ ',' ∧ Text.isBlankChar c = false := by
  rw [isEmpty_ofTokens_eq_false_iff]
  constructor
  · rintro ⟨c, hc, hcomma, hkept⟩
    exact ⟨c, (Text.mem_trim_iff hkept).1 hc, hcomma, hkept⟩
  · rintro ⟨c, hc, hcomma, hkept⟩
    exact ⟨c, (Text.mem_trim_iff hkept).2 hc, hcomma, hkept⟩

/-! ### Numerals -/

namespace Numeral

theorem toNat_of_isDigit {c : Char} (h : c.isDigit = true) : 48 ≤ c.toNat ∧ c.toNat ≤ 57 := by
  simpa [Char.isDigit, UInt32.le_iff_toNat_le] using h

theorem isBlankChar_of_isDigit {c : Char} (h : c.isDigit = true) : Text.isBlankChar c = false := by
  have hrange := toNat_of_isDigit h
  rw [Bool.eq_false_iff]
  intro hblank
  simp only [Text.isBlankChar, Bool.or_eq_true, Bool.and_eq_true, decide_eq_true_eq,
    beq_iff_eq] at hblank
  omega

theorem toList_toString (i : Nat) : (toString i).toList = Nat.toDigits 10 i := by
  rw [Nat.toString_eq_repr, Nat.toList_repr]

theorem isDigit_of_mem_toString {i : Nat} {c : Char} (h : c ∈ (toString i).toList) :
    c.isDigit = true := by
  rw [toList_toString] at h
  exact Nat.isDigit_of_mem_toDigits (by decide) (by decide) h

/-- A numeral is trimmed and not blank. -/
theorem proper_toString (i : Nat) : Text.Proper (toString i) := by
  have hkept : ∀ c ∈ (toString i).toList, Text.isBlankChar c = false := fun c hc =>
    isBlankChar_of_isDigit (isDigit_of_mem_toString hc)
  have hne : (toString i).toList ≠ [] := by
    rw [toList_toString]
    exact Nat.toDigits_ne_nil
  constructor
  · exact Text.trim_eq_self (fun h => hkept _ (List.head_mem h)) fun h =>
      hkept _ (List.getLast_mem h)
  · exact Text.isBlank_eq_false_iff.2 ⟨_, List.head_mem hne, hkept _ (List.head_mem hne)⟩

theorem splitSign_of_isDigit {cs : List Char} (h : ∀ c ∈ cs, c.isDigit = true) :
    splitSign cs = (false, cs) := by
  unfold splitSign
  split
  · next cs =>
    have := h '-' List.mem_cons_self
    cases this
  · next cs =>
    have := h '+' List.mem_cons_self
    cases this
  · rfl

theorem digits?_toDigits (n : Nat) : digits? (Nat.toDigits 10 n) = some n := by
  have hall : (Nat.toDigits 10 n).all Char.isDigit = true :=
    List.all_eq_true.2 fun c hc => Nat.isDigit_of_mem_toDigits (by decide) (by decide) hc
  have hne : (Nat.toDigits 10 n).isEmpty = false :=
    List.isEmpty_eq_false_iff.2 Nat.toDigits_ne_nil
  rw [digits?, hall, hne, Nat.ofDigitChars_ten_toDigits]
  rfl

/-- The number of a numeral is the one it was written for, if a word holds it. -/
theorem integer?_toString {i : Nat} (h : i < Nat.pow 2 63) :
    integer? (toString i) = some (i : Int) := by
  have hdigits : digits? (toString i).toList = some i := by
    rw [toList_toString]
    exact digits?_toDigits i
  simp only [integer?, splitSign_of_isDigit fun c hc => isDigit_of_mem_toString hc, hdigits]
  exact if_pos h

end Numeral
end TableTalk
