import TableTalk.Text.Utf8

/-!
# Bytes of a text

A character takes one byte up to four.  The first byte tells how many follow, and the bits that
the bytes carry make up the code point; no character is written with more bytes than it needs,
and none is a surrogate, so what stands at the front of its bytes is the character and nothing
else.

## Main results

* `Utf8.front_encodeChar` — the character at the front of its bytes.
* `Utf8.decode_encode` — **the bytes of a text are read as the text.**
* `Utf8.decodeLossy_encode` — so they are where faults would be replaced.
-/

namespace TableTalk
namespace Utf8

/-! ### Bytes that carry bits of a code point -/

theorem toNat_byte {n : Nat} (h : n < 256) : (UInt8.ofNat n).toNat = n := by
  rw [UInt8.toNat_ofNat']
  exact Nat.mod_eq_of_lt h

/-- The byte that carries the last six bits of a number. -/
theorem payload_trailing (n : Nat) : payload (UInt8.ofNat (n % 64 + 128)) = n % 64 := by
  rw [payload, toNat_byte (by omega)]
  omega

theorem isContinuation_iff {b : UInt8} :
    isContinuation b = true ↔ 0x80 ≤ b.toNat ∧ b.toNat ≤ 0xBF := by
  simp only [isContinuation, Bool.and_eq_true, decide_eq_true_eq, UInt8.le_iff_toNat_le]
  rfl

theorem isContinuation_trailing (n : Nat) :
    isContinuation (UInt8.ofNat (n % 64 + 128)) = true := by
  rw [isContinuation_iff, toNat_byte (by omega)]
  omega

/-- A second byte keeps one bound behind the first byte `first` and the other one behind `last`. -/
theorem isSecond_of_le {first low last high a b : UInt8} (hb : isContinuation b = true)
    (hfirst : a.toNat = first.toNat → low.toNat ≤ b.toNat)
    (hlast : a.toNat = last.toNat → b.toNat ≤ high.toNat) :
    isSecond first low last high a b = true := by
  obtain ⟨hlow, hhigh⟩ := isContinuation_iff.1 hb
  unfold isSecond
  simp only [beq_iff_eq, ← UInt8.toNat_inj, UInt8.le_iff_toNat_le]
  split
  · next ha =>
    have := hfirst ha
    simp only [Bool.and_eq_true, decide_eq_true_eq]
    exact ⟨this, hhigh⟩
  · split
    · next ha =>
      have := hlast ha
      simp only [Bool.and_eq_true, decide_eq_true_eq]
      exact ⟨hlow, this⟩
    · exact hb

theorem secondOfThree_of_le {a b : UInt8} (hb : isContinuation b = true)
    (hfirst : a.toNat = 0xE0 → 0xA0 ≤ b.toNat) (hlast : a.toNat = 0xED → b.toNat ≤ 0x9F) :
    secondOfThree a b = true :=
  isSecond_of_le hb hfirst hlast

theorem secondOfFour_of_le {a b : UInt8} (hb : isContinuation b = true)
    (hfirst : a.toNat = 0xF0 → 0x90 ≤ b.toNat) (hlast : a.toNat = 0xF4 → b.toNat ≤ 0x8F) :
    secondOfFour a b = true :=
  isSecond_of_le hb hfirst hlast

/-! ### Characters by the number of their bytes -/

section

variable {a b c d : UInt8} {rest : List UInt8}

theorem front_one (ha : a.toNat < 0x80) : front a rest = (some (Char.ofNat a.toNat), 0) := by
  unfold front
  simp only [UInt8.lt_iff_toNat_lt, UInt8.reduceToNat]
  rw [if_pos ha]

theorem front_two (ha : 0xC2 ≤ a.toNat ∧ a.toNat ≤ 0xDF) (hb : isContinuation b = true) :
    front a (b :: rest) = (some (Char.ofNat (a.toNat % 32 * 64 + payload b)), 1) := by
  unfold front
  simp only [UInt8.lt_iff_toNat_lt, UInt8.le_iff_toNat_le, UInt8.reduceToNat, Bool.and_eq_true,
    decide_eq_true_eq]
  rw [if_neg (by omega), if_pos ha, if_pos hb]

theorem front_three (ha : 0xE0 ≤ a.toNat ∧ a.toNat ≤ 0xEF) (hb : secondOfThree a b = true)
    (hc : isContinuation c = true) :
    front a (b :: c :: rest) =
      (some (Char.ofNat ((a.toNat % 16 * 64 + payload b) * 64 + payload c)), 2) := by
  unfold front
  simp only [UInt8.lt_iff_toNat_lt, UInt8.le_iff_toNat_le, UInt8.reduceToNat, Bool.and_eq_true,
    decide_eq_true_eq]
  rw [if_neg (by omega), if_neg (by omega), if_pos ha]
  simp only [hb, hc, Bool.not_true, Bool.false_eq_true, if_false]

theorem front_four (ha : 0xF0 ≤ a.toNat ∧ a.toNat ≤ 0xF4) (hb : secondOfFour a b = true)
    (hc : isContinuation c = true) (hd : isContinuation d = true) :
    front a (b :: c :: d :: rest) =
      (some (Char.ofNat
        (((a.toNat % 8 * 64 + payload b) * 64 + payload c) * 64 + payload d)), 3) := by
  unfold front
  simp only [UInt8.lt_iff_toNat_lt, UInt8.le_iff_toNat_le, UInt8.reduceToNat, Bool.and_eq_true,
    decide_eq_true_eq]
  rw [if_neg (by omega), if_neg (by omega), if_neg (by omega), if_pos ha]
  simp only [hb, hc, hd, Bool.not_true, Bool.false_eq_true, if_false]

end

/-- At the front of the bytes of a character stands the character, and all of its bytes belong
to it. -/
theorem front_encodeChar (c : Char) : ∃ a tail, String.utf8EncodeChar c = a :: tail ∧
    ∀ rest, front a (tail ++ rest) = (some c, tail.length) := by
  have hvalid : c.toNat < 0xD800 ∨ 0xDFFF < c.toNat ∧ c.toNat < 0x110000 := c.valid
  have hchar : ∀ n, n = c.toNat → some (Char.ofNat n) = some c := by
    rintro _ rfl
    rw [Char.ofNat_toNat]
  have htoNat : c.val.toNat = c.toNat := rfl
  unfold String.utf8EncodeChar
  rw [htoNat]
  -- A byte carries so many bits that the others begin where it ends.
  generalize c.toNat = n at hvalid hchar
  dsimp only
  split
  · next hone =>
    have ha : (UInt8.ofNat n).toNat = n := toNat_byte (by omega)
    refine ⟨_, _, rfl, ?_⟩
    intro rest
    rw [List.nil_append, front_one (by omega), hchar _ ha]
    rfl
  · next hone =>
    split
    · next htwo =>
      have ha : (UInt8.ofNat (n / 64 % 32 + 192)).toNat = n / 64 + 192 := by
        rw [toNat_byte (by omega)]
        omega
      refine ⟨_, _, rfl, ?_⟩
      intro rest
      rw [List.singleton_append, front_two (by omega) (isContinuation_trailing n),
        payload_trailing, hchar _ (by omega)]
      rfl
    · next htwo =>
      split
      · next hthree =>
        have ha : (UInt8.ofNat (n / 4096 % 16 + 224)).toNat = n / 4096 + 224 := by
          rw [toNat_byte (by omega)]
          omega
        have hb : (UInt8.ofNat (n / 64 % 64 + 128)).toNat = n / 64 % 64 + 128 :=
          toNat_byte (by omega)
        have hsecond := secondOfThree_of_le (a := UInt8.ofNat (n / 4096 % 16 + 224))
          (isContinuation_trailing (n / 64)) (by omega) (by omega)
        refine ⟨_, _, rfl, ?_⟩
        intro rest
        rw [List.cons_append, List.singleton_append,
          front_three (by omega) hsecond (isContinuation_trailing n),
          payload_trailing, payload_trailing, hchar _ (by omega)]
        rfl
      · next hthree =>
        have ha : (UInt8.ofNat (n / 262144 % 8 + 240)).toNat = n / 262144 + 240 := by
          rw [toNat_byte (by omega)]
          omega
        have hb : (UInt8.ofNat (n / 4096 % 64 + 128)).toNat = n / 4096 % 64 + 128 :=
          toNat_byte (by omega)
        have hsecond := secondOfFour_of_le (a := UInt8.ofNat (n / 262144 % 8 + 240))
          (isContinuation_trailing (n / 4096)) (by omega) (by omega)
        refine ⟨_, _, rfl, ?_⟩
        intro rest
        rw [List.cons_append, List.cons_append, List.singleton_append,
          front_four (by omega) hsecond (isContinuation_trailing (n / 64))
            (isContinuation_trailing n),
          payload_trailing, payload_trailing, payload_trailing, hchar _ (by omega)]
        rfl

/-! ### Texts -/

theorem decodeFrom_encodeChar (start : Nat) (c : Char) (rest : List UInt8) :
    decodeFrom start (String.utf8EncodeChar c ++ rest) =
      (decodeFrom (start + (String.utf8EncodeChar c).length) rest).map (c :: ·) := by
  obtain ⟨a, tail, hbytes, hfront⟩ := front_encodeChar c
  rw [hbytes, List.cons_append, decodeFrom, hfront rest]
  simp only [List.drop_left, List.length_cons, Nat.add_assoc]

theorem decodeFrom_flatMap (start : Nat) (cs : List Char) :
    decodeFrom start (cs.flatMap String.utf8EncodeChar) = .ok cs := by
  induction cs generalizing start with
  | nil => rw [List.flatMap_nil, decodeFrom]
  | cons c cs ih =>
    rw [List.flatMap_cons, decodeFrom_encodeChar, ih]
    rfl

/-- **The bytes of a text are read as the text.** -/
theorem decode_encode (s : String) : decode (encode s) = .ok s := by
  rw [decode, encode, decodeFrom_flatMap]
  exact congrArg Except.ok String.ofList_toList

theorem decodeLossyChars_flatMap (cs : List Char) :
    decodeLossyChars (cs.flatMap String.utf8EncodeChar) = cs := by
  induction cs with
  | nil => rw [List.flatMap_nil, decodeLossyChars]
  | cons c cs ih =>
    obtain ⟨a, tail, hbytes, hfront⟩ := front_encodeChar c
    rw [List.flatMap_cons, hbytes, List.cons_append, decodeLossyChars, hfront]
    simp only [List.drop_left, ih, Option.getD_some]

theorem decodeLossy_encode (s : String) : decodeLossy (encode s) = s := by
  rw [decodeLossy, encode, decodeLossyChars_flatMap]
  exact String.ofList_toList

/-! ### Single bytes -/

/-- A byte below `80` is the whole of a character. -/
theorem encode_singleton {b : UInt8} (h : b < 0x80) :
    encode (String.singleton (Char.ofNat b.toNat)) = [b] := by
  have hlt : b.toNat < 0x80 := UInt8.lt_iff_toNat_lt.1 h
  have hvalid : Nat.isValidChar b.toNat := .inl (by omega)
  have hval : (Char.ofNat b.toNat).val.toNat = b.toNat := by
    rw [Char.ofNat, dif_pos hvalid]
    rfl
  rw [encode, String.toList_singleton, List.flatMap_singleton, String.utf8EncodeChar]
  simp only [hval]
  rw [if_pos (by omega), UInt8.ofNat_toNat]

/-- A byte below `80` occurs in no character but its own. -/
theorem eq_of_mem_encodeChar {b : UInt8} (h : b < 0x80) {c : Char}
    (hmem : b ∈ String.utf8EncodeChar c) : c = Char.ofNat b.toNat := by
  have hlt : b.toNat < 0x80 := UInt8.lt_iff_toNat_lt.1 h
  have hlarge : ∀ n, 0x80 ≤ n % 256 → b ≠ UInt8.ofNat n := by
    rintro n hn rfl
    rw [UInt8.toNat_ofNat'] at hlt
    omega
  rw [String.utf8EncodeChar] at hmem
  split at hmem
  · next hone =>
    rw [List.mem_singleton.1 hmem, toNat_byte (by omega)]
    exact (Char.ofNat_toNat c).symm
  · -- The first byte of several carries at least `C0`, and each of the others at least `80`.
    exfalso
    split at hmem
    · simp only [List.mem_cons, List.not_mem_nil, or_false] at hmem
      rcases hmem with h | h <;> exact hlarge _ (by omega) h
    · split at hmem
      · simp only [List.mem_cons, List.not_mem_nil, or_false] at hmem
        rcases hmem with h | h | h <;> exact hlarge _ (by omega) h
      · simp only [List.mem_cons, List.not_mem_nil, or_false] at hmem
        rcases hmem with h | h | h | h <;> exact hlarge _ (by omega) h

end Utf8
end TableTalk
