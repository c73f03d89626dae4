import TableTalk.Dialogue.Answer
import TableTalk.Proofs.Tabulating

/-!
# What is left at the ends of a cell

A cell is kept without the white space around it and then without the marks around it, each of
them removed once.  So there is never a mark at the end of a cell.  White space is another matter:
if it stands behind marks, it is uncovered when they are removed, and stays.  A text is frayed if
this happens at its front, and the other end of a text is the front of the reversed text.

Answers and keys are trimmed whenever they are read, so only a cell that is equal to its own
trimmed text can be named by one.

## Main definitions

* `Text.Frayed` — a text at whose front removing marks uncovers white space.
* `Delimited.Stripped` — what is left of a field that is kept as a cell.
* `Delimited.keptFields` — the records that are kept, with their fields as they were.

## Main results

* `Text.stripWhile_of_margins`, `Text.stripWhile_reverse` — stripping leaves what stands between
  two margins, seen from either end.
* `Text.head_blank_iff_frayed` — white space is left exactly at a frayed end.
* `Delimited.stripped_cellText` — what is left of a field.
* `Delimited.stripped_of_read` — **a loaded cell is equal to its own trimmed text exactly if no end
  of its field was frayed.**
-/

namespace TableTalk
namespace Text

/-! ### Margins -/

section

variable {α : Type} {p : α → Bool}

/-- What is stripped off a list are two margins. -/
theorem exists_margins (p : α → Bool) (as : List α) :
    ∃ front back, as = front ++ stripWhile p as ++ back ∧ (∀ a ∈ front, p a = true) ∧
      ∀ a ∈ back, p a = true := by
  refine ⟨as.takeWhile p, (as.dropWhile p).rtakeWhile p, ?_, ?_, ?_⟩
  · rw [stripWhile_eq, List.append_assoc, List.rdropWhile_append_rtakeWhile,
      List.takeWhile_append_dropWhile]
  · exact fun a ha => List.mem_takeWhile_imp ha
  · exact fun a ha => List.mem_rtakeWhile_imp ha

/-- Behind the last element that is wanted there is a margin. -/
theorem exists_back_margin {as : List α} (h : ∃ a ∈ as, p a = false) :
    ∃ inner back, as = inner ++ back ∧ (∀ a ∈ back, p a = true) ∧
      ∃ hne : inner ≠ [], p (inner.getLast hne) = false := by
  have hinner : as.rdropWhile p ≠ [] := by
    rw [ne_eq, List.rdropWhile_eq_nil_iff]
    intro hall
    obtain ⟨a, ha, hkept⟩ := h
    rw [hall a ha] at hkept
    cases hkept
  refine ⟨_, _, List.rdropWhile_append_rtakeWhile.symm, ?_, hinner, ?_⟩
  · exact fun a ha => List.mem_rtakeWhile_imp ha
  · exact Bool.eq_false_iff.2 (List.rdropWhile_last_not _ _ hinner)

/-- Removal from behind does not reach past an element that is wanted. -/
theorem exists_rdropWhile_eq_cons {a : α} (h : p a = false) (as : List α) :
    ∃ rest, (a :: as).rdropWhile p = a :: rest := by
  obtain ⟨tail, htail⟩ := List.rdropWhile_prefix p (a :: as)
  cases hkept : (a :: as).rdropWhile p with
  | nil =>
    have ha := List.rdropWhile_eq_nil_iff.1 hkept a List.mem_cons_self
    rw [h] at ha
    cases ha
  | cons b rest =>
    rw [hkept, List.cons_append] at htail
    exact ⟨rest, by rw [(List.cons.inj htail).1]⟩

/-- What stands between two margins is left, if nothing at its ends is unwanted. -/
theorem stripWhile_of_margins {front middle back : List α} (hfront : ∀ a ∈ front, p a = true)
    (hback : ∀ a ∈ back, p a = true) (hhead : ∀ h : middle ≠ [], p (middle.head h) = false)
    (hlast : ∀ h : middle ≠ [], p (middle.getLast h) = false) :
    stripWhile p (front ++ middle ++ back) = middle := by
  rw [stripWhile_append _ hback, stripWhile_eq, List.dropWhile_append_of_pos hfront,
    ← stripWhile_eq]
  exact stripWhile_eq_self hhead hlast

/-- Both ends are stripped alike. -/
theorem stripWhile_reverse (p : α → Bool) (as : List α) :
    stripWhile p as.reverse = (stripWhile p as).reverse := by
  obtain ⟨front, back, heq, hfront, hback⟩ := exists_margins p as
  have hreverse : as.reverse = back.reverse ++ (stripWhile p as).reverse ++ front.reverse := by
    conv_lhs => rw [heq]
    simp
  rw [hreverse]
  refine stripWhile_of_margins (by simpa using hback) (by simpa using hfront) ?_ ?_
  · intro hne
    rw [List.head_reverse]
    exact getLast_stripWhile (by simpa using hne)
  · intro hne
    rw [List.getLast_reverse]
    exact head_stripWhile (by simpa using hne)

theorem of_mem_head?_stripWhile {as : List α} {a : α} (h : a ∈ (stripWhile p as).head?) :
    p a = false := by
  have hne : stripWhile p as ≠ [] := by
    intro hnil
    rw [hnil] at h
    cases h
  rw [List.head?_eq_some_head hne, Option.mem_some_iff] at h
  exact h ▸ head_stripWhile hne

theorem of_mem_getLast?_stripWhile {as : List α} {a : α} (h : a ∈ (stripWhile p as).getLast?) :
    p a = false := by
  rw [← List.head?_reverse, ← stripWhile_reverse] at h
  exact of_mem_head?_stripWhile h

/-- A list is left as it is exactly if nothing at its ends is unwanted. -/
theorem stripWhile_eq_self_iff {as : List α} : stripWhile p as = as ↔
    (∀ a ∈ as.head?, p a = false) ∧ ∀ a ∈ as.getLast?, p a = false := by
  constructor
  · intro h
    constructor
    · intro a ha
      exact of_mem_head?_stripWhile (h.symm ▸ ha)
    · intro a ha
      exact of_mem_getLast?_stripWhile (h.symm ▸ ha)
  · rintro ⟨hhead, hlast⟩
    exact stripWhile_eq_self (fun hne => hhead _ (List.head?_eq_some_head hne)) fun hne =>
      hlast _ (List.getLast?_eq_some_getLast hne)

end

/-! ### White space behind marks -/

/-- A text at whose front removing marks uncovers white space: behind white space, if any, and at
least one mark there is white space again, and something else behind it. -/
def Frayed (cs : List Char) : Prop :=
  ∃ margin marks b rest, cs = margin ++ marks ++ b :: rest ∧
    (∀ c ∈ margin, isBlankChar c = true) ∧ marks ≠ [] ∧ (∀ c ∈ marks, c = byteOrderMark) ∧
    isBlankChar b = true ∧ ∃ c ∈ rest, isBlankChar c = false

theorem isBlankChar_byteOrderMark : isBlankChar byteOrderMark = false := by decide

theorem ne_byteOrderMark_of_isBlankChar {c : Char} (h : isBlankChar c = true) :
    (c == byteOrderMark) = false := by
  rw [beq_eq_false_iff_ne]
  rintro rfl
  rw [isBlankChar_byteOrderMark] at h
  cases h

/-- The characters that are left of a text that is trimmed and then stripped of marks. -/
def strippedChars (cs : List Char) : List Char :=
  stripWhile (· == byteOrderMark) (stripWhile isBlankChar cs)

theorem strippedChars_reverse (cs : List Char) :
    strippedChars cs.reverse = (strippedChars cs).reverse := by
  rw [strippedChars, stripWhile_reverse, stripWhile_reverse, strippedChars]

theorem frayed_of_head_blank {cs rest : List Char} {b : Char} (h : strippedChars cs = b :: rest)
    (hb : isBlankChar b = true) : Frayed cs := by
  obtain ⟨margin, back, hcs, hmargin, -⟩ := exists_margins isBlankChar cs
  obtain ⟨marks, marks', htrim, hmarks, -⟩ :=
    exists_margins (· == byteOrderMark) (stripWhile isBlankChar cs)
  rw [← strippedChars, h] at htrim
  refine ⟨margin, marks, b, rest ++ marks' ++ back, ?_, hmargin, ?_, ?_, hb, ?_⟩
  · rw [hcs, htrim]
    simp
  · -- Trimming leaves no white space at the front, so marks stand in front of it.
    rintro rfl
    have hhead : b ∈ (stripWhile isBlankChar cs).head? := by
      rw [htrim]
      rfl
    rw [of_mem_head?_stripWhile hhead] at hb
    cases hb
  · simpa using hmarks
  · -- Nor does it leave any at the end, so something else stands behind it.
    by_cases hrest : rest ++ marks' = []
    · have hlast : b ∈ (stripWhile isBlankChar cs).getLast? := by
        rw [htrim, List.append_assoc, List.cons_append, hrest, List.getLast?_concat]
        rfl
      rw [of_mem_getLast?_stripWhile hlast] at hb
      cases hb
    · have hlast : (rest ++ marks').getLast hrest ∈ (stripWhile isBlankChar cs).getLast? := by
        rw [htrim, List.append_assoc, List.cons_append, ← List.singleton_append,
          ← List.append_assoc, List.getLast?_append_of_ne_nil _ hrest,
          List.getLast?_eq_some_getLast hrest]
        rfl
      exact ⟨_, List.mem_append_left back (List.getLast_mem hrest),
        of_mem_getLast?_stripWhile hlast⟩

theorem Frayed.exists_eq_cons {cs : List Char} (h : Frayed cs) :
    ∃ b rest, strippedChars cs = b :: rest ∧ isBlankChar b = true := by
  obtain ⟨margin, marks, b, rest, rfl, hmargin, hne, hmarks, hb, hwritten⟩ := h
  -- Trimming from behind stops at the last character of `inner`.
  obtain ⟨inner, back, hrest, hback, hinner, hlast⟩ := exists_back_margin hwritten
  have htrim : stripWhile isBlankChar (margin ++ marks ++ b :: rest) = marks ++ b :: inner := by
    have hcs : margin ++ marks ++ b :: rest = margin ++ (marks ++ b :: inner) ++ back := by
      rw [hrest]
      simp
    rw [hcs]
    refine stripWhile_of_margins hmargin hback ?_ ?_
    · intro _
      rw [List.head_append_of_ne_nil hne, hmarks _ (List.head_mem hne), isBlankChar_byteOrderMark]
    · intro _
      rw [List.getLast_append_of_ne_nil _ (List.cons_ne_nil b inner), List.getLast_cons hinner,
        hlast]
  -- Marks are removed up to `b`, which is none.
  have hmark := ne_byteOrderMark_of_isBlankChar hb
  have hstrip : strippedChars (margin ++ marks ++ b :: rest) =
      (b :: inner).rdropWhile (· == byteOrderMark) := by
    rw [strippedChars, htrim, stripWhile_eq, List.dropWhile_append_of_pos (by simpa using hmarks),
      List.dropWhile_cons_of_neg (by simpa using hmark)]
  obtain ⟨rest', hfront⟩ := exists_rdropWhile_eq_cons (p := (· == byteOrderMark)) hmark inner
  exact ⟨b, rest', hstrip.trans hfront, hb⟩

/-- White space is left exactly at a frayed front. -/
theorem head_blank_iff_frayed (cs : List Char) :
    (∃ b ∈ (strippedChars cs).head?, isBlankChar b = true) ↔ Frayed cs := by
  constructor
  · rintro ⟨b, hhead, hb⟩
    obtain ⟨rest, heq⟩ := List.head?_eq_some_iff.1 hhead
    exact frayed_of_head_blank heq hb
  · intro h
    obtain ⟨b, rest, heq, hb⟩ := h.exists_eq_cons
    rw [heq]
    exact ⟨b, rfl, hb⟩

/-- White space is left at the end exactly if it is frayed. -/
theorem getLast_blank_iff_frayed (cs : List Char) :
    (∃ b ∈ (strippedChars cs).getLast?, isBlankChar b = true) ↔ Frayed cs.reverse := by
  rw [← head_blank_iff_frayed, strippedChars_reverse, List.head?_reverse]

/-- A text is equal to its own trimmed text exactly if there is no white space at its ends. -/
theorem trim_eq_self_iff {s : String} : trim s = s ↔
    (¬∃ c ∈ s.toList.head?, isBlankChar c = true) ∧
      ¬∃ c ∈ s.toList.getLast?, isBlankChar c = true := by
  rw [← String.toList_inj, toList_trim, stripWhile_eq_self_iff]
  simp only [not_exists, not_and, Bool.not_eq_true]

end Text

/-! ### Texts that can be named -/

/-- What an answer comes to is proper, and any proper text can be answered. -/
theorem exists_freeText_eq_iff {s : String} :
    (∃ answer, freeText answer = .ok s) ↔ Text.Proper s := by
  constructor
  · rintro ⟨answer, h⟩
    simp only [freeText] at h
    split at h
    · cases h
    · next hne =>
      cases h
      exact Text.proper_trim (Bool.eq_false_iff.2 hne)
  · intro h
    refine ⟨s, ?_⟩
    simp [freeText, h.trim_eq, h.ne_empty]

/-- A key that is listed is proper, and any proper text without a comma can be listed. -/
theorem KeySet.exists_mem_ofTokens_iff {s : String} :
    (∃ lists, s ∈ (KeySet.ofTokens lists).keys) ↔ Text.Proper s ∧ ',' ∉ s.toList := by
  constructor
  · rintro ⟨lists, h⟩
    exact KeySet.proper_of_mem_ofTokens h
  · intro h
    have hkeys : (KeySet.ofList [s]).keys = [s] := rfl
    refine ⟨[",".intercalate (KeySet.ofList [s]).keys], ?_⟩
    rw [KeySet.ofTokens_intercalate (by simp [hkeys]) (by simpa [hkeys] using h), hkeys]
    exact List.mem_singleton_self s

namespace Delimited

variable {o : Options} {rs : List (List String)}

/-! ### Cells and the fields that they come from -/

/-- What is left of a field that is kept as a cell where cells are trimmed. -/
structure Stripped (raw content : String) : Prop where
  /-- There is no mark at the front. -/
  head_ne : content.toList.head? ≠ some Text.byteOrderMark
  /-- There is no mark at the end. -/
  last_ne : content.toList.getLast? ≠ some Text.byteOrderMark
  /-- White space is left at the front exactly if the field is frayed there. -/
  head_blank : (∃ c ∈ content.toList.head?, Text.isBlankChar c = true) ↔ Text.Frayed raw.toList
  /-- White space is left at the end exactly if the field is frayed there. -/
  last_blank : (∃ c ∈ content.toList.getLast?, Text.isBlankChar c = true) ↔
    Text.Frayed raw.toList.reverse
  /-- The cell is equal to its own trimmed text exactly if neither end of the field is frayed. -/
  trim_eq_iff : Text.trim content = content ↔
    ¬Text.Frayed raw.toList ∧ ¬Text.Frayed raw.toList.reverse
  /-- An answer can come to the cell exactly if it is not empty and equal to its trimmed text. -/
  answer_iff : (∃ answer, freeText answer = .ok content) ↔
    content ≠ "" ∧ Text.trim content = content
  /-- A key can be equal to the cell only under the same conditions. -/
  key_iff : (∃ lists, content ∈ (KeySet.ofTokens lists).keys) ↔
    content ≠ "" ∧ Text.trim content = content ∧ ',' ∉ content.toList

theorem proper_iff_ne_empty {s : String} : Text.Proper s ↔ s ≠ "" ∧ Text.trim s = s := by
  constructor
  · exact fun h => ⟨h.ne_empty, h.trim_eq⟩
  · rintro ⟨hne, htrim⟩
    rw [← htrim]
    exact Text.proper_trim (by simpa [htrim] using hne)

theorem toList_cellText (htrim : o.trim = true) (raw : String) :
    (cellText o raw).toList = Text.strippedChars raw.toList := by
  rw [cellText, if_pos htrim, Text.stripMarks, String.toList_ofList, Text.toList_trim,
    Text.strippedChars]

/-- What is left of a field. -/
theorem stripped_cellText (htrim : o.trim = true) (raw : String) :
    Stripped raw (cellText o raw) := by
  have hchars := toList_cellText htrim raw
  have hhead := Text.head_blank_iff_frayed raw.toList
  have hlast := Text.getLast_blank_iff_frayed raw.toList
  rw [← hchars] at hhead hlast
  constructor
  · intro h
    rw [hchars] at h
    simpa using Text.of_mem_head?_stripWhile h
  · intro h
    rw [hchars] at h
    simpa using Text.of_mem_getLast?_stripWhile h
  · exact hhead
  · exact hlast
  · rw [Text.trim_eq_self_iff, hhead, hlast]
  · rw [exists_freeText_eq_iff, proper_iff_ne_empty]
  · rw [KeySet.exists_mem_ofTokens_iff, proper_iff_ne_empty, and_assoc]

/-- The records that are kept, with their fields as they were. -/
def keptFields (o : Options) (rs : List (List String)) : List (List String) :=
  rs.filter fun r => !(r.map (cellText o)).all Text.isBlank

theorem map_keptFields (o : Options) (rs : List (List String)) :
    (keptFields o rs).map (fun r => r.map (cellText o)) = keptRecords o rs := by
  rw [keptFields, keptRecords, List.filter_map]
  rfl

theorem getD_map_cellText (o : Options) (record : List String) (i : Nat) :
    ((record.map (cellText o))[i]?).getD "" = cellText o ((record[i]?).getD "") := by
  rw [List.getElem?_map]
  cases record[i]? with
  | none => exact (cellText_empty o).symm
  | some raw => rfl

/-- **A loaded cell never has a mark at its ends, and it is equal to its own trimmed text exactly
if no end of its field was frayed.**  Only then can an answer or a key be equal to it. -/
theorem stripped_of_read {bytes : List UInt8} {t : Table} (htrim : o.trim = true)
    (h : read o bytes = .ok t) :
    ∃ rs first others, texts (records o.delimiter bytes) = .ok rs ∧
      keptFields o rs = first :: others ∧ t.height = others.length ∧
      ∀ (i : Nat) (c : Column) (r : Nat) (record : List String), t.columns[i]? = some c →
        others[r]? = some record → ∃ content, c.cells[r]? = some (Cell.mk content r) ∧
          Stripped ((record[i]?).getD "") content := by
  obtain ⟨rs, htexts, htable⟩ := read_eq_ok_iff.1 h
  obtain ⟨first, others, hkept, hnodup, rfl⟩ := tableOfRecords_eq_ok_iff.1 htable
  have ht := tabulated_loaded o (ne_nil_of_keptRecords hkept) others hnodup
  have hfields := map_keptFields o rs
  rw [hkept, List.map_eq_cons_iff] at hfields
  obtain ⟨rawFirst, rawOthers, hfields, rfl, rfl⟩ := hfields
  refine ⟨rs, rawFirst, rawOthers, htexts, hfields, ?_, ?_⟩
  · rw [ht.height, List.length_map]
  · intro i c r record hc hrecord
    obtain ⟨hlt, -⟩ := List.getElem?_eq_some_iff.1 hc
    rw [← Table.width, ht.width] at hlt
    obtain ⟨c', hc', -, -, -, hcells⟩ := ht.column i _ (List.getElem?_eq_getElem hlt)
    rw [hc, Option.some.injEq] at hc'
    subst hc'
    have hcell := hcells r (record.map (cellText o)) (by rw [List.getElem?_map, hrecord]; rfl)
    rw [getD_map_cellText] at hcell
    exact ⟨_, hcell, stripped_cellText htrim _⟩

/-- White space and marks in turns: a field that is frayed at its front, one that is not, one that
is frayed at its end, and one that is missing. -/
def nested : String := "A,B\n\ufeff x, \ufeff\ufeffy\ufeff \nz \ufeff\n"

theorem stripped_of_read_nested :
    ∃ t c d, read {} (Utf8.encode nested) = .ok t ∧ t.columns = [c, d] ∧ t.height = 2 ∧
      (c.contents = [" x", "z "] ∧ Text.Frayed "\ufeff x".toList ∧
        ¬∃ answer, freeText answer = .ok " x") ∧
      d.contents = ["y", ""] ∧ ¬Text.Frayed " \ufeff\ufeffy\ufeff ".toList := by
  let c : Column := .ofValues ⟨"A", .text, 0⟩ [" x", "z "]
  let d : Column := .ofValues ⟨"B", .text, 1⟩ ["y", ""]
  have hread : read {} (Utf8.encode nested) = .ok ⟨[c, d]⟩ := by decide +kernel
  have htexts : texts (records 0x2C (Utf8.encode nested)) =
      .ok [["A", "B"], ["\ufeff x", " \ufeff\ufeffy\ufeff "], ["z \ufeff"]] := by decide +kernel
  have hfields : keptFields {} [["A", "B"], ["\ufeff x", " \ufeff\ufeffy\ufeff "], ["z \ufeff"]] =
      ["A", "B"] :: [["\ufeff x", " \ufeff\ufeffy\ufeff "], ["z \ufeff"]] := by decide +kernel
  obtain ⟨rs, first, others, hrs, hkept, hheight, hcells⟩ := stripped_of_read rfl hread
  cases htexts.symm.trans hrs
  cases hfields.symm.trans hkept
  obtain ⟨x, hx, hstripped⟩ := hcells 0 c 0 _ rfl rfl
  obtain ⟨y, hy, hstripped'⟩ := hcells 1 d 0 _ rfl rfl
  cases hx
  cases hy
  refine ⟨_, c, d, hread, rfl, hheight, ⟨rfl, hstripped.head_blank.1 ⟨' ', rfl, rfl⟩, ?_⟩, rfl, ?_⟩
  · rw [hstripped.answer_iff]
    decide
  · exact (hstripped'.trim_eq_iff.1 (by decide)).1

/-- A cell that is loaded with white space at its front, and is not equal to its trimmed text. -/
theorem untrimmed_of_read :
    ({} : Options).trim = true ∧ read {} (Utf8.encode "A\n\ufeff x\n") = .ok (single "A" [" x"]) ∧
      Text.isBlankChar ' ' = true ∧ Text.trim " x" ≠ " x" := by
  decide +kernel

end Delimited
end TableTalk
