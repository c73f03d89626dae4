import Mathlib.Data.List.Basic
import TableTalk.Proofs.Loading

/-!
# What tells the types apart

A truth value, a number and a date are told apart by the first character that belongs neither to
a sign in front nor to the digits behind it.  In a truth value it is a letter, and another one
than the `e` of a number.  Behind the first digits of a number the text ends, or an exponent
follows, or a point.  Behind those of a date there is always a mark, and if the mark is a point
then digits follow, which white space may precede, and another point.  No number has two points.

So no text reads under two of the three types.  The order in which they are tried makes no
difference, and a column has the one type under which its written cells read.

## Main definitions

* `Text.behindDigits` — what follows a sign and the digits at the front of a text.
* `Text.LeadsTo` — a text with a number at its front, and what follows the number.

## Main results

* `Decimal.behindDigits_of_read?`, `Moment.behindDigits_of_read?`,
  `exists_behindDigits_of_readBool?` — what follows the first digits of a number, of a date and
  of a truth value.
* `Value.eq_of_isSome_read?` — a text reads under one type at most.
* `ColumnType.infer_written` — **the type of a column, whatever the order of its cells, and the
  cells that read under it.**
* `ColumnType.infer_unique` — **the order in which types are tried does not count.**
-/

namespace List

/-- What is found in a list does not hang on its order, if only one element passes the test. -/
theorem Perm.find?_eq {α : Type} {p : α → Bool} {l l' : List α} (h : l.Perm l')
    (hone : ∀ a ∈ l, ∀ b ∈ l, p a = true → p b = true → a = b) : l.find? p = l'.find? p := by
  cases hfind : l.find? p with
  | none =>
    refine (find?_eq_none.2 fun a ha => ?_).symm
    exact find?_eq_none.1 hfind a (h.mem_iff.2 ha)
  | some a =>
    have ha := mem_of_find?_eq_some hfind
    cases hfind' : l'.find? p with
    | none => exact absurd (find?_some hfind) (find?_eq_none.1 hfind' a (h.mem_iff.1 ha))
    | some b =>
      have hb := h.mem_iff.2 (mem_of_find?_eq_some hfind')
      rw [hone a ha b hb (find?_some hfind) (find?_some hfind')]

end List

namespace TableTalk

/-- What follows a sign, if there is one, and the digits at the front of a text. -/
def Text.behindDigits (cs : List Char) : List Char :=
  (Numeral.splitSign cs).2.dropWhile Char.isDigit

/-- The text is a number, with a sign in front if need be, and what follows it. -/
inductive Text.LeadsTo : List Char → List Char → Prop
  /-- Digits without a sign. -/
  | digits {ds : List Char} (hne : ds ≠ []) (h : ∀ d ∈ ds, d.isDigit = true) (rest : List Char) :
    LeadsTo (ds ++ rest) rest
  /-- Digits behind a minus sign. -/
  | minus {ds : List Char} (hne : ds ≠ []) (h : ∀ d ∈ ds, d.isDigit = true) (rest : List Char) :
    LeadsTo ('-' :: (ds ++ rest)) rest
  /-- Digits behind a plus sign. -/
  | plus {ds : List Char} (hne : ds ≠ []) (h : ∀ d ∈ ds, d.isDigit = true) (rest : List Char) :
    LeadsTo ('+' :: (ds ++ rest)) rest

/-- The sign and the digits of a number are passed over. -/
theorem Text.LeadsTo.behindDigits_eq {cs rest : List Char} {c : Char} (h : LeadsTo cs (c :: rest))
    (hc : c.isDigit = false) : behindDigits cs = c :: rest := by
  have hpassed : ∀ ds : List Char, (∀ d ∈ ds, d.isDigit = true) →
      (ds ++ c :: rest).dropWhile Char.isDigit = c :: rest := by
    intro ds hdigits
    rw [List.dropWhile_append_of_pos hdigits, List.dropWhile_cons_of_neg (by simp [hc])]
  cases h with
  | @digits ds hne hdigits =>
    obtain ⟨d, ds, rfl⟩ := List.exists_cons_of_ne_nil hne
    have hd := hdigits d List.mem_cons_self
    rw [behindDigits, List.cons_append, Numeral.splitSign]
    · exact hpassed (d :: ds) hdigits
    · rintro _ ⟨⟩
      cases hd
    · rintro _ ⟨⟩
      cases hd
  | minus _ hdigits => exact hpassed _ hdigits
  | plus _ hdigits => exact hpassed _ hdigits

/-! ### Numbers -/

namespace Decimal

theorem head?_of_readExponent? {cs : List Char} {e : Int} (h : readExponent? cs = some e) :
    cs.head? ∈ [none, some 'e', some 'E'] := by
  cases cs with
  | nil => simp
  | cons c cs =>
    rw [readExponent?] at h
    split at h
    · next hc => simpa using hc
    · cases h

/-- Behind the first digits of a number the text ends, or there is an exponent or a point, and
behind the digits that follow the point the text ends or there is an exponent. -/
theorem behindDigits_of_read? {cs : List Char} {d : Decimal} (h : read? cs = some d) :
    (Text.behindDigits cs).head? ∈ [none, some 'e', some 'E'] ∨
      ∃ ds, Text.behindDigits cs = '.' :: ds ∧
        (ds.dropWhile Char.isDigit).head? ∈ [none, some 'e', some 'E'] := by
  unfold Text.behindDigits
  rcases hsplit : Numeral.splitSign cs with ⟨negative, body⟩
  simp only [read?, hsplit, Option.ite_none_left_eq_some] at h
  obtain ⟨e, he, -⟩ := Option.map_eq_some_iff.1 h.2
  have hhead := head?_of_readExponent? he
  split at hhead
  · next ds hds => exact .inr ⟨ds, hds, hhead⟩
  · exact .inl hhead

end Decimal

/-! ### Dates -/

namespace Layout

variable {m m' : Moment} {cs rest : List Char}

/-- A number in a layout is one digit or more. -/
theorem exists_digits_of_readNumber? {width n : Nat} (h : readNumber? width cs = some (n, rest)) :
    ∃ ds, ds ≠ [] ∧ (∀ d ∈ ds, d.isDigit = true) ∧ cs = ds ++ rest := by
  rw [readNumber?] at h
  change (if ((cs.take width).takeWhile Char.isDigit).isEmpty then none else _) = _ at h
  split at h
  · cases h
  · next hne =>
    cases h
    refine ⟨(cs.take width).takeWhile Char.isDigit, by simpa using hne, fun d hd => ?_, ?_⟩
    · exact List.mem_takeWhile_imp hd
    · have hprefix := (List.takeWhile_prefix Char.isDigit).trans (List.take_prefix width cs)
      exact (List.prefix_iff_eq_append.1 hprefix).symm

theorem leadsTo_of_readBounded? {low high n : Nat}
    (h : readBounded? low high cs = some (n, rest)) :
    Text.LeadsTo (cs.dropWhile Text.isBlankChar) rest := by
  rw [readBounded?, Option.filter_eq_some_iff] at h
  obtain ⟨ds, hne, hdigits, heq⟩ := exists_digits_of_readNumber? h.1
  rw [heq]
  exact .digits hne hdigits rest

theorem leadsTo_of_readYear? {n : Int} (h : readYear? cs = some (n, rest)) :
    Text.LeadsTo (cs.dropWhile Text.isBlankChar) rest := by
  rw [readYear?] at h
  split at h
  · next heq =>
    obtain ⟨⟨_, _⟩, hnumber, ⟨⟩⟩ := Option.map_eq_some_iff.1 h
    obtain ⟨ds, hne, hdigits, rfl⟩ := exists_digits_of_readNumber? hnumber
    rw [heq]
    exact .minus hne hdigits rest
  · next heq =>
    obtain ⟨⟨_, _⟩, hnumber, ⟨⟩⟩ := Option.map_eq_some_iff.1 h
    obtain ⟨ds, hne, hdigits, rfl⟩ := exists_digits_of_readNumber? hnumber
    rw [heq]
    exact .plus hne hdigits rest
  · obtain ⟨⟨_, _⟩, hnumber, ⟨⟩⟩ := Option.map_eq_some_iff.1 h
    obtain ⟨ds, hne, hdigits, heq⟩ := exists_digits_of_readNumber? hnumber
    rw [heq]
    exact .digits hne hdigits rest

/-- A year, a month and a day are numbers, and white space may precede them. -/
theorem Piece.leadsTo_of_read? {piece : Piece} (hpiece : piece ∈ [.year, .month, .day])
    (h : piece.read? m cs = some (m', rest)) :
    Text.LeadsTo (cs.dropWhile Text.isBlankChar) rest := by
  simp only [List.mem_cons, List.not_mem_nil, or_false] at hpiece
  rcases hpiece with rfl | rfl | rfl
  · obtain ⟨⟨_, _⟩, hyear, ⟨⟩⟩ := Option.map_eq_some_iff.1 h
    exact leadsTo_of_readYear? hyear
  · obtain ⟨⟨_, _⟩, hmonth, ⟨⟩⟩ := Option.map_eq_some_iff.1 h
    exact leadsTo_of_readBounded? hmonth
  · obtain ⟨⟨_, _⟩, hday, ⟨⟩⟩ := Option.map_eq_some_iff.1 h
    exact leadsTo_of_readBounded? hday

theorem Piece.read?_mark {c : Char} (h : (Piece.mark c).read? m cs = some (m', rest)) :
    m' = m ∧ cs = c :: rest := by
  cases cs with
  | nil => cases h
  | cons d ds =>
    simp only [Piece.read?, Option.ite_none_right_eq_some, Option.some_inj, Prod.mk.injEq,
      beq_iff_eq] at h
    obtain ⟨rfl, rfl, rfl⟩ := h
    exact ⟨rfl, rfl⟩

/-- A number and a mark at the front of a layout. -/
theorem exists_leadsTo_of_readFrom? {piece : Piece} (hpiece : piece ∈ [.year, .month, .day])
    {c : Char} {pieces : Layout} {x : Moment}
    (h : readFrom? m cs (piece :: .mark c :: pieces) = some x) :
    ∃ rest m', Text.LeadsTo (cs.dropWhile Text.isBlankChar) (c :: rest) ∧
      readFrom? m' rest pieces = some x := by
  obtain ⟨⟨m₁, cs₁⟩, hnumber, hbehind⟩ := Option.bind_eq_some_iff.1 h
  obtain ⟨⟨m₂, cs₂⟩, hmark, hpieces⟩ := Option.bind_eq_some_iff.1 hbehind
  have hleads := Piece.leadsTo_of_read? hpiece hnumber
  obtain ⟨rfl, rfl⟩ := Piece.read?_mark hmark
  exact ⟨cs₂, _, hleads, hpieces⟩

end Layout

/-- The layouts: a year and a mark that is no point, a month and one, or a day and a month with a
point behind each of them. -/
theorem Moment.forms_of_layouts : ∀ layout ∈ layouts,
    (∃ piece ∈ [Layout.Piece.year, .month, .day], ∃ c ∈ ['-', '/'], ∃ pieces,
      layout = piece :: .mark c :: pieces) ∨
    ∃ pieces, layout = .day :: .mark '.' :: .month :: .mark '.' :: pieces := by
  simp [layouts, Layout.yearFirst]

/-- A number and a point, white space in front of them aside, does not end behind its first digits,
and no exponent stands there. -/
theorem Text.LeadsTo.head?_notMem {cs rest : List Char}
    (h : LeadsTo (cs.dropWhile isBlankChar) ('.' :: rest)) :
    (cs.dropWhile Char.isDigit).head? ∉ [none, some 'e', some 'E'] := by
  cases cs with
  | nil => cases h.behindDigits_eq rfl
  | cons c cs =>
    cases hblank : isBlankChar c with
    | true =>
      have hc : c.isDigit = false := by
        rw [← Bool.not_eq_true]
        intro hdigit
        rw [Numeral.isBlankChar_of_isDigit hdigit] at hblank
        cases hblank
      rw [List.dropWhile_cons_of_neg (by simp [hc])]
      simp only [List.head?_cons, List.mem_cons, Option.some_inj, List.not_mem_nil, or_false]
      rintro (⟨⟨⟩⟩ | rfl | rfl) <;> cases hblank
    | false =>
      rw [List.dropWhile_cons_of_neg (by simp [hblank])] at h
      generalize c :: cs = cs at h
      cases h with
      | digits _ hdigits =>
        rw [List.dropWhile_append_of_pos hdigits]
        show some '.' ∉ _
        decide
      | minus =>
        show some '-' ∉ _
        decide
      | plus =>
        show some '+' ∉ _
        decide

theorem Text.dropWhile_toList_trim (s : String) :
    (trim s).toList.dropWhile isBlankChar = (trim s).toList := by
  refine List.dropWhile_eq_self_iff.2 fun hlt => ?_
  have hne : (trim s).toList ≠ [] := List.length_pos_iff.1 hlt
  simp only [toList_trim] at hne ⊢
  rw [← List.head_eq_getElem hne, head_stripWhile hne]
  exact Bool.false_ne_true

/-- Behind the first digits of a date there is a mark.  If it is a point, then what follows it does
not end behind its first digits, and no exponent stands there. -/
theorem Moment.behindDigits_of_read? {s : String} {x : Moment} (h : Moment.read? s = some x) :
    (Text.behindDigits (Text.trim s).toList).head? ∈ [some '-', some '/'] ∨
      ∃ cs, Text.behindDigits (Text.trim s).toList = '.' :: cs ∧
        (cs.dropWhile Char.isDigit).head? ∉ [none, some 'e', some 'E'] := by
  obtain ⟨layout, hlayout, hread⟩ := List.exists_of_findSome?_eq_some h
  have htrim := Text.dropWhile_toList_trim s
  rcases forms_of_layouts layout hlayout with ⟨piece, hpiece, c, hc, pieces, rfl⟩ | ⟨pieces, rfl⟩
  · obtain ⟨rest, _, hleads, -⟩ := Layout.exists_leadsTo_of_readFrom? hpiece hread
    rw [htrim] at hleads
    left
    simp only [List.mem_cons, List.not_mem_nil, or_false] at hc
    rcases hc with rfl | rfl
    · rw [hleads.behindDigits_eq rfl]
      exact List.mem_cons_self
    · rw [hleads.behindDigits_eq rfl]
      exact List.mem_cons_of_mem _ List.mem_cons_self
  · obtain ⟨rest, m, hday, hbehind⟩ := Layout.exists_leadsTo_of_readFrom? (by simp) hread
    obtain ⟨_, _, hmonth, -⟩ := Layout.exists_leadsTo_of_readFrom? (by simp) hbehind
    rw [htrim] at hday
    exact .inr ⟨rest, hday.behindDigits_eq rfl, hmonth.head?_notMem⟩

/-! ### Truth values -/

theorem toLower_of_isDigit {c : Char} (h : c.isDigit = true) : c.toLower = c := by
  have hrange := Numeral.toNat_of_isDigit h
  have hupper : ¬(c.val ≥ 'A'.val ∧ c.val ≤ 'Z'.val) := by
    rintro ⟨hlow, -⟩
    have hlow : 65 ≤ c.toNat := UInt32.le_iff_toNat_le.1 hlow
    omega
  exact dif_neg hupper

/-- A text that begins with a letter has neither a sign nor digits at its front. -/
theorem Text.behindDigits_cons {c : Char} {cs : List Char} (hc : c.toLower ∈ ['t', 'f']) :
    behindDigits (c :: cs) = c :: cs := by
  have hdigit : c.isDigit = false := by
    rw [← Bool.not_eq_true]
    intro hdigit
    rw [toLower_of_isDigit hdigit] at hc
    simp only [List.mem_cons, List.not_mem_nil, or_false] at hc
    rcases hc with rfl | rfl <;> cases hdigit
  rw [behindDigits, Numeral.splitSign]
  · exact List.dropWhile_cons_of_neg (by simp [hdigit])
  · rintro _ ⟨⟩
    revert hc
    decide
  · rintro _ ⟨⟩
    revert hc
    decide

/-- A truth value begins with a letter, and not with an exponent. -/
theorem exists_behindDigits_of_readBool? {s : String} {b : Bool} (h : readBool? s = some b) :
    ∃ c cs, Text.behindDigits (Text.trim s).toList = c :: cs ∧ c.toLower ∈ ['t', 'f'] := by
  have hword : ∃ word ∈ ["true", "false"], equalIgnoringCase (Text.trim s) word = true := by
    simp only [readBool?] at h
    split at h
    · next htrue => exact ⟨"true", by simp, htrue⟩
    · split at h
      · next hfalse => exact ⟨"false", by simp, hfalse⟩
      · cases h
  obtain ⟨word, hword, hequal⟩ := hword
  rw [equalIgnoringCase, beq_iff_eq] at hequal
  cases htext : (Text.trim s).toList with
  | nil =>
    rw [htext] at hequal
    simp only [List.mem_cons, List.not_mem_nil, or_false] at hword
    rcases hword with rfl | rfl <;> cases hequal
  | cons c cs =>
    have hletter : c.toLower ∈ ['t', 'f'] := by
      rw [htext, List.map_cons] at hequal
      simp only [List.mem_cons, List.not_mem_nil, or_false] at hword
      rcases hword with rfl | rfl
      · exact List.mem_cons.2 (.inl (List.head_eq_of_cons_eq hequal))
      · exact List.mem_cons.2 (.inr (List.mem_singleton.2 (List.head_eq_of_cons_eq hequal)))
    exact ⟨c, cs, Text.behindDigits_cons hletter, hletter⟩

/-! ### One type for a text -/

variable {s : String}

/-- No date is a number. -/
theorem readNumber?_of_date {m : Moment} (h : Moment.read? s = some m) : readNumber? s = none := by
  rw [Option.eq_none_iff_forall_ne_some]
  intro x hx
  obtain ⟨hx, -⟩ := Option.filter_eq_some_iff.1 hx
  obtain ⟨d, hd, -⟩ := Option.map_eq_some_iff.1 hx
  have hnumber := Decimal.behindDigits_of_read? hd
  have hdate := Moment.behindDigits_of_read? h
  generalize Text.behindDigits (Text.trim s).toList = rest at hnumber hdate
  rcases hdate with hmark | ⟨cs, rfl, hpoint⟩
  · cases rest with
    | nil => simp at hmark
    | cons c cs =>
      simp only [List.head?_cons, List.mem_cons, Option.some_inj, List.not_mem_nil,
        or_false] at hmark
      rcases hmark with rfl | rfl <;> simp at hnumber
  · rcases hnumber with hnumber | ⟨_, ⟨⟩, hnumber⟩
    · simp at hnumber
    · exact hpoint hnumber

/-- No truth value is a number. -/
theorem readNumber?_of_bool {b : Bool} (h : readBool? s = some b) : readNumber? s = none := by
  rw [Option.eq_none_iff_forall_ne_some]
  intro x hx
  obtain ⟨hx, -⟩ := Option.filter_eq_some_iff.1 hx
  obtain ⟨d, hd, -⟩ := Option.map_eq_some_iff.1 hx
  obtain ⟨c, cs, hcs, hletter⟩ := exists_behindDigits_of_readBool? h
  rcases Decimal.behindDigits_of_read? hd with hnumber | ⟨ds, hds, -⟩
  · simp only [hcs, List.head?_cons, List.mem_cons, Option.some_inj, List.not_mem_nil,
      or_false] at hnumber
    rcases hnumber with ⟨⟨⟩⟩ | rfl | rfl <;> revert hletter <;> decide
  · obtain rfl : c = '.' := List.head_eq_of_cons_eq (hcs.symm.trans hds)
    revert hletter
    decide

/-- No truth value is a date. -/
theorem readDate?_of_bool {b : Bool} (h : readBool? s = some b) : Moment.read? s = none := by
  rw [Option.eq_none_iff_forall_ne_some]
  intro m hm
  obtain ⟨c, cs, hcs, hletter⟩ := exists_behindDigits_of_readBool? h
  rcases Moment.behindDigits_of_read? hm with hdate | ⟨ds, hds, -⟩
  · simp only [hcs, List.head?_cons, List.mem_cons, Option.some_inj, List.not_mem_nil,
      or_false] at hdate
    rcases hdate with rfl | rfl <;> revert hletter <;> decide
  · obtain rfl : c = '.' := List.head_eq_of_cons_eq (hcs.symm.trans hds)
    revert hletter
    decide

/-- A text reads under one type at most, free text aside. -/
theorem Value.eq_of_isSome_read? {type type' : ColumnType} (htype : type ≠ .text)
    (htype' : type' ≠ .text) (h : (read? type s).isSome = true)
    (h' : (read? type' s).isSome = true) : type = type' := by
  cases hbool : readBool? s with
  | some b =>
    have hnumber := readNumber?_of_bool hbool
    have hdate := readDate?_of_bool hbool
    cases type <;> cases type' <;> simp_all [read?]
  | none =>
    cases hdate : Moment.read? s with
    | some m =>
      have hnumber := readNumber?_of_date hdate
      cases type <;> cases type' <;> simp_all [read?]
    | none => cases type <;> cases type' <;> simp_all [read?]

/-! ### One type for a column -/

namespace ColumnType

variable {values : List String}

theorem mem_candidates_iff {type : ColumnType} : type ∈ candidates ↔ type ≠ .text := by
  cases type <;> decide

/-- Written texts read under one type at most, free text aside. -/
theorem eq_of_readsWritten (hwritten : ∃ s ∈ values, Text.isBlank s = false)
    {type type' : ColumnType} (htype : type ≠ .text) (htype' : type' ≠ .text)
    (h : type.ReadsWritten values) (h' : type'.ReadsWritten values) : type = type' := by
  obtain ⟨s, hs, hblank⟩ := hwritten
  exact Value.eq_of_isSome_read? htype htype' (h s hs hblank) (h' s hs hblank)

/-- The order in which types are tried does not count. -/
theorem inferFrom_of_perm {types : List ColumnType} (h : types.Perm candidates)
    (values : List String) : inferFrom types false values = infer values := by
  have htypes : ColumnType.text ∉ types := fun hmem =>
    text_notMem_candidates (h.mem_iff.1 hmem)
  rw [inferFrom_eq htypes, infer, inferFrom_eq text_notMem_candidates]
  split
  · rfl
  · next hwritten =>
    have hwritten : ∃ s ∈ values, Text.isBlank s = false := by simpa using hwritten
    rw [h.find?_eq fun type htype type' htype' hreads hreads' => ?_]
    exact eq_of_readsWritten hwritten (fun ht => htypes (ht ▸ htype))
      (fun ht => htypes (ht ▸ htype')) (of_decide_eq_true hreads) (of_decide_eq_true hreads')

/-- The type of a column with a written cell is the one under which its written cells read. -/
theorem infer_eq_iff (hwritten : ∃ s ∈ values, Text.isBlank s = false) {type : ColumnType}
    (htype : type ≠ .text) : infer values = type ↔ type.ReadsWritten values := by
  constructor
  · rintro rfl
    exact readsWritten_infer values
  · intro hreads
    have hsome : ¬∀ s ∈ values, Text.isBlank s = true := by simpa using hwritten
    rw [infer_eq, if_neg hsome]
    cases hfind : candidates.find? fun type => decide (type.ReadsWritten values) with
    | none =>
      have hnone := List.find?_eq_none.1 hfind type (mem_candidates_iff.2 htype)
      exact absurd (decide_eq_true hreads) hnone
    | some type' =>
      have hreads' := List.find?_some hfind
      have htype' := mem_candidates_iff.1 (List.mem_of_find?_eq_some hfind)
      exact eq_of_readsWritten hwritten htype' htype (of_decide_eq_true hreads') hreads

theorem infer_eq_ite (values : List String) : infer values =
    if ∀ s ∈ values, Text.isBlank s = true then .text
    else if ReadsWritten .bool values then .bool
    else if ReadsWritten .number values then .number
    else if ReadsWritten .date values then .date
    else .text := by
  rw [infer_eq]
  split
  · rfl
  · simp only [candidates, List.find?_cons, List.find?_nil]
    split_ifs <;> simp [*]

/-- Neither the order of the cells nor blank cells among them count. -/
theorem infer_of_perm {blanks values' : List String} (hblanks : ∀ s ∈ blanks, Text.isBlank s = true)
    (h : values'.Perm (values ++ blanks)) : infer values' = infer values := by
  refine infer_congr fun s hwritten => ?_
  rw [h.mem_iff, List.mem_append]
  refine or_iff_left fun hs => ?_
  rw [hblanks s hs] at hwritten
  cases hwritten

/-- The type of a column that was loaded is inferred of the cells that it holds. -/
theorem type_of_read {o : Delimited.Options} {bytes : List UInt8} {t : Table}
    (hinfer : o.infer = true) (hread : Delimited.read o bytes = .ok t) {c : Column}
    (hc : c ∈ t.columns) : c.header.type = infer c.contents := by
  obtain ⟨names, rows, rfl, -⟩ := Delimited.exists_loaded_of_read hread
  obtain ⟨name, i, -, rfl⟩ := Delimited.mem_columns_loaded.1 hc
  rw [Delimited.contents_columnOfRows]
  exact if_pos hinfer

/-- **The type of a column, and the cells that read under it.**  Where a cell is written, the type
is the first of truth value, number and date under which all written cells read, or free text.
Neither the order of the cells nor blank cells among them count.  The type of a column that was
loaded is the type of the cells that it holds, and unless it is free text, the blank cells and no
others do not read under it. -/
theorem infer_written :
    (∀ values : List String, infer values =
      if ∀ s ∈ values, Text.isBlank s = true then .text
      else if ReadsWritten .bool values then .bool
      else if ReadsWritten .number values then .number
      else if ReadsWritten .date values then .date
      else .text) ∧
    (∀ values blanks values' : List String, (∀ s ∈ blanks, Text.isBlank s = true) →
      values'.Perm (values ++ blanks) → infer values' = infer values) ∧
    ∀ (o : Delimited.Options) (bytes : List UInt8) (t : Table), o.infer = true →
      Delimited.read o bytes = .ok t → ∀ c ∈ t.columns, c.header.type = infer c.contents ∧
        (c.header.type ≠ .text → ∀ content ∈ c.contents,
          (Value.read? c.header.type content = none ↔ Text.isBlank content = true)) := by
  refine ⟨infer_eq_ite, fun values blanks values' => infer_of_perm, ?_⟩
  intro o bytes t hinfer hread c hc
  have htype := type_of_read hinfer hread hc
  refine ⟨htype, fun hne content hcontent => ⟨fun hnone => ?_, Value.read?_of_isBlank hne⟩⟩
  by_contra hwritten
  have hreads := readsWritten_infer c.contents content hcontent (Bool.not_eq_true _ ▸ hwritten)
  rw [← htype, hnone] at hreads
  cases hreads

/-- The rank that is white space and the day that is missing are the cells that do not read. -/
theorem infer_written_ranks :
    let bytes := Utf8.encode "Rank,Day\n4\n \t,2024-01-15\n"
    let t : Table := ⟨[.ofValues ⟨"Rank", .number, 0⟩ ["4", ""],
      .ofValues ⟨"Day", .date, 1⟩ ["", "2024-01-15"]]⟩
    Delimited.read {} bytes = .ok t ∧ ∀ c ∈ t.columns, c.header.type = infer c.contents ∧
      c.header.type ≠ .text ∧ ∀ content ∈ c.contents,
        (Value.read? c.header.type content = none ↔ Text.isBlank content = true) := by
  intro bytes t
  have hread : Delimited.read {} bytes = .ok t := by decide +kernel
  have htypes : ∀ c ∈ t.columns, c.header.type ≠ .text := by decide
  obtain ⟨-, -, hloaded⟩ := infer_written
  refine ⟨hread, fun c hc => ?_⟩
  obtain ⟨htype, hcells⟩ := hloaded {} bytes t rfl hread c hc
  exact ⟨htype, htypes c hc, hcells (htypes c hc)⟩

/-- **The order in which types are tried does not count.**  A text is at most one of a truth value,
a number and a date.  So whatever the order in which the types are tried, the same is inferred,
and if a cell is written then a type is inferred exactly if the written cells read under it. -/
theorem infer_unique :
    (∀ s, [(readBool? s).isSome, (readNumber? s).isSome, (Moment.read? s).isSome].count true ≤ 1) ∧
    (∀ (types : List ColumnType) (values : List String), types.Perm candidates →
      inferFrom types false values = infer values) ∧
    ∀ values : List String, (∃ s ∈ values, Text.isBlank s = false) →
      ∀ type : ColumnType, type ≠ .text → (infer values = type ↔ type.ReadsWritten values) := by
  refine ⟨fun s => ?_, fun types values h => inferFrom_of_perm h values,
    fun values hwritten type htype => infer_eq_iff hwritten htype⟩
  cases hbool : readBool? s with
  | some b => simp [readNumber?_of_bool hbool, readDate?_of_bool hbool]
  | none =>
    cases hdate : Moment.read? s with
    | some m => simp [readNumber?_of_date hdate]
    | none => cases readNumber? s <;> simp

/-- Numbers are found whether or not dates are tried first. -/
theorem infer_unique_rounds :
    (∃ s ∈ ["1.50", " ", "+2e3"], Text.isBlank s = false) ∧
      [date, number, bool].Perm candidates ∧
      inferFrom [date, number, bool] false ["1.50", " ", "+2e3"] = .number ∧
      ReadsWritten .number ["1.50", " ", "+2e3"] := by
  have hwritten : ∃ s ∈ ["1.50", " ", "+2e3"], Text.isBlank s = false := by decide
  have hperm : [date, number, bool].Perm candidates := by decide
  have hreads : ReadsWritten .number ["1.50", " ", "+2e3"] := by decide +kernel
  obtain ⟨-, horder, htype⟩ := infer_unique
  refine ⟨hwritten, hperm, ?_, hreads⟩
  exact (horder _ _ hperm).trans ((htype _ hwritten .number nofun).2 hreads)

end ColumnType
end TableTalk
