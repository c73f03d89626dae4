import TableTalk.Proofs.Tabulating

/-!
# Columns that the header does not name

A header cell without a word in it gives its column no name, and the column is named by its
number.  Numbers tell such columns apart from each other.  They do not tell them apart from the
columns that the header does name: a cell may give the very name that a number makes.  Where the
names that are given are distinct, this is the only way in which the names of a table can fail to
be distinct, and then a number is what is reported.

## Main definitions

* `Delimited.givenName`, `Delimited.givenNames` — the names that header cells give.
* `Delimited.numberedName` — the name that is made of a number.
* `Delimited.Taken` — a column to be numbered whose numbered name is given to another column.

## Main results

* `Delimited.numberedName_injective` — numbered names are distinct.
* `Delimited.nodup_namesOf_iff` — among distinct given names, only one that is taken is repeated.
* `Delimited.exists_read_iff_taken` — **a header with distinct given names fails to load exactly
  if the name of a column to be numbered is taken.**
-/

namespace TableTalk

/-- A repeated name stands in two places. -/
theorem FirstRepeat.exists_getElem? {names : List String} {name : String}
    (h : FirstRepeat names name) :
    ∃ i j : Nat, i ≠ j ∧ names[i]? = some name ∧ names[j]? = some name := by
  obtain ⟨front, back, rfl, -, hmem⟩ := h
  obtain ⟨i, hi⟩ := List.mem_iff_getElem?.1 hmem
  obtain ⟨hlt, -⟩ := List.getElem?_eq_some_iff.1 hi
  refine ⟨i, front.length, Nat.ne_of_lt hlt, ?_, ?_⟩
  · rw [List.getElem?_append_left hlt, hi]
  · simp

namespace Delimited

/-! ### Names that are given and names that are made of a number -/

/-- The name that a header cell gives, which is empty if it gives none. -/
def givenName (raw : String) : String := Text.collapse (Text.stripMarks (Text.trim raw))

/-- The name of the column at a position if its header cell gives none. -/
def numberedName (i : Nat) : String := s!"Column{i + 1}"

/-- The names that the cells of a header give. -/
def givenNames (first : List String) : List String :=
  (first.map givenName).filter fun name => !name.isEmpty

theorem columnName_of_given {raw : String} (h : givenName raw ≠ "") (i : Nat) :
    columnName raw i = givenName raw := by
  unfold columnName
  dsimp only
  rw [← givenName, if_neg (by simpa using h)]

theorem columnName_of_not_given {raw : String} (h : givenName raw = "") (i : Nat) :
    columnName raw i = numberedName i := by
  unfold columnName
  dsimp only
  rw [← givenName, if_pos (String.isEmpty_iff.2 h), numberedName]

theorem numberedName_ne_empty (i : Nat) : numberedName i ≠ "" := (isWord_numbered i).ne_empty

/-- Numbered names are distinct. -/
theorem numberedName_injective : Function.Injective numberedName := by
  intro i j heq
  have hchars : ∀ k, (numberedName k).toList = "Column".toList ++ Nat.toDigits 10 (k + 1) := by
    intro k
    rw [← Numeral.toList_toString]
    exact String.toList_append
  have hdigits : Nat.toDigits 10 (i + 1) = Nat.toDigits 10 (j + 1) := by
    have hsame := congrArg String.toList heq
    rw [hchars, hchars] at hsame
    exact List.append_cancel_left hsame
  have hnumber := congrArg (Nat.ofDigitChars 10 · 0) hdigits
  simp only [Nat.ofDigitChars_ten_toDigits] at hnumber
  omega

theorem mem_givenNames {first : List String} {name : String} : name ∈ givenNames first ↔
    name ≠ "" ∧ ∃ (i : Nat) (raw : String), first[i]? = some raw ∧ givenName raw = name := by
  simp only [givenNames, List.mem_filter, List.mem_map, Bool.not_eq_true',
    String.isEmpty_eq_false_iff]
  constructor
  · rintro ⟨⟨raw, hraw, hname⟩, hne⟩
    obtain ⟨i, hi⟩ := List.mem_iff_getElem?.1 hraw
    exact ⟨hne, i, raw, hi, hname⟩
  · rintro ⟨hne, i, raw, hi, hname⟩
    exact ⟨⟨raw, List.mem_of_getElem? hi, hname⟩, hne⟩

/-- Distinct given names stand in one place each. -/
theorem eq_of_givenName {first : List String} (h : (givenNames first).Nodup) {i j : Nat}
    {raw raw' : String} (hi : first[i]? = some raw) (hj : first[j]? = some raw')
    (hne : givenName raw ≠ "") (heq : givenName raw = givenName raw') : i = j := by
  obtain ⟨hlt, rfl⟩ := List.getElem?_eq_some_iff.1 hi
  obtain ⟨hlt', rfl⟩ := List.getElem?_eq_some_iff.1 hj
  rw [givenNames, List.Nodup, List.pairwise_filter, List.pairwise_map,
    List.pairwise_iff_getElem] at h
  have hgiven : (!(givenName first[i]).isEmpty) = true := by simpa using hne
  by_contra hij
  rcases Nat.lt_or_gt_of_ne hij with hlt | hlt
  · exact h i j _ _ hlt hgiven (heq ▸ hgiven) heq
  · exact h j i _ _ hlt (heq ▸ hgiven) hgiven heq.symm

/-! ### Names that are taken -/

/-- The column at a position is to be numbered, and its numbered name is given to another
column. -/
def Taken (first : List String) (i : Nat) : Prop :=
  (∃ raw, first[i]? = some raw ∧ givenName raw = "") ∧ numberedName i ∈ givenNames first

/-- Among distinct given names, a name in two places is a numbered one that is taken. -/
theorem exists_taken {first : List String} (h : (givenNames first).Nodup) {i j : Nat}
    {name : String} (hij : i ≠ j) (hi : (namesOf first)[i]? = some name)
    (hj : (namesOf first)[j]? = some name) : ∃ k, Taken first k ∧ name = numberedName k := by
  rw [getElem?_namesOf, Option.map_eq_some_iff] at hi hj
  obtain ⟨raw, hraw, hname⟩ := hi
  obtain ⟨raw', hraw', hname'⟩ := hj
  by_cases hgiven : givenName raw = "" <;> by_cases hgiven' : givenName raw' = ""
  · -- Both columns are numbered, and their numbers differ.
    rw [columnName_of_not_given hgiven] at hname
    rw [columnName_of_not_given hgiven', ← hname] at hname'
    exact absurd (numberedName_injective hname').symm hij
  · rw [columnName_of_not_given hgiven] at hname
    rw [columnName_of_given hgiven', ← hname] at hname'
    have hmem := mem_givenNames.2 ⟨numberedName_ne_empty i, j, raw', hraw', hname'⟩
    exact ⟨i, ⟨⟨raw, hraw, hgiven⟩, hmem⟩, hname.symm⟩
  · rw [columnName_of_not_given hgiven'] at hname'
    rw [columnName_of_given hgiven, ← hname'] at hname
    have hmem := mem_givenNames.2 ⟨numberedName_ne_empty j, i, raw, hraw, hname⟩
    exact ⟨j, ⟨⟨raw', hraw', hgiven'⟩, hmem⟩, hname'.symm⟩
  · rw [columnName_of_given hgiven] at hname
    rw [columnName_of_given hgiven', ← hname] at hname'
    exact absurd (eq_of_givenName h hraw hraw' hgiven hname'.symm) hij

/-- Among distinct given names, only one that is taken is repeated. -/
theorem nodup_namesOf_iff {first : List String} (h : (givenNames first).Nodup) :
    (namesOf first).Nodup ↔ ∀ i, ¬Taken first i := by
  constructor
  · rintro hnodup i ⟨⟨raw, hraw, hnone⟩, hmem⟩
    obtain ⟨hne, j, raw', hraw', hname⟩ := mem_givenNames.1 hmem
    have hi : (namesOf first)[i]? = some (numberedName i) := by
      rw [getElem?_namesOf, hraw, Option.map_some, columnName_of_not_given hnone]
    have hj : (namesOf first)[j]? = some (numberedName i) := by
      rw [getElem?_namesOf, hraw', Option.map_some, columnName_of_given (hname ▸ hne), hname]
    have hij : i = j := by
      obtain ⟨hlt, -⟩ := List.getElem?_eq_some_iff.1 hi
      exact (List.getElem?_inj hlt hnodup).1 (hi.trans hj.symm)
    subst hij
    rw [hraw, Option.some.injEq] at hraw'
    rw [← hraw', hnone] at hname
    exact numberedName_ne_empty i hname.symm
  · intro hfree
    by_contra hnodup
    obtain ⟨name, hrepeat⟩ := exists_firstRepeat_iff.2 hnodup
    obtain ⟨i, j, hij, hi, hj⟩ := hrepeat.exists_getElem?
    obtain ⟨k, htaken, -⟩ := exists_taken h hij hi hj
    exact hfree k htaken

/-! ### Loading -/

/-- **A header with distinct given names fails to load exactly if the name of a column to be
numbered is taken.**  Numbered names are distinct from each other, so nothing else is in the way,
and what is reported is a numbered name that is taken. -/
theorem exists_read_iff_taken {o : Options} {bytes : List UInt8} {rs : List (List String)}
    {first : List String} {others : List (List String)}
    (htexts : texts (records o.delimiter bytes) = .ok rs)
    (hkept : keptRecords o rs = first :: others) (hgiven : (givenNames first).Nodup) :
    ((∃ t, read o bytes = .ok t) ↔ ∀ i, ¬Taken first i) ∧
      (∀ i j, numberedName i = numberedName j → i = j) ∧
      ∀ e, read o bytes = .error e →
        ∃ i, Taken first i ∧ e = .invalidTable (.duplicateName (numberedName i)) := by
  rw [read_of_texts htexts]
  refine ⟨?_, numberedName_injective, ?_⟩
  · rw [exists_tableOfRecords_iff hkept, nodup_namesOf_iff hgiven]
  · intro e he
    obtain ⟨name, hrepeat, rfl⟩ := (tableOfRecords_eq_error_iff_of_kept hkept).1 he
    obtain ⟨i, j, hij, hi, hj⟩ := hrepeat.exists_getElem?
    obtain ⟨k, htaken, rfl⟩ := exists_taken hgiven hij hi hj
    exact ⟨k, htaken, rfl⟩

/-- A column without a name between two with names that are made of other numbers, and one whose
number is taken. -/
theorem exists_read_iff_taken_columns :
    (∃ t, read {} (Utf8.encode "Column1,,Column3,\ufeff\nw,x,y,z\n") = .ok t) ∧
      ¬∃ t, read {} (Utf8.encode "Column4,,Column1,\ufeff\nw,x,y,z\n") = .ok t := by
  constructor
  · have htexts : texts (records 0x2C (Utf8.encode "Column1,,Column3,\ufeff\nw,x,y,z\n")) =
        .ok [["Column1", "", "Column3", "\ufeff"], ["w", "x", "y", "z"]] := by decide +kernel
    have hkept : keptRecords {} [["Column1", "", "Column3", "\ufeff"], ["w", "x", "y", "z"]] =
        ["Column1", "", "Column3", ""] :: [["w", "x", "y", "z"]] := by decide +kernel
    refine (exists_read_iff_taken (o := {}) htexts hkept (by decide)).1.2 ?_
    rintro i ⟨⟨raw, hraw, hnone⟩, hmem⟩
    have hlt : i < 4 := (List.getElem?_eq_some_iff.1 hraw).1
    have hfree : ∀ i < 4, (i = 0 ∨ i = 2) ∨
        numberedName i ∉ givenNames ["Column1", "", "Column3", ""] := by decide
    rcases hfree i hlt with (rfl | rfl) | hnot
    · cases hraw
      exact absurd hnone (by decide)
    · cases hraw
      exact absurd hnone (by decide)
    · exact hnot hmem
  · have htexts : texts (records 0x2C (Utf8.encode "Column4,,Column1,\ufeff\nw,x,y,z\n")) =
        .ok [["Column4", "", "Column1", "\ufeff"], ["w", "x", "y", "z"]] := by decide +kernel
    have hkept : keptRecords {} [["Column4", "", "Column1", "\ufeff"], ["w", "x", "y", "z"]] =
        ["Column4", "", "Column1", ""] :: [["w", "x", "y", "z"]] := by decide +kernel
    intro hloads
    have hfree := (exists_read_iff_taken (o := {}) htexts hkept (by decide)).1.1 hloads
    exact hfree 3 ⟨⟨"", rfl, by decide⟩, by decide⟩

/-- A header cell without a name keeps a table from being loaded, although the only name that is
given is given once. -/
theorem unloaded_of_numbered :
    texts (records 0x2C (Utf8.encode "Column2,\nx,y\n")) =
        .ok [["Column2", ""], ["x", "y"]] ∧
      keptRecords {} [["Column2", ""], ["x", "y"]] = ["Column2", ""] :: [["x", "y"]] ∧
      (givenNames ["Column2", ""]).Nodup ∧
      read {} (Utf8.encode "Column2,\nx,y\n") =
        .error (.invalidTable (.duplicateName "Column2")) := by
  decide +kernel

end Delimited
end TableTalk
