import Mathlib.Data.List.Flatten
import TableTalk.Proofs.Rereading

/-!
# Tables that are read as they were written

A table is canonical if nothing in it would be changed by reading: its names are names, its cells
are kept as they are, and no row would be passed over.  Such a table comes back from its text with
the same names and the same cells, whatever bytes are in them; positions and rows are counted
anew, and the types are those that the contents call for.

That a name is read as it is says more than it seems to.  A mark at its end would be removed and
could not be put back, since reducing white space makes no text longer.

## Main definitions

* `Delimited.Canonical` — a table in which reading would change nothing.

## Main results

* `Text.length_collapse_le` — reducing white space makes no text longer.
* `Delimited.isName_of_columnName_eq` — a name that stays as it is has no mark at its ends.
* `Delimited.restored_of_canonical` — **a canonical table is read as it was written.**
-/

namespace TableTalk
namespace Text

/-! ### The length of a text -/

/-- The pieces, one space in front of each. -/
def spaced (pieces : List (List Char)) : List Char := pieces.flatMap fun piece => ' ' :: piece

theorem length_spaced_cons (piece : List Char) (pieces : List (List Char)) :
    (spaced (piece :: pieces)).length = piece.length + 1 + (spaced pieces).length := by
  rw [spaced, List.flatMap_cons, List.length_append, List.length_cons]
  rfl

/-- The pieces of a list and the places where it was cut make up its length. -/
theorem length_spaced_cutAt (p : Char → Bool) (cs : List Char) :
    (spaced (cutAt p cs)).length = cs.length + 1 := by
  induction cs with
  | nil => rfl
  | cons c cs ih =>
    obtain ⟨first, rest, hcut⟩ := List.exists_cons_of_ne_nil (cutAt_ne_nil p cs)
    rw [hcut, length_spaced_cons] at ih
    rw [cutAt, hcut]
    split
    · rw [length_spaced_cons, length_spaced_cons, List.length_nil, List.length_cons]
      omega
    · rw [List.modifyHead_cons, length_spaced_cons, List.length_cons, List.length_cons]
      omega

/-- One space stands between two words. -/
theorem length_intercalate_le (words : List (List Char)) :
    (" ".intercalate (words.map String.ofList)).length ≤ (spaced words).length - 1 := by
  induction words with
  | nil => exact Nat.le_refl _
  | cons word words ih =>
    rw [length_spaced_cons]
    cases words with
    | nil => simp
    | cons next words =>
      have hspace : " ".length = 1 := rfl
      rw [length_spaced_cons] at ih ⊢
      rw [List.map_cons] at ih ⊢
      rw [List.map_cons, String.intercalate_cons_cons, String.length_append,
        String.length_append, hspace, String.length_ofList]
      omega

/-- Reducing white space makes no text longer. -/
theorem length_collapse_le (s : String) : (collapse s).length ≤ s.length := by
  have hcut := length_spaced_cutAt isBlankChar s.toList
  have hjoined := length_intercalate_le ((cutAt isBlankChar s.toList).filter fun w => !w.isEmpty)
  have hkept : (spaced ((cutAt isBlankChar s.toList).filter fun w => !w.isEmpty)).length ≤
      (spaced (cutAt isBlankChar s.toList)).length := (List.filter_sublist.flatMap _).length_le
  rw [String.length_toList] at hcut
  rw [collapse, words]
  omega

/-- What is left of a text without its marks is the text, unless it is shorter. -/
theorem stripMarks_eq_self_of_length_le {s : String} (h : s.length ≤ (stripMarks s).length) :
    stripMarks s = s := by
  rw [← String.toList_inj, stripMarks, String.toList_ofList]
  refine (stripWhile_sublist _ s.toList).eq_of_length_le ?_
  rwa [stripMarks, String.length_ofList, ← String.length_toList] at h

end Text

namespace Delimited

/-! ### Names that stay as they are -/

/-- There is no mark at the ends of a numbered name. -/
theorem stripMarks_numbered (i : Nat) : Text.stripMarks s!"Column{i + 1}" = s!"Column{i + 1}" := by
  have hmark : ∀ c ∈ (s!"Column{i + 1}" : String).toList, (c == Text.byteOrderMark) = false := by
    intro c hc
    rw [String.toList_append] at hc
    rcases List.mem_append.1 hc with hc | hc
    · have hall : "Column".toList.all fun c => !(c == Text.byteOrderMark) := by decide
      simpa using List.all_eq_true.1 hall c hc
    · have hdigit := Numeral.toNat_of_isDigit (Numeral.isDigit_of_mem_toString hc)
      rw [beq_eq_false_iff_ne]
      rintro rfl
      exact absurd hdigit.2 (by decide)
  rw [← String.toList_inj, Text.stripMarks, String.toList_ofList]
  exact Text.stripWhile_eq_self (fun hne => hmark _ (List.head_mem hne)) fun hne =>
    hmark _ (List.getLast_mem hne)

/-- A name that is read as it is has no white space and no mark at its ends. -/
theorem isName_of_columnName_eq {s : String} {i : Nat} (h : columnName s i = s) : IsName s := by
  unfold columnName at h
  dsimp only at h
  split at h
  · subst h
    exact ⟨(isWord_numbered i).proper, Text.collapse_of_isWord (isWord_numbered i),
      stripMarks_numbered i⟩
  · next hne =>
    have hproper : Text.Proper s := h ▸ Text.proper_collapse (Bool.eq_false_iff.2 hne)
    rw [hproper.trim_eq] at h
    have hcollapse : Text.collapse s = s := by
      rw [← h, Text.collapse_collapse]
    have hlength := Text.length_collapse_le (Text.stripMarks s)
    rw [h] at hlength
    exact ⟨hproper, hcollapse, Text.stripMarks_eq_self_of_length_le hlength⟩

/-! ### Canonical tables -/

/-- A table in which reading would change nothing. -/
structure Canonical (o : Options) (t : Table) : Prop where
  /-- There is a column. -/
  ne_nil : t.columns ≠ []
  /-- Each name is read as it is in its place. -/
  names : ∀ x ∈ t.names.zipIdx, columnName x.1 x.2 = x.1
  /-- Each cell is kept as it is. -/
  cells : ∀ c ∈ t.columns, ∀ content ∈ c.contents, cellText o content = content
  /-- Each row has a cell that is not blank. -/
  rows : ∀ row ∈ t.rows, ∃ cell ∈ row, Text.isBlank cell = false

variable {o : Options} {t : Table}

theorem canonical_iff : Canonical o t ↔ t.columns ≠ [] ∧
    (∀ x ∈ t.names.zipIdx, columnName x.1 x.2 = x.1) ∧
    (∀ c ∈ t.columns, ∀ content ∈ c.contents, cellText o content = content) ∧
    ∀ row ∈ t.rows, ∃ cell ∈ row, Text.isBlank cell = false :=
  ⟨fun h => ⟨h.ne_nil, h.names, h.cells, h.rows⟩, fun h => ⟨h.1, h.2.1, h.2.2.1, h.2.2.2⟩⟩

instance (o : Options) (t : Table) : Decidable (Canonical o t) :=
  decidable_of_iff _ canonical_iff.symm

/-- The cells of the rows are the cells of the columns. -/
theorem mem_contents_of_mem_rows (hwell : t.WellFormed) {row : List String} (hrow : row ∈ t.rows)
    {cell : String} (hcell : cell ∈ row) : ∃ c ∈ t.columns, cell ∈ c.contents := by
  rw [hwell.rows_eq] at hrow
  obtain ⟨i, hi, rfl⟩ := List.mem_map.1 hrow
  obtain ⟨c, hc, rfl⟩ := List.mem_map.1 hcell
  have hlt : i < c.contents.length := by
    rw [Column.length_contents, hwell.2 c hc]
    exact List.mem_range.1 hi
  refine ⟨c, hc, ?_⟩
  rw [List.getElem?_eq_getElem hlt, Option.getD_some]
  exact List.getElem_mem hlt

theorem Canonical.settled (h : Canonical o t) (hwell : t.WellFormed) : Settled o t := by
  constructor
  · intro name hname
    obtain ⟨i, hi⟩ := List.mem_iff_getElem?.1 hname
    exact isName_of_columnName_eq (h.names (name, i) (List.mk_mem_zipIdx_iff_getElem?.2 hi))
  · intro row hrow cell hcell
    obtain ⟨c, hc, hmem⟩ := mem_contents_of_mem_rows hwell hrow hcell
    exact h.cells c hc cell hmem

theorem Canonical.names_ne_nil (h : Canonical o t) : t.names ≠ [] := by
  intro hnil
  exact h.ne_nil (List.map_eq_nil_iff.1 hnil)

/-- The column in a place is made up of the texts in that place of the rows. -/
theorem getElem?_columns_loaded (o : Options) (names : List String) (rows : List (List String))
    (j : Nat) : (loaded o names rows).columns[j]? =
      names[j]?.map fun name => Table.columnOfRows rows (headerOf o rows name j) j := by
  simp only [loaded, Table.ofFittedRows, List.getElem?_map, List.getElem?_zipIdx, Option.map_map,
    Nat.zero_add]
  rfl

/-- **A canonical table is read as it was written**: the same names in the same order, and the
same cells in every column and every row.  Columns and rows are counted from zero, and a column
has the type that its contents call for, or holds text if types are not inferred. -/
theorem restored_of_canonical (hsep : IsSeparator o.delimiter) (hwell : t.WellFormed)
    (h : Canonical o t) :
    ∃ u, reread o t = .ok u ∧ u.names = t.names ∧ u.rows = t.rows ∧
      ∀ (j : Nat) (c : Column), t.columns[j]? = some c → ∃ d, u.columns[j]? = some d ∧
        d.contents = c.contents ∧ d.header.ordinal = j ∧
        d.header.type = (if o.infer then ColumnType.infer c.contents else .text) ∧
        d.cells.map Cell.row = List.range t.height := by
  have hread := reread_eq hsep hwell h.names_ne_nil (h.settled hwell)
  rw [writtenRows_eq_self_iff.2 h.rows] at hread
  have hwidth : ∀ row ∈ t.rows, row.length = t.names.length := fun row hrow =>
    hwell.length_of_mem_rows hrow
  refine ⟨_, hread, names_loaded o t.names t.rows, rows_loaded h.names_ne_nil hwell.1 hwidth, ?_⟩
  intro j c hc
  have hname : t.names[j]? = some c.name := by
    rw [Table.names, List.getElem?_map, hc, Option.map_some]
  have hvalues := (hwell.contents_eq hc).symm
  have hd := getElem?_columns_loaded o t.names t.rows j
  rw [hname, Option.map_some] at hd
  have hheight : t.rows.length = t.height := by
    rw [Table.rows, List.length_map, List.length_range]
  refine ⟨_, hd, ?_, rfl, ?_, ?_⟩
  · rw [contents_columnOfRows, hvalues]
  · change (headerOf o t.rows c.name j).type = _
    rw [headerOf, hvalues]
  · rw [positions_loaded (List.mem_of_getElem? hd), hheight]

/-- Cells with delimiters, quotes, line ends, white space and marks, and a cell without bytes. -/
def annotated : Table := ⟨[
  .ofValues ⟨"Team name", .number, 7⟩ ["a;b", "say \"b\"\r\n", " \ufeffc", ""],
  .ofValues ⟨"Rank", .text, 7⟩ ["1", "", "2", "3\r"]]⟩

theorem restored_of_canonical_annotated :
    let o : Options := { delimiter := 0x3B, trim := false }
    IsSeparator o.delimiter ∧ annotated.WellFormed ∧ Canonical o annotated ∧
      ∃ u, reread o annotated = .ok u ∧ u.names = ["Team name", "Rank"] ∧
        u.rows = [["a;b", "1"], ["say \"b\"\r\n", ""], [" \ufeffc", "2"], ["", "3\r"]] ∧
        ∃ d, u.columns[1]? = some d ∧ d.header.ordinal = 1 ∧ d.header.type = .number := by
  intro o
  have hsep : IsSeparator o.delimiter := by decide
  have hwell : annotated.WellFormed := by decide
  have hcanonical : Canonical o annotated := by decide +kernel
  obtain ⟨u, hread, hnames, hrows, hcolumns⟩ := restored_of_canonical hsep hwell hcanonical
  obtain ⟨d, hd, -, hordinal, htype, -⟩ := hcolumns 1 _ rfl
  have hnumber : ColumnType.infer ["1", "", "2", "3\r"] = .number := by decide +kernel
  rw [if_pos rfl] at htype
  refine ⟨hsep, hwell, hcanonical, u, hread, hnames, ?_, d, hd, hordinal, htype.trans hnumber⟩
  rw [hrows]
  decide

end Delimited
end TableTalk
