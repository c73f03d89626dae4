import TableTalk.Proofs.Loading
import TableTalk.Proofs.Reading
import TableTalk.Proofs.Records

/-!
# Tables that are written and read again

A name and a cell are kept without the white space around them, and a name with single spaces
between its words.  Doing so a second time changes nothing.  Marks are removed behind the white
space, however, and white space that stood behind a mark is only met when the table is read
again.

Records of blank cells are passed over.  A record that is wider than the table is not blank if
only the cells that are cut off are written in; the row that it leaves is blank, and it is
passed over when the table is read again.  The other rows are found as they were and counted
anew.  Blank cells say nothing about a type, so the columns keep theirs.

## Main definitions

* `Text.IsWord` — a text of characters that are no white space.
* `Delimited.IsName` — a text that is read as a column name without a change.
* `Delimited.writtenRows` — the rows with a cell that is not blank.
* `Delimited.Settled` — a table whose names and cells are read as they are.
* `Delimited.reread` — what is read of a table that was written.

## Main results

* `Text.collapse_collapse` — reducing white space twice is reducing it once.
* `Delimited.isName_columnName`, `Delimited.cellText_cellText` — what is kept is kept again.
* `Delimited.reread_eq` — a settled table is read again without the rows of blank cells.
* `Delimited.exists_reread_of_read` — **what has been read is read again, up to its rows of
  blank cells.**
-/

namespace TableTalk
namespace Text

/-! ### Words -/

/-- A text of characters that are no white space. -/
structure IsWord (s : String) : Prop where
  /-- There is a character. -/
  ne_empty : s ≠ ""
  /-- No character is white space. -/
  kept : ∀ c ∈ s.toList, isBlankChar c = false

theorem IsWord.proper {s : String} (h : IsWord s) : Proper s := by
  have hne : s.toList ≠ [] := fun hnil => h.ne_empty (String.toList_eq_nil_iff.1 hnil)
  have htrim : trim s = s := trim_eq_self (fun hne => h.kept _ (List.head_mem hne)) fun hne =>
    h.kept _ (List.getLast_mem hne)
  exact ⟨htrim, isBlank_eq_false_of_head hne (h.kept _ (List.head_mem hne))⟩

theorem isWord_of_mem_words {s word : String} (h : word ∈ words s) : IsWord word := by
  obtain ⟨piece, hpiece, rfl⟩ := List.mem_map.1 h
  obtain ⟨hcut, hne⟩ := List.mem_filter.1 hpiece
  constructor
  · rw [ne_eq, ← String.toList_eq_nil_iff, String.toList_ofList]
    simpa using hne
  · rw [String.toList_ofList]
    exact eq_false_of_mem_cutAt hcut

section

variable {α : Type} {p : α → Bool} {as : List α}

theorem cutAt_of_forall (h : ∀ a ∈ as, p a = false) : cutAt p as = [as] := by
  induction as with
  | nil => rfl
  | cons a as ih =>
    rw [cutAt, h a List.mem_cons_self, ih fun b hb => h b (List.mem_cons_of_mem a hb)]
    rfl

/-- A list is cut at the first unwanted element. -/
theorem cutAt_append_cons (h : ∀ a ∈ as, p a = false) {b : α} (hb : p b = true) (bs : List α) :
    cutAt p (as ++ b :: bs) = as :: cutAt p bs := by
  induction as with
  | nil => rw [List.nil_append, cutAt, if_pos hb]
  | cons a as ih =>
    rw [List.cons_append, cutAt, h a List.mem_cons_self,
      ih fun b hb => h b (List.mem_cons_of_mem a hb)]
    rfl

end

theorem cutAt_intercalate {texts : List String} (hne : texts ≠ [])
    (h : ∀ text ∈ texts, IsWord text) :
    cutAt isBlankChar (" ".intercalate texts).toList = texts.map String.toList := by
  have hspace : isBlankChar ' ' = true := by decide
  induction texts with
  | nil => exact absurd rfl hne
  | cons text texts ih =>
    have htext := (h text List.mem_cons_self).kept
    cases texts with
    | nil =>
      rw [String.intercalate_singleton, cutAt_of_forall htext]
      rfl
    | cons next texts =>
      have hrest := ih (List.cons_ne_nil _ _) fun t ht => h t (List.mem_cons_of_mem text ht)
      have hchars : (" ".intercalate (text :: next :: texts)).toList =
          text.toList ++ ' ' :: (" ".intercalate (next :: texts)).toList := by
        rw [String.intercalate_cons_cons, String.toList_append, String.toList_append,
          List.append_assoc]
        rfl
      rw [hchars, cutAt_append_cons htext hspace, hrest]
      rfl

/-- The words of a text are the words that it was put together from. -/
theorem words_intercalate {texts : List String} (h : ∀ text ∈ texts, IsWord text) :
    words (" ".intercalate texts) = texts := by
  by_cases hne : texts = []
  · subst hne
    rfl
  · have hkeep : (texts.map String.toList).filter (fun w => !w.isEmpty) =
        texts.map String.toList := by
      refine List.filter_eq_self.2 fun w hw => ?_
      obtain ⟨text, htext, rfl⟩ := List.mem_map.1 hw
      simpa using (h text htext).ne_empty
    rw [words, cutAt_intercalate hne h, hkeep, List.map_map]
    simp

theorem collapse_collapse (s : String) : collapse (collapse s) = collapse s := by
  have hwords : words (collapse s) = words s := words_intercalate fun _ => isWord_of_mem_words
  rw [collapse, hwords, collapse]

theorem collapse_of_isWord {s : String} (h : IsWord s) : collapse s = s := by
  have hwords : words (" ".intercalate [s]) = [s] := words_intercalate (by simpa using h)
  rw [String.intercalate_singleton] at hwords
  rw [collapse, hwords, String.intercalate_singleton]

/-- The words of a text make a proper text, if there are any. -/
theorem proper_collapse {s : String} (h : (collapse s).isEmpty = false) : Proper (collapse s) := by
  refine proper_intercalate ?_ (fun word hword => (isWord_of_mem_words hword).proper) " "
  intro hnil
  rw [collapse, hnil] at h
  cases h

theorem stripMarks_stripMarks (s : String) : stripMarks (stripMarks s) = stripMarks s := by
  rw [← String.toList_inj]
  simp only [stripMarks, String.toList_ofList]
  exact stripWhile_eq_self head_stripWhile getLast_stripWhile

end Text

namespace Delimited

/-! ### Names and cells -/

/-- A text that is read as a column name, and as a cell as well, without a change. -/
structure IsName (s : String) : Prop where
  /-- It is not blank and has no white space at its ends. -/
  proper : Text.Proper s
  /-- Single spaces stand between its words. -/
  collapse_eq : Text.collapse s = s
  /-- There is no mark at its ends. -/
  stripMarks_eq : Text.stripMarks s = s

theorem IsName.columnName_eq {s : String} (h : IsName s) (i : Nat) : columnName s i = s := by
  simp only [columnName, h.proper.trim_eq, h.stripMarks_eq, h.collapse_eq, h.proper.isEmpty_eq,
    Bool.false_eq_true, if_false]

theorem IsName.cellText_eq {s : String} (h : IsName s) (o : Options) : cellText o s = s := by
  rw [cellText, h.proper.trim_eq, h.stripMarks_eq, ite_self]

/-- A numbered name is one word. -/
theorem isWord_numbered (i : Nat) : Text.IsWord s!"Column{i + 1}" := by
  have hchars : (s!"Column{i + 1}" : String).toList =
      "Column".toList ++ (toString (i + 1)).toList := String.toList_append
  constructor
  · rw [ne_eq, ← String.toList_eq_nil_iff, hchars]
    simp
  · intro c hc
    rw [hchars] at hc
    rcases List.mem_append.1 hc with hc | hc
    · have hall : "Column".toList.all fun c => !Text.isBlankChar c := by decide
      simpa using List.all_eq_true.1 hall c hc
    · exact Numeral.isBlankChar_of_isDigit (Numeral.isDigit_of_mem_toString hc)

/-- The name of a column is read as it is if there is no mark at its ends. -/
theorem isName_columnName {raw : String} {i : Nat}
    (h : Text.stripMarks (columnName raw i) = columnName raw i) : IsName (columnName raw i) := by
  revert h
  unfold columnName
  dsimp only
  split
  · intro h
    exact ⟨(isWord_numbered i).proper, Text.collapse_of_isWord (isWord_numbered i), h⟩
  · next hne =>
    intro h
    have hne := Bool.eq_false_iff.2 hne
    exact ⟨Text.proper_collapse hne, Text.collapse_collapse _, h⟩

/-- A cell is read as it is if there is no white space at its ends or nothing is removed. -/
theorem cellText_cellText {o : Options} {raw : String}
    (h : o.trim = true → Text.trim (cellText o raw) = cellText o raw) :
    cellText o (cellText o raw) = cellText o raw := by
  by_cases htrim : o.trim = true
  · have htrim' := h htrim
    have hmarks : Text.stripMarks (cellText o raw) = cellText o raw := by
      rw [cellText, if_pos htrim, Text.stripMarks_stripMarks]
    rw [cellText, if_pos htrim, htrim', hmarks]
  · rw [cellText, if_neg htrim]

end Delimited

namespace Delimited

variable {o : Options} {names : List String} {rows : List (List String)}

/-! ### Rows of blank cells -/

/-- The rows with a cell that is not blank. -/
def writtenRows (rows : List (List String)) : List (List String) :=
  rows.filter fun row => !row.all Text.isBlank

theorem writtenRows_eq_self_iff :
    writtenRows rows = rows ↔ ∀ row ∈ rows, ∃ cell ∈ row, Text.isBlank cell = false := by
  rw [writtenRows, List.filter_eq_self]
  simp only [Bool.not_eq_true', List.all_eq_false, Bool.not_eq_true]

theorem isBlank_getD {row : List String} (h : row.all Text.isBlank = true) (i : Nat) :
    Text.isBlank ((row[i]?).getD "") = true := by
  cases hcell : row[i]? with
  | none => rfl
  | some cell => exact List.all_eq_true.1 h cell (List.mem_of_getElem? hcell)

/-- Blank rows are of no consequence for the type of a column. -/
theorem headerOf_writtenRows (o : Options) (rows : List (List String)) (name : String) (i : Nat) :
    headerOf o (writtenRows rows) name i = headerOf o rows name i := by
  have hvalues : ColumnType.infer ((writtenRows rows).map fun row => (row[i]?).getD "") =
      ColumnType.infer (rows.map fun row => (row[i]?).getD "") := by
    refine ColumnType.infer_congr fun s hwritten => ?_
    simp only [List.mem_map]
    constructor
    · rintro ⟨row, hrow, rfl⟩
      exact ⟨row, (List.mem_filter.1 hrow).1, rfl⟩
    · rintro ⟨row, hrow, rfl⟩
      refine ⟨row, List.mem_filter.2 ⟨hrow, ?_⟩, rfl⟩
      -- A blank row has a blank cell in every column.
      rw [Bool.not_eq_true', ← Bool.not_eq_true]
      intro hblank
      rw [isBlank_getD hblank i] at hwritten
      cases hwritten
  simp only [headerOf, hvalues]

/-! ### Reading again -/

/-- What is read of a table that was written. -/
def reread (o : Options) (t : Table) : Except ReadError Table :=
  read o (Utf8.encode (writtenText o t))

theorem namesOf_eq_self (h : ∀ name ∈ names, IsName name) : namesOf names = names := by
  refine (List.map_congr_left fun x hx => ?_).trans (List.zipIdx_map_fst 0 names)
  exact (h x.1 (List.fst_mem_of_mem_zipIdx hx)).columnName_eq x.2

theorem IsName.head?_ne {s : String} (h : IsName s) :
    s.toList.head? ≠ some Text.byteOrderMark := by
  have hstrip : Text.stripWhile (· == Text.byteOrderMark) s.toList = s.toList := by
    rw [← String.toList_ofList (l := Text.stripWhile _ _)]
    exact congrArg String.toList h.stripMarks_eq
  have hne : Text.stripWhile (· == Text.byteOrderMark) s.toList ≠ [] :=
    hstrip.symm ▸ h.proper.toList_ne_nil
  have hhead := Text.head_stripWhile hne
  simp only [hstrip] at hhead
  rw [List.head?_eq_some_head h.proper.toList_ne_nil, ne_eq, Option.some.injEq]
  simpa using hhead

/-- A table whose names and cells are read as they are. -/
structure Settled (o : Options) (t : Table) : Prop where
  /-- No name is changed. -/
  names : ∀ name ∈ t.names, IsName name
  /-- No cell is changed. -/
  cells : ∀ row ∈ t.rows, ∀ cell ∈ row, cellText o cell = cell

variable {t : Table}

theorem Settled.map_cellText (h : Settled o t) {row : List String} (hrow : row ∈ recordsOf t) :
    row.map (cellText o) = row := by
  refine (List.map_congr_left fun cell hcell => ?_).trans (List.map_id row)
  rcases List.mem_cons.1 hrow with rfl | hrow
  · exact (h.names cell hcell).cellText_eq o
  · exact h.cells row hrow cell hcell

/-- Of the records that are written, the names and the rows that are not blank are kept. -/
theorem Settled.keptRecords_recordsOf (h : Settled o t) (hne : t.names ≠ []) :
    keptRecords o (recordsOf t) = t.names :: writtenRows t.rows := by
  obtain ⟨name, hname⟩ := List.exists_mem_of_ne_nil _ hne
  have hheader : (!t.names.all Text.isBlank) = true := by
    rw [Bool.not_eq_true', List.all_eq_false]
    exact ⟨name, hname, Bool.eq_false_iff.1 (h.names name hname).proper.isBlank_eq⟩
  have hsame : (recordsOf t).map (fun row => row.map (cellText o)) = recordsOf t :=
    (List.map_congr_left fun row => h.map_cellText).trans (List.map_id _)
  rw [keptRecords, hsame]
  exact List.filter_cons_of_pos (p := fun row : List String => !row.all Text.isBlank) hheader

/-- Every record that is written has a field. -/
theorem ne_nil_of_mem_recordsOf (hwell : t.WellFormed) (hne : t.names ≠ []) {row : List String}
    (hrow : row ∈ recordsOf t) : row ≠ [] := by
  rcases List.mem_cons.1 hrow with rfl | hrow
  · exact hne
  · rw [← List.length_pos_iff, hwell.length_of_mem_rows hrow]
    exact List.length_pos_iff.2 hne

/-- A settled table is read again without the rows of blank cells. -/
theorem reread_eq (hsep : IsSeparator o.delimiter) (hwell : t.WellFormed) (hne : t.names ≠ [])
    (h : Settled o t) : reread o t = .ok (loaded o t.names (writtenRows t.rows)) := by
  have hmark : ∀ name ∈ t.names.head?, name.toList.head? ≠ some Text.byteOrderMark := by
    intro name hname
    exact (h.names name (List.mem_of_mem_head? hname)).head?_ne
  have hfit : (writtenRows t.rows).map (fitRow t.names.length) = writtenRows t.rows := by
    refine (List.map_congr_left fun row hrow => ?_).trans (List.map_id _)
    exact fitRow_eq_self (hwell.length_of_mem_rows (List.mem_filter.1 hrow).1)
  rw [reread, encode_writtenText hsep.ascii, read_eq_ok_iff]
  have htexts := texts_records_write hsep (fun row => ne_nil_of_mem_recordsOf hwell hne) hmark
  refine ⟨recordsOf t, htexts, ?_⟩
  rw [tableOfRecords_eq_ok_iff]
  refine ⟨_, _, h.keptRecords_recordsOf hne, ?_⟩
  rw [namesOf_eq_self h.names, hfit]
  exact ⟨hwell.1, rfl⟩

/-! ### Tables that have been read -/

theorem cellText_empty (o : Options) : cellText o "" = "" := by
  unfold cellText
  split <;> rfl

/-- What has been read is settled if no mark stands at an end of a name and, where cells are
trimmed, no white space at an end of a cell. -/
theorem settled_of_read {bytes : List UInt8} (h : read o bytes = .ok t)
    (hnames : ∀ name ∈ t.names, Text.stripMarks name = name)
    (hcells : o.trim = true → ∀ row ∈ t.rows, ∀ cell ∈ row, Text.trim cell = cell) :
    Settled o t := by
  obtain ⟨names, rows, rfl, hne, hnodup, hname, hrow⟩ := exists_loaded_of_read h
  have hrows : (loaded o names rows).rows = rows :=
    rows_loaded hne hnodup fun row h => (hrow row h).1
  rw [hrows] at hcells
  constructor
  · intro name hmem
    have hmarks := hnames name hmem
    rw [names_loaded] at hmem
    obtain ⟨raw, i, heq⟩ := hname name hmem
    rw [heq] at hmarks ⊢
    exact isName_columnName hmarks
  · rw [hrows]
    intro row hmem cell hcell
    -- A cell was put in where there was none, or it is one that was kept.
    rcases (hrow row hmem).2 cell hcell with rfl | ⟨raw, rfl⟩
    · exact cellText_empty o
    · exact cellText_cellText fun htrim => hcells htrim row hmem _ hcell

/-- **What has been read is read again, up to its rows of blank cells**, if no mark stands at an
end of a name and, where cells are trimmed, no white space at an end of a cell. -/
theorem exists_reread_of_read {bytes : List UInt8} {t : Table} (hsep : IsSeparator o.delimiter)
    (h : read o bytes = .ok t) (hnames : ∀ name ∈ t.names, Text.stripMarks name = name)
    (hcells : o.trim = true → ∀ row ∈ t.rows, ∀ cell ∈ row, Text.trim cell = cell) :
    ∃ u, reread o t = .ok u ∧ u.schema = t.schema ∧ u.rows = writtenRows t.rows ∧
      (∀ c ∈ u.columns, c.cells.map Cell.row = List.range u.height) ∧
      (u = t ↔ ∀ row ∈ t.rows, ∃ cell ∈ row, Text.isBlank cell = false) := by
  have hsettled := settled_of_read h hnames hcells
  obtain ⟨names, rows, rfl, hne, hnodup, -, hrow⟩ := exists_loaded_of_read h
  have hagain := reread_eq hsep (wellFormed_loaded hnodup) ((names_loaded o _ _).symm ▸ hne)
    hsettled
  have hrows : (loaded o names rows).rows = rows :=
    rows_loaded hne hnodup fun row h => (hrow row h).1
  have hrows' : (loaded o names (writtenRows rows)).rows = writtenRows rows :=
    rows_loaded hne hnodup fun row h => (hrow row (List.mem_filter.1 h).1).1
  rw [names_loaded, hrows] at hagain
  rw [hrows]
  refine ⟨_, hagain, ?_, hrows', ?_, ?_⟩
  · simp only [schema_loaded, headerOf_writtenRows]
  · intro c hc
    rw [height_loaded hne]
    exact positions_loaded hc
  · rw [← writtenRows_eq_self_iff]
    constructor
    · intro heq
      have hsame := congrArg Table.rows heq
      rw [hrows, hrows'] at hsame
      exact hsame
    · intro heq
      rw [heq]

/-- Quoted and missing cells, a record of blank cells, and one that is blank up to the width of
the table. -/
def ragged : String := " Team ,Note\nb,\"x, \"\"y\"\"\"\n,\n,,z\na\n"

theorem exists_reread_of_read_ragged :
    let t : Table := ⟨[.ofValues ⟨"Team", .text, 0⟩ ["b", "", "a"],
      .ofValues ⟨"Note", .text, 1⟩ ["x, \"y\"", "", ""]]⟩
    read {} (Utf8.encode ragged) = .ok t ∧
      ∃ u, reread {} t = .ok u ∧ u.schema = t.schema ∧
        u.rows = [["b", "x, \"y\""], ["a", ""]] ∧ u ≠ t := by
  intro t
  have hread : read {} (Utf8.encode ragged) = .ok t := by decide +kernel
  obtain ⟨u, hagain, hschema, hrows, -, hsame⟩ :=
    exists_reread_of_read (by decide) hread (by decide) (fun _ => by decide)
  have hwritten : writtenRows t.rows = [["b", "x, \"y\""], ["a", ""]] := by decide
  have hblank : ¬∀ row ∈ t.rows, ∃ cell ∈ row, Text.isBlank cell = false := by decide
  exact ⟨hread, u, hagain, hschema, hrows.trans hwritten, fun heq => hblank (hsame.1 heq)⟩

/-! ### What is not read again -/

/-- A table of one column that holds text. -/
def single (name : String) (contents : List String) : Table :=
  ⟨[.ofValues ⟨name, .text, 0⟩ contents]⟩

/-- A blank row, white space behind a mark in a cell, and a mark behind white space in a name
are not found again. -/
theorem reread_ne :
    IsSeparator ({} : Options).delimiter ∧
      (read {} (Utf8.encode "A\n,x\n") = .ok (single "A" [""]) ∧
        reread {} (single "A" [""]) = .ok (single "A" []) ∧
        single "A" [] ≠ single "A" [""]) ∧
      (read {} (Utf8.encode "A\n\ufeff x\n") = .ok (single "A" [" x"]) ∧
        reread {} (single "A" [" x"]) = .ok (single "A" ["x"]) ∧
        single "A" ["x"] ≠ single "A" [" x"]) ∧
      (read {} (Utf8.encode "\ufeff\ufeff \ufeff \ufeffA\nx\n") = .ok (single "\ufeffA" ["x"]) ∧
        reread {} (single "\ufeffA" ["x"]) = .ok (single "A" ["x"]) ∧
        single "A" ["x"] ≠ single "\ufeffA" ["x"]) := by
  decide +kernel

end Delimited
end TableTalk
