import Mathlib.Data.List.Chain
import TableTalk.Proofs.Restoring

/-!
# What records come to as a table

Records of blank cells are passed over.  The first of the others is the header, and there is a
column for each of its cells, whatever the further records look like: each of them is one row,
which is cut off or filled up with empty cells to the width of the header.  So rows are never of
the wrong width and columns never of unequal length, and the one thing that can go wrong is that
the header names two columns alike.  Then the first name that is met again is reported.

## Main definitions

* `FirstRepeat` — the first name of a list that stands further in front as well.
* `Text.Tidy` — a text without white space at its ends and without two pieces of it in a row.
* `Delimited.Tabulated` — the table that a header and some records come to.

## Main results

* `Table.ofRows_eq_error_iff` — rows of one width fail to form a table only by a repeated name.
* `Text.tidy_collapse` — reducing white space leaves a text tidy, or nothing.
* `Delimited.tabulated_of_texts` — **what records come to: nothing, a name that is met again, or
  a table of all their cells.**
-/

namespace TableTalk

/-! ### The first name that is met again -/

/-- The first name of a list that stands further in front as well. -/
def FirstRepeat (names : List String) (name : String) : Prop :=
  ∃ front back, names = front ++ name :: back ∧ front.Nodup ∧ name ∈ front

/-- The first name of a list that stands further in front or has been met before. -/
def FirstMet (met names : List String) (name : String) : Prop :=
  ∃ front back, names = front ++ name :: back ∧ front.Nodup ∧ (∀ x ∈ front, x ∉ met) ∧
    (name ∈ met ∨ name ∈ front)

section

variable {met names : List String} {next name : String}

theorem firstMet_cons_of_mem (hmet : next ∈ met) :
    FirstMet met (next :: names) name ↔ next = name := by
  constructor
  · rintro ⟨front, back, heq, -, hnew, -⟩
    -- No name that has been met before is among those that are passed over.
    cases front with
    | nil => exact (List.cons.inj heq).1
    | cons x front =>
      rw [(List.cons.inj heq).1] at hmet
      exact absurd hmet (hnew x List.mem_cons_self)
  · rintro rfl
    exact ⟨[], names, rfl, List.nodup_nil, by simp, .inl hmet⟩

theorem firstMet_cons_of_notMem (hmet : next ∉ met) :
    FirstMet met (next :: names) name ↔ FirstMet (next :: met) names name := by
  constructor
  · rintro ⟨front, back, heq, hnodup, hnew, hname⟩
    cases front with
    | nil =>
      rw [(List.cons.inj heq).1] at hmet
      simp [hmet] at hname
    | cons x front =>
      obtain ⟨rfl, rfl⟩ := List.cons.inj heq
      obtain ⟨hnext, hnodup⟩ := List.nodup_cons.1 hnodup
      refine ⟨front, back, rfl, hnodup, ?_, ?_⟩
      · intro y hy
        rw [List.mem_cons, not_or]
        exact ⟨fun heq => hnext (heq ▸ hy), hnew y (List.mem_cons_of_mem _ hy)⟩
      · simpa [or_assoc, or_left_comm] using hname
  · rintro ⟨front, back, rfl, hnodup, hnew, hname⟩
    have hnext : next ∉ front := fun h => hnew next h List.mem_cons_self
    refine ⟨next :: front, back, rfl, List.nodup_cons.2 ⟨hnext, hnodup⟩, ?_, ?_⟩
    · intro x hx
      rcases List.mem_cons.1 hx with rfl | hx
      · exact hmet
      · exact fun h => hnew x hx (List.mem_cons_of_mem next h)
    · simpa [or_assoc, or_left_comm] using hname

/-- The search for a repeated name stops at the first one that has been met, in the list or
before it. -/
theorem firstRepeated?_eq_some_iff :
    firstRepeated? met names = some name ↔ FirstMet met names name := by
  induction names generalizing met with
  | nil => simp [firstRepeated?, FirstMet]
  | cons next names ih =>
    rw [firstRepeated?]
    by_cases hmet : next ∈ met
    · rw [if_pos (List.contains_iff_mem.2 hmet), Option.some.injEq, firstMet_cons_of_mem hmet]
    · rw [if_neg (by simpa using hmet), ih, firstMet_cons_of_notMem hmet]

theorem firstRepeated?_nil_eq_some_iff :
    firstRepeated? [] names = some name ↔ FirstRepeat names name := by
  simp [firstRepeated?_eq_some_iff, FirstMet, FirstRepeat]

end

/-- Names are met again exactly if they are not distinct. -/
theorem exists_firstRepeat_iff {names : List String} :
    (∃ name, FirstRepeat names name) ↔ ¬names.Nodup := by
  have hnone : firstRepeated? [] names = none ↔ names.Nodup := by
    simp [firstRepeated?_eq_none_iff]
  rw [← hnone, ← ne_eq, Option.ne_none_iff_exists']
  simp only [firstRepeated?_nil_eq_some_iff]

namespace Table

variable {headers : List Header} {rows : List (List String)}

/-- Rows of one width are put into columns as they are. -/
theorem ofRows_of_width (hwidth : ∀ row ∈ rows, row.length = headers.length) :
    ofRows headers rows = ofColumns (ofFittedRows headers rows).columns := by
  have hnone : rows.zipIdx.find? (fun x => x.1.length != headers.length) = none := by
    rw [List.find?_eq_none]
    intro x hx
    simp [hwidth x.1 (List.fst_mem_of_mem_zipIdx hx)]
  unfold ofRows
  simp only [hnone]
  rfl

/-- Rows of one width fail to form a table only by a repeated name. -/
theorem ofRows_eq_error_iff (hwidth : ∀ row ∈ rows, row.length = headers.length)
    {e : TableError} : ofRows headers rows = .error e ↔
      ∃ name, FirstRepeat (headers.map (·.name)) name ∧ e = .duplicateName name := by
  have hnames : (ofFittedRows headers rows).columns.map Column.name = headers.map (·.name) :=
    names_ofFittedRows headers rows
  simp only [← firstRepeated?_nil_eq_some_iff]
  cases hrepeat : firstRepeated? [] (headers.map (·.name)) with
  | some name =>
    rw [ofRows_of_width hwidth, ofColumns, hnames, hrepeat]
    simp [eq_comm]
  | none =>
    have hnodup := (firstRepeated?_eq_none_iff.1 hrepeat).1
    rw [ofRows_eq_ok_iff.2 ⟨hwidth, hnodup, rfl⟩]
    simp

end Table

namespace Text

/-! ### Tidy texts -/

/-- A text without white space at its ends and without two pieces of it in a row. -/
structure Tidy (s : String) : Prop where
  /-- There is a character. -/
  ne_empty : s ≠ ""
  /-- There is no white space at the front. -/
  head : ∀ c ∈ s.toList.head?, isBlankChar c = false
  /-- There is no white space at the end. -/
  last : ∀ c ∈ s.toList.getLast?, isBlankChar c = false
  /-- White space does not stand behind white space. -/
  apart : s.toList.IsChain fun a b => isBlankChar a = false ∨ isBlankChar b = false

theorem Proper.tidy {s : String} (h : Proper s)
    (hapart : s.toList.IsChain fun a b => isBlankChar a = false ∨ isBlankChar b = false) :
    Tidy s := by
  have hne := h.toList_ne_nil
  refine ⟨h.ne_empty, ?_, ?_, hapart⟩
  · intro c hc
    rw [List.head?_eq_some_head hne, Option.mem_some_iff] at hc
    exact hc ▸ h.head_eq hne
  · intro c hc
    rw [List.getLast?_eq_some_getLast hne, Option.mem_some_iff] at hc
    exact hc ▸ h.getLast_eq hne

theorem IsWord.isChain {s : String} (h : IsWord s) :
    s.toList.IsChain fun a b => isBlankChar a = false ∨ isBlankChar b = false :=
  (List.pairwise_of_forall_mem_list fun a ha _ _ => .inl (h.kept a ha)).isChain

/-- Between words with one space between two of them, no white space stands behind white
space. -/
theorem isChain_intercalate {texts : List String} (h : ∀ text ∈ texts, IsWord text) :
    (" ".intercalate texts).toList.IsChain fun a b =>
      isBlankChar a = false ∨ isBlankChar b = false := by
  induction texts with
  | nil => simp
  | cons text texts ih =>
    have htext := h text List.mem_cons_self
    have hrest : ∀ t ∈ texts, IsWord t := fun t ht => h t (List.mem_cons_of_mem text ht)
    cases texts with
    | nil =>
      rw [String.intercalate_singleton]
      exact htext.isChain
    | cons next texts =>
      have hproper := proper_intercalate (List.cons_ne_nil next texts)
        (fun t ht => (hrest t ht).proper) " "
      have hchars : (" ".intercalate (text :: next :: texts)).toList =
          text.toList ++ ' ' :: (" ".intercalate (next :: texts)).toList := by
        rw [String.intercalate_cons_cons, String.toList_append, String.toList_append,
          List.append_assoc]
        rfl
      rw [hchars, List.isChain_append, List.isChain_cons]
      refine ⟨htext.isChain, ⟨?_, ih hrest⟩, ?_⟩
      · intro c hc
        rw [List.head?_eq_some_head hproper.toList_ne_nil, Option.mem_some_iff] at hc
        exact .inr (hc ▸ hproper.head_eq _)
      · intro c hc _ _
        exact .inl (htext.kept c (List.mem_of_getLast? hc))

/-- Reducing white space leaves a text tidy, or nothing. -/
theorem tidy_collapse {s : String} (h : (collapse s).isEmpty = false) : Tidy (collapse s) :=
  (proper_collapse h).tidy (isChain_intercalate fun _ => isWord_of_mem_words)

end Text

namespace Delimited

variable {o : Options} {bytes : List UInt8} {rs : List (List String)} {first : List String}
  {others : List (List String)}

/-- Every name is tidy, whether a header cell gives it or it is numbered. -/
theorem tidy_columnName (raw : String) (i : Nat) : Text.Tidy (columnName raw i) := by
  unfold columnName
  dsimp only
  split
  · exact (isWord_numbered i).proper.tidy (isWord_numbered i).isChain
  · next hne => exact Text.tidy_collapse (Bool.eq_false_iff.2 hne)

/-! ### Failures -/

theorem read_of_texts (htexts : texts (records o.delimiter bytes) = .ok rs) :
    read o bytes = tableOfRecords o rs := by
  unfold read
  rw [htexts]
  rfl

/-- Records fail to make up a table only if all of them are blank or a name is repeated. -/
theorem tableOfRecords_eq_error_iff {e : ReadError} : tableOfRecords o rs = .error e ↔
    (keptRecords o rs = [] ∧ e = .noHeader) ∨
      ∃ first others name, keptRecords o rs = first :: others ∧
        FirstRepeat (namesOf first) name ∧ e = .invalidTable (.duplicateName name) := by
  unfold tableOfRecords
  cases keptRecords o rs with
  | nil => simp [eq_comm]
  | cons first others =>
    let rows := others.map (fitRow (namesOf first).length)
    let headers := (namesOf first).zipIdx.map fun x => headerOf o rows x.1 x.2
    have hnames : headers.map (·.name) = namesOf first := names_headers o (namesOf first) rows
    have hwidth : ∀ row ∈ rows, row.length = headers.length := by
      intro row hrow
      obtain ⟨record, -, rfl⟩ := List.mem_map.1 hrow
      simp only [headers, length_fitRow, List.length_map, List.length_zipIdx]
    show (Table.ofRows headers rows).mapError ReadError.invalidTable = .error e ↔ _
    rw [Except.mapError_eq_error_iff]
    simp only [Table.ofRows_eq_error_iff hwidth, hnames]
    constructor
    · rintro ⟨_, ⟨name, hrepeat, rfl⟩, rfl⟩
      exact .inr ⟨first, others, name, rfl, hrepeat, rfl⟩
    · rintro (⟨hnil, -⟩ | ⟨_, _, name, ⟨⟩, hrepeat, rfl⟩)
      · cases hnil
      · exact ⟨_, ⟨name, hrepeat, rfl⟩, rfl⟩

/-- With a header, only a repeated name fails. -/
theorem tableOfRecords_eq_error_iff_of_kept (hkept : keptRecords o rs = first :: others)
    {e : ReadError} : tableOfRecords o rs = .error e ↔
      ∃ name, FirstRepeat (namesOf first) name ∧ e = .invalidTable (.duplicateName name) := by
  rw [tableOfRecords_eq_error_iff, hkept]
  simp

/-- With a header, a table is made exactly if the names are distinct. -/
theorem exists_tableOfRecords_iff (hkept : keptRecords o rs = first :: others) :
    (∃ t, tableOfRecords o rs = .ok t) ↔ (namesOf first).Nodup := by
  constructor
  · rintro ⟨t, ht⟩
    obtain ⟨first', others', hkept', hnodup, -⟩ := tableOfRecords_eq_ok_iff.1 ht
    rw [hkept] at hkept'
    exact (List.cons.inj hkept').1 ▸ hnodup
  · intro hnodup
    exact ⟨_, tableOfRecords_eq_ok_iff.2 ⟨first, others, hkept, hnodup, rfl⟩⟩

/-! ### Tables -/

/-- The table that a header and some records come to. -/
structure Tabulated (o : Options) (first : List String) (others : List (List String))
    (t : Table) : Prop where
  /-- There are as many columns as the header has cells. -/
  width : t.width = first.length
  /-- There are as many rows as there are records. -/
  height : t.height = others.length
  /-- The names are distinct, and all columns are of one length. -/
  wellFormed : t.WellFormed
  /-- A column is named by the header cell in its place.  Its cells are those in its place in the
  records, in their order, and empty where a record is too short. -/
  column : ∀ i raw, first[i]? = some raw → ∃ c, t.columns[i]? = some c ∧
    c.name = columnName raw i ∧ c.header.ordinal = i ∧
    c.header.type = (if o.infer then ColumnType.infer c.contents else .text) ∧
    ∀ r record, others[r]? = some record → c.cells[r]? = some (Cell.mk ((record[i]?).getD "") r)
  /-- No name is empty or has white space at its ends or two pieces of it in a row. -/
  tidy : ∀ name ∈ t.names, Text.Tidy name

theorem getElem?_namesOf (first : List String) (i : Nat) :
    (namesOf first)[i]? = first[i]?.map fun raw => columnName raw i := by
  simp [namesOf, Function.comp_def]

theorem length_namesOf (first : List String) : (namesOf first).length = first.length := by
  simp [namesOf]

/-- A fitted row has a cell in every place, so that no place is looked up in vain. -/
theorem getElem?_fitRow {width i : Nat} (h : i < width) (row : List String) :
    (fitRow width row)[i]? = some ((row[i]?).getD "") := by
  simp [fitRow, h]

theorem getElem?_cells_ofValues (header : Header) (values : List String) (r : Nat) :
    (Column.ofValues header values).cells[r]? =
      values[r]?.map fun content => Cell.mk content r := by
  simp [Column.ofValues, Function.comp_def]

/-- The column under a name of what is loaded. -/
theorem exists_column_loaded {names : List String} {name : String} {i : Nat}
    (hname : names[i]? = some name) (rows : List (List String)) :
    ∃ c, (loaded o names rows).columns[i]? = some c ∧ c.name = name ∧ c.header.ordinal = i ∧
      c.header.type = (if o.infer then ColumnType.infer c.contents else .text) ∧
      ∀ r row, rows[r]? = some row → c.cells[r]? = some (Cell.mk ((row[i]?).getD "") r) := by
  have hcolumn := getElem?_columns_loaded o names rows i
  rw [hname, Option.map_some] at hcolumn
  refine ⟨_, hcolumn, rfl, rfl, ?_, ?_⟩
  · rw [contents_columnOfRows]
    rfl
  · intro r row hrow
    rw [Table.columnOfRows, getElem?_cells_ofValues, List.getElem?_map, hrow]
    rfl

theorem tabulated_loaded (o : Options) (hne : first ≠ []) (others : List (List String))
    (hnodup : (namesOf first).Nodup) :
    Tabulated o first others
      (loaded o (namesOf first) (others.map (fitRow (namesOf first).length))) := by
  have hnames : namesOf first ≠ [] := by
    rw [← List.length_pos_iff, length_namesOf]
    exact List.length_pos_iff.2 hne
  constructor
  · simp [Table.width, loaded, Table.ofFittedRows, length_namesOf]
  · rw [height_loaded hnames, List.length_map]
  · exact wellFormed_loaded hnodup
  · intro i raw hraw
    have hname : (namesOf first)[i]? = some (columnName raw i) := by
      rw [getElem?_namesOf, hraw, Option.map_some]
    obtain ⟨hlt, -⟩ := List.getElem?_eq_some_iff.1 hname
    obtain ⟨c, hc, hcname, hordinal, htype, hcells⟩ := exists_column_loaded (o := o) hname
      (others.map (fitRow (namesOf first).length))
    refine ⟨c, hc, hcname, hordinal, htype, fun r record hrecord => ?_⟩
    have hrow : (others.map (fitRow (namesOf first).length))[r]? =
        some (fitRow (namesOf first).length record) := by
      rw [List.getElem?_map, hrecord, Option.map_some]
    rw [hcells r _ hrow, getElem?_fitRow hlt, Option.getD_some]
  · intro name hname
    rw [names_loaded] at hname
    obtain ⟨⟨raw, i⟩, -, rfl⟩ := List.mem_map.1 hname
    exact tidy_columnName raw i

theorem ne_nil_of_keptRecords (h : keptRecords o rs = first :: others) : first ≠ [] := by
  rintro rfl
  have hmem : [] ∈ keptRecords o rs := h ▸ List.mem_cons_self
  have hwritten := (List.mem_filter.1 hmem).2
  cases hwritten

/-- **What records come to.**  There is no header exactly if all records are blank.  Otherwise a
table is made unless the header names two columns alike, and then the first name that is met
again is reported and nothing else.  The table has a column for each cell of the header and a row
for each further record that is not blank, in order and with all of its cells up to the width of
the header. -/
theorem tabulated_of_texts (htexts : texts (records o.delimiter bytes) = .ok rs) :
    (read o bytes = .error .noHeader ↔ keptRecords o rs = []) ∧
    ∀ first others, keptRecords o rs = first :: others →
      ((∃ e, read o bytes = .error e) ↔ ¬(namesOf first).Nodup) ∧
      (∀ e, read o bytes = .error e ↔
        ∃ name, FirstRepeat (namesOf first) name ∧ e = .invalidTable (.duplicateName name)) ∧
      ((namesOf first).Nodup → ∃ t, read o bytes = .ok t ∧ Tabulated o first others t) := by
  rw [read_of_texts htexts]
  constructor
  · rw [tableOfRecords_eq_error_iff]
    simp
  · intro first others hkept
    refine ⟨?_, fun e => tableOfRecords_eq_error_iff_of_kept hkept, ?_⟩
    · rw [← exists_firstRepeat_iff]
      simp only [tableOfRecords_eq_error_iff_of_kept hkept]
      constructor
      · rintro ⟨_, name, hrepeat, -⟩
        exact ⟨name, hrepeat⟩
      · rintro ⟨name, hrepeat⟩
        exact ⟨_, name, hrepeat, rfl⟩
    · intro hnodup
      refine ⟨_, tableOfRecords_eq_ok_iff.2 ⟨first, others, hkept, hnodup, rfl⟩, ?_⟩
      exact tabulated_loaded o (ne_nil_of_keptRecords hkept) others hnodup

/-- A blank record in front of the header, a header cell without a name, and behind them a record
that is too wide, a blank one, one that is blank up to the width of the header, and a short one. -/
def jumbled : String := " , \n Team ,,Note\nb,\"x, y\",1,extra\n\t,\n,,,z\na\n"

/-- Two names that are met again, the second of them first. -/
def recurring : String := "\n\na,b c,d, b  c ,a\n1\n"

theorem tabulated_of_texts_jumbled :
    (∃ rs, texts (records 0x2C (Utf8.encode jumbled)) = .ok rs ∧
      keptRecords {} rs =
        ["Team", "", "Note"] :: [["b", "x, y", "1", "extra"], ["", "", "", "z"], ["a"]] ∧
      ∃ t, read {} (Utf8.encode jumbled) = .ok t ∧ t.width = 3 ∧ t.height = 3 ∧
        ∃ c, t.columns[1]? = some c ∧ c.name = "Column2" ∧
          c.cells[0]? = some ⟨"x, y", 0⟩ ∧ c.cells[2]? = some ⟨"", 2⟩) ∧
    ∃ rs, texts (records 0x2C (Utf8.encode recurring)) = .ok rs ∧
      keptRecords {} rs = [["a", "b c", "d", "b  c", "a"], ["1"]] ∧
      read {} (Utf8.encode recurring) = .error (.invalidTable (.duplicateName "b c")) := by
  constructor
  · have htexts : texts (records 0x2C (Utf8.encode jumbled)) = .ok [[" ", " "],
        [" Team ", "", "Note"], ["b", "x, y", "1", "extra"], ["\t", ""], ["", "", "", "z"],
        ["a"]] := by decide +kernel
    have hkept : keptRecords {} [[" ", " "], [" Team ", "", "Note"], ["b", "x, y", "1", "extra"],
        ["\t", ""], ["", "", "", "z"], ["a"]] =
        ["Team", "", "Note"] :: [["b", "x, y", "1", "extra"], ["", "", "", "z"], ["a"]] := by
      decide +kernel
    have hnodup : (namesOf ["Team", "", "Note"]).Nodup := by decide
    obtain ⟨t, hread, ht⟩ := ((tabulated_of_texts (o := {}) htexts).2 _ _ hkept).2.2 hnodup
    obtain ⟨c, hc, hname, -, -, hcells⟩ := ht.column 1 "" rfl
    exact ⟨_, htexts, hkept, t, hread, ht.width, ht.height, c, hc, hname.trans (by decide),
      hcells 0 _ rfl, hcells 2 _ rfl⟩
  · have htexts : texts (records 0x2C (Utf8.encode recurring)) =
        .ok [["a", "b c", "d", " b  c ", "a"], ["1"]] := by decide +kernel
    have hkept : keptRecords {} [["a", "b c", "d", " b  c ", "a"], ["1"]] =
        ["a", "b c", "d", "b  c", "a"] :: [["1"]] := by decide +kernel
    have hnames : namesOf ["a", "b c", "d", "b  c", "a"] = ["a", "b c", "d", "b c", "a"] := by
      decide
    have herror := ((tabulated_of_texts (o := {}) htexts).2 _ _ hkept).2.1
    refine ⟨_, htexts, hkept, (herror _).2 ⟨"b c", ?_, rfl⟩⟩
    rw [hnames]
    exact ⟨["a", "b c", "d"], ["a"], rfl, by decide, by decide⟩

end Delimited
end TableTalk
