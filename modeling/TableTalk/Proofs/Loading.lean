import TableTalk.Delimited.Reader
import TableTalk.Proofs.Failing
import TableTalk.Proofs.Inferring
import TableTalk.Proofs.Tables

/-!
# What is loaded

Bytes hold a table if all of their records are text, one of them is not blank, and the names
that the first such record gives are distinct.  The table then has one column for each name, of
the texts that stand in its place in the rows, and of the type under which all of them read.

## Main definitions

* `Delimited.namesOf` — the column names that the first record gives.
* `Delimited.loaded` — the table of some names and rows.

## Main results

* `Delimited.tableOfRecords_eq_ok_iff` — which records make up a table, and which one.
* `Delimited.exists_loaded_of_read` — what a table that has been read is made of.
* `Delimited.rows_loaded` — the rows of what is loaded are the rows it was made from.
* `Delimited.isSome_read?_of_loaded` — what is loaded reads under the types that are inferred.
* `Delimited.height_le_of_read` — no table has more rows than its source has bytes.
-/

namespace TableTalk

/-! ### Tables from columns and rows -/

theorem firstRepeated?_eq_none_iff {met names : List String} :
    firstRepeated? met names = none ↔ names.Nodup ∧ ∀ name ∈ names, name ∉ met := by
  induction names generalizing met with
  | nil => simp [firstRepeated?]
  | cons name names ih =>
    rw [firstRepeated?]
    split
    · next hmet =>
      have hmem : name ∈ met := by simpa using hmet
      constructor
      · intro h
        cases h
      · intro h
        exact absurd hmem (h.2 name List.mem_cons_self)
    · next hmet =>
      have hmem : name ∉ met := by simpa using hmet
      rw [ih, List.nodup_cons, List.forall_mem_cons]
      constructor
      · rintro ⟨hnodup, hnew⟩
        refine ⟨⟨fun h => hnew name h List.mem_cons_self, hnodup⟩, hmem, ?_⟩
        exact fun other h hother => hnew other h (List.mem_cons_of_mem name hother)
      · rintro ⟨⟨hname, hnodup⟩, -, hnew⟩
        refine ⟨hnodup, fun other h hother => ?_⟩
        rcases List.mem_cons.1 hother with rfl | hother
        · exact hname h
        · exact hnew other h hother

namespace Table

/-- Columns make up a table exactly if it is well-formed. -/
theorem ofColumns_eq_ok_iff {columns : List Column} {t : Table} :
    ofColumns columns = .ok t ↔ (Table.mk columns).WellFormed ∧ t = ⟨columns⟩ := by
  unfold ofColumns WellFormed
  have hnames : firstRepeated? [] (columns.map Column.name) = none ↔ _ :=
    firstRepeated?_eq_none_iff
  cases hrepeated : firstRepeated? [] (columns.map Column.name) with
  | some name =>
    rw [hrepeated] at hnames
    constructor
    · intro h
      cases h
    · rintro ⟨⟨hnodup, -⟩, -⟩
      have := hnames.2 ⟨hnodup, fun _ _ => List.not_mem_nil⟩
      cases this
  | none =>
    have hnodup := (hnames.1 hrepeated).1
    cases hragged : columns.find? (·.size != (Table.mk columns).height) with
    | some c =>
      have hsize := List.find?_some hragged
      constructor
      · intro h
        simp [hragged] at h
      · rintro ⟨⟨-, hall⟩, -⟩
        rw [hall c (List.mem_of_find?_eq_some hragged)] at hsize
        simp at hsize
    | none =>
      have hall : ∀ c ∈ columns, c.size = (Table.mk columns).height := by
        simpa using List.find?_eq_none.1 hragged
      simp only [hragged, Except.ok.injEq]
      exact ⟨fun h => ⟨⟨hnodup, hall⟩, h.symm⟩, fun h => h.2.symm⟩

/-- The table of the rows under some headers. -/
def ofFittedRows (headers : List Header) (rows : List (List String)) : Table :=
  ⟨headers.zipIdx.map fun (h, i) => columnOfRows rows h i⟩

theorem names_ofFittedRows (headers : List Header) (rows : List (List String)) :
    (ofFittedRows headers rows).names = headers.map (·.name) := by
  rw [names, ofFittedRows, List.map_map]
  exact (List.map_map (f := Prod.fst) (g := Header.name)).symm.trans
    (congrArg _ (List.zipIdx_map_fst 0 headers))

theorem size_of_mem_ofFittedRows {headers : List Header} {rows : List (List String)} {c : Column}
    (h : c ∈ (ofFittedRows headers rows).columns) : c.size = rows.length := by
  obtain ⟨⟨header, i⟩, -, rfl⟩ := List.mem_map.1 h
  simp [columnOfRows, Column.ofValues, Column.size]

/-- Rows make up a table exactly if each has one value for each header and the names are
distinct. -/
theorem ofRows_eq_ok_iff {headers : List Header} {rows : List (List String)} {t : Table} :
    ofRows headers rows = .ok t ↔ (∀ row ∈ rows, row.length = headers.length) ∧
      (headers.map (·.name)).Nodup ∧ t = ofFittedRows headers rows := by
  unfold ofRows
  cases hwidth : rows.zipIdx.find? fun x => x.1.length != headers.length with
  | some x =>
    have hne := List.find?_some hwidth
    constructor
    · intro h
      simp [hwidth] at h
    · rintro ⟨hall, -⟩
      have hmem := List.mem_of_find?_eq_some hwidth
      rw [hall x.1 (List.fst_mem_of_mem_zipIdx hmem)] at hne
      simp at hne
  | none =>
    have hall : ∀ row ∈ rows, row.length = headers.length := by
      intro row hrow
      obtain ⟨i, hi⟩ := List.mem_iff_getElem?.1 hrow
      simpa using List.find?_eq_none.1 hwidth _ (List.mk_mem_zipIdx_iff_getElem?.2 hi)
    simp only [hwidth]
    rw [ofColumns_eq_ok_iff]
    constructor
    · rintro ⟨hwell, rfl⟩
      exact ⟨hall, names_ofFittedRows headers rows ▸ hwell.1, rfl⟩
    · rintro ⟨-, hnodup, rfl⟩
      refine ⟨wellFormed_of_size ?_ fun c hc => size_of_mem_ofFittedRows hc, rfl⟩
      exact (names_ofFittedRows headers rows).symm ▸ hnodup

end Table

namespace Delimited

/-! ### Tables from records -/

/-- The column names that the first record gives. -/
def namesOf (first : List String) : List String :=
  first.zipIdx.map fun (raw, i) => columnName raw i

/-- The table of some names and rows. -/
def loaded (o : Options) (names : List String) (rows : List (List String)) : Table :=
  .ofFittedRows (names.zipIdx.map fun (name, i) => headerOf o rows name i) rows

variable {o : Options} {names : List String} {rows : List (List String)} {t : Table}

theorem names_headers (o : Options) (names : List String) (rows : List (List String)) :
    (names.zipIdx.map fun (name, i) => headerOf o rows name i).map (·.name) = names := by
  rw [List.map_map]
  exact List.zipIdx_map_fst 0 names

theorem length_fitRow (width : Nat) (row : List String) : (fitRow width row).length = width := by
  rw [fitRow, List.length_map, List.length_range]

/-- Records make up a table exactly if one of them is not blank and the names that the first
such record gives are distinct. -/
theorem tableOfRecords_eq_ok_iff {records : List (List String)} :
    tableOfRecords o records = .ok t ↔ ∃ first others, keptRecords o records = first :: others ∧
      (namesOf first).Nodup ∧
      t = loaded o (namesOf first) (others.map (fitRow (namesOf first).length)) := by
  unfold tableOfRecords
  cases keptRecords o records with
  | nil => simp
  | cons first others =>
    rw [Except.mapError_eq_ok_iff, Table.ofRows_eq_ok_iff]
    have hnames := names_headers o (namesOf first) (others.map (fitRow (namesOf first).length))
    constructor
    · rintro ⟨-, hnodup, rfl⟩
      exact ⟨first, others, rfl, hnames ▸ hnodup, rfl⟩
    · rintro ⟨_, _, ⟨⟩, hnodup, rfl⟩
      refine ⟨?_, hnames.symm ▸ hnodup, rfl⟩
      intro row hrow
      obtain ⟨raw, -, rfl⟩ := List.mem_map.1 hrow
      simp only [length_fitRow, List.length_map, List.length_zipIdx]

theorem read_eq_ok_iff {bytes : List UInt8} : read o bytes = .ok t ↔
    ∃ records', texts (records o.delimiter bytes) = .ok records' ∧
      tableOfRecords o records' = .ok t := by
  unfold read
  rw [Except.bind_eq_ok_iff]
  simp only [Except.mapError_eq_ok_iff]

/-! ### What is loaded -/

theorem names_loaded (o : Options) (names : List String) (rows : List (List String)) :
    (loaded o names rows).names = names :=
  (Table.names_ofFittedRows _ rows).trans (names_headers o names rows)

theorem wellFormed_loaded (hnodup : names.Nodup) : (loaded o names rows).WellFormed :=
  Table.wellFormed_of_size ((names_loaded o names rows).symm ▸ hnodup) fun _ hc =>
    Table.size_of_mem_ofFittedRows hc

/-- The columns of what is loaded: one for each name, of the texts in its place. -/
theorem mem_columns_loaded {c : Column} : c ∈ (loaded o names rows).columns ↔
    ∃ name i, names[i]? = some name ∧ c = Table.columnOfRows rows (headerOf o rows name i) i := by
  simp only [loaded, Table.ofFittedRows, List.mem_map, Prod.exists, List.mk_mem_zipIdx_iff_getElem?,
    List.getElem?_map, List.getElem?_zipIdx, Option.map_map, Option.map_eq_some_iff]
  constructor
  · rintro ⟨_, i, ⟨name, hname, rfl⟩, rfl⟩
    refine ⟨name, i, hname, ?_⟩
    rw [Function.comp_apply, Nat.zero_add]
  · rintro ⟨name, i, hname, rfl⟩
    refine ⟨_, i, ⟨name, hname, rfl⟩, ?_⟩
    rw [Function.comp_apply, Nat.zero_add]

theorem contents_columnOfRows (header : Header) (i : Nat) :
    (Table.columnOfRows rows header i).contents = rows.map fun row => (row[i]?).getD "" := by
  rw [Table.columnOfRows, Column.ofValues, Column.contents, List.map_map]
  exact List.zipIdx_map_fst 0 _

/-- What is loaded reads under the types that are inferred. -/
theorem isSome_read?_of_loaded (hinfer : o.infer = true) {c : Column}
    (hc : c ∈ (loaded o names rows).columns) {content : String} (hmem : content ∈ c.contents)
    (hwritten : Text.isBlank content = false) :
    (Value.read? c.header.type content).isSome = true := by
  obtain ⟨name, i, -, rfl⟩ := mem_columns_loaded.1 hc
  rw [contents_columnOfRows] at hmem
  have htype : (Table.columnOfRows rows (headerOf o rows name i) i).header.type =
      ColumnType.infer (rows.map fun row => (row[i]?).getD "") := if_pos hinfer
  rw [htype]
  exact ColumnType.readsWritten_infer _ content hmem hwritten

theorem height_loaded_le (o : Options) (names : List String) (rows : List (List String)) :
    (loaded o names rows).height ≤ rows.length := by
  cases hcolumns : (loaded o names rows).columns with
  | nil =>
    rw [Table.height, hcolumns]
    exact Nat.zero_le _
  | cons c cs =>
    have hsize := Table.size_of_mem_ofFittedRows (hcolumns ▸ List.mem_cons_self : c ∈ _)
    rw [Table.height, hcolumns]
    exact Nat.le_of_eq hsize

theorem schema_loaded (o : Options) (names : List String) (rows : List (List String)) :
    (loaded o names rows).schema = ⟨names.zipIdx.map fun (name, i) => headerOf o rows name i⟩ := by
  rw [Table.schema, loaded, Table.ofFittedRows, List.map_map]
  exact congrArg Schema.mk (List.zipIdx_map_fst 0 _)

/-- The rows of what is loaded are counted from zero. -/
theorem positions_loaded {c : Column} (hc : c ∈ (loaded o names rows).columns) :
    c.cells.map Cell.row = List.range rows.length := by
  obtain ⟨name, i, -, rfl⟩ := mem_columns_loaded.1 hc
  rw [Table.columnOfRows, Column.ofValues, List.map_map, List.range_eq_range']
  have hpositions := List.zipIdx_map_snd 0 (rows.map fun row => (row[i]?).getD "")
  rw [List.length_map] at hpositions
  exact hpositions

theorem fitRow_eq_self {row : List String} {width : Nat} (h : row.length = width) :
    fitRow width row = row := by
  subst h
  refine List.ext_getElem (length_fitRow _ _) fun i hi hlt => ?_
  simp [fitRow, hlt]

theorem height_loaded (hne : names ≠ []) : (loaded o names rows).height = rows.length := by
  obtain ⟨name, names, rfl⟩ := List.exists_cons_of_ne_nil hne
  simp [loaded, Table.ofFittedRows, Table.height, Table.columnOfRows, Column.ofValues, Column.size]

theorem rowAt_loaded (o : Options) (names : List String) {i : Nat} {row : List String}
    (h : rows[i]? = some row) : (loaded o names rows).rowAt i = fitRow names.length row := by
  refine List.ext_getElem ?_ fun j hj hlt => ?_
  · simp [Table.rowAt, loaded, Table.ofFittedRows, length_fitRow]
  · simp [Table.rowAt, loaded, Table.ofFittedRows, contents_columnOfRows, fitRow, h]

/-- The rows of what is loaded are the rows it was made from. -/
theorem rows_loaded (hne : names ≠ []) (hnodup : names.Nodup)
    (hwidth : ∀ row ∈ rows, row.length = names.length) : (loaded o names rows).rows = rows := by
  rw [(wellFormed_loaded hnodup).rows_eq, height_loaded hne]
  refine List.ext_getElem (by simp) fun i hi hlt => ?_
  rw [List.getElem_map, List.getElem_range, rowAt_loaded o names (List.getElem?_eq_getElem hlt),
    fitRow_eq_self (hwidth _ (List.getElem_mem hlt))]

/-- What a table that has been read is made of. -/
theorem exists_loaded_of_read {bytes : List UInt8} {t : Table} (h : read o bytes = .ok t) :
    ∃ names rows, t = loaded o names rows ∧ names ≠ [] ∧ names.Nodup ∧
      (∀ name ∈ names, ∃ raw i, name = columnName raw i) ∧
      ∀ row ∈ rows, row.length = names.length ∧
        ∀ cell ∈ row, cell = "" ∨ ∃ raw, cell = cellText o raw := by
  obtain ⟨records', -, h⟩ := read_eq_ok_iff.1 h
  obtain ⟨first, others, hkept, hnodup, rfl⟩ := tableOfRecords_eq_ok_iff.1 h
  have hmem : ∀ record ∈ first :: others, record ≠ [] ∧
      ∀ cell ∈ record, ∃ raw, cell = cellText o raw := by
    intro record hrecord
    rw [← hkept] at hrecord
    obtain ⟨hrecord, hwritten⟩ := List.mem_filter.1 hrecord
    obtain ⟨raws, -, rfl⟩ := List.mem_map.1 hrecord
    constructor
    · intro hnil
      rw [hnil] at hwritten
      cases hwritten
    · intro cell hcell
      obtain ⟨raw, -, rfl⟩ := List.mem_map.1 hcell
      exact ⟨raw, rfl⟩
  refine ⟨_, _, rfl, ?_, hnodup, ?_, ?_⟩
  · have hfirst := (hmem first List.mem_cons_self).1
    simpa [namesOf] using hfirst
  · intro name hname
    obtain ⟨⟨raw, i⟩, -, rfl⟩ := List.mem_map.1 hname
    exact ⟨raw, i, rfl⟩
  · intro row hrow
    obtain ⟨record, hrecord, rfl⟩ := List.mem_map.1 hrow
    refine ⟨length_fitRow _ record, fun cell hcell => ?_⟩
    obtain ⟨i, -, rfl⟩ := List.mem_map.1 hcell
    cases hcell : record[i]? with
    | none => exact .inl rfl
    | some cell =>
      exact .inr ((hmem record (List.mem_cons_of_mem _ hrecord)).2 cell
        (List.mem_of_getElem? hcell))

/-! ### Rows and bytes -/

theorem length_recordsFrom_le (delimiter : UInt8) (start here : Position) (s : Scanner)
    (bytes : List UInt8) :
    (recordsFrom delimiter start here s bytes).length ≤ bytes.length + 1 := by
  induction bytes generalizing start here s with
  | nil =>
    rw [recordsFrom]
    cases s.finish <;> simp
  | cons b bytes ih =>
    rw [recordsFrom]
    split
    · exact Nat.le_trans (ih _ _ _) (Nat.le_succ _)
    · exact Nat.succ_le_succ (ih _ _ _)

theorem length_records_le (delimiter : UInt8) (bytes : List UInt8) :
    (records delimiter bytes).length ≤ bytes.length + 1 := by
  unfold records
  split
  · refine Nat.le_trans (length_recordsFrom_le _ _ _ _ _) ?_
    rw [List.length_drop]
    omega
  · exact length_recordsFrom_le _ _ _ _ _

theorem length_texts {rs : List Record} {ts : List (List String)} (h : texts rs = .ok ts) :
    ts.length = rs.length := by
  induction rs generalizing ts with
  | nil =>
    cases h
    rfl
  | cons r rs ih =>
    obtain ⟨row, -, h⟩ := Except.bind_eq_ok_iff.1 h
    obtain ⟨rest, hrest, h⟩ := Except.bind_eq_ok_iff.1 h
    cases h
    rw [List.length_cons, ih hrest, List.length_cons]

/-- No table has more rows than its source has bytes. -/
theorem height_le_of_read {bytes : List UInt8} (h : read o bytes = .ok t) :
    t.height ≤ bytes.length := by
  obtain ⟨ts, htexts, h⟩ := read_eq_ok_iff.1 h
  obtain ⟨first, others, hkept, -, rfl⟩ := tableOfRecords_eq_ok_iff.1 h
  have hfilter : (keptRecords o ts).length ≤ (ts.map fun r => r.map (cellText o)).length :=
    List.length_filter_le _ _
  have hbytes := length_records_le o.delimiter bytes
  rw [hkept, List.length_cons, List.length_map, length_texts htexts] at hfilter
  refine Nat.le_trans (height_loaded_le _ _ _) ?_
  rw [List.length_map]
  omega

end Delimited
end TableTalk
