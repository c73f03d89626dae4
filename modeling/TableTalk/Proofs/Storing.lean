import TableTalk.Proofs.Compact
import TableTalk.Proofs.Loading
import TableTalk.Table.Storage

/-!
# Stored tables are read as they are

A table is stored as a document, and read from it whatever its columns are: reading checks nothing
beyond the form, in which each position has to fit into a machine word.  Names may repeat, and a
column may end before the first one does, so that some rows cannot be read.

## Main definitions

* `Column.Storable`, `Table.Storable` — positions fit into machine words.

## Main results

* `Table.ofText?_text` — a storable table is read as it is stored.
* `Table.stored_iff` — **the tables that can be read are the storable ones**, well-formed or not.
-/

namespace TableTalk

/-! ### Cells, headers and columns -/

namespace Cell

theorem plain_toJson (c : Cell) : (Stored.toJson c).Plain := by
  refine .object ?_
  rw [List.forall_mem_cons, List.forall_mem_singleton]
  exact ⟨.string _, .natural _⟩

theorem ofJson?_toJson {c : Cell} (h : c.row < positionLimit) :
    Stored.ofJson? (Stored.toJson c) = some c := by
  have hfields : Json.fields? ["content", "row_index"] (Stored.toJson c) =
      some [some (.string c.content), some (.natural c.row)] := Json.fields?_object rfl (by simp)
  have hrow : position? (.natural c.row) = some c.row := Json.natural?_natural h
  simp only [Stored.ofJson?, hfields, hrow]
  rfl

theorem row_lt_of_ofJson? {j : Json} {c : Cell} (h : Stored.ofJson? j = some c) :
    c.row < positionLimit := by
  simp only [Stored.ofJson?] at h
  split at h
  · simp only [Option.bind_eq_bind, Option.bind_eq_some_iff] at h
    obtain ⟨content, -, row, hrow, h⟩ := h
    cases h
    exact Json.lt_of_natural? hrow
  · cases h

end Cell

namespace Header

theorem plain_toJson (h : Header) : (Stored.toJson h).Plain := by
  refine .object ?_
  rw [List.forall_mem_cons, List.forall_mem_cons, List.forall_mem_singleton]
  exact ⟨.string _, .string _, .natural _⟩

theorem ofJson?_toJson {h : Header} (hordinal : h.ordinal < positionLimit) :
    Stored.ofJson? (Stored.toJson h) = some h := by
  have hfields : Json.fields? ["name", "data_type", "ordinal"] (Stored.toJson h) =
      some [some (.string h.name), some (Stored.toJson h.type), some (.natural h.ordinal)] :=
    Json.fields?_object rfl (by simp)
  have htype : Json.word? (Stored.toJson h.type) = some h.type := by
    cases h.type <;> rfl
  have hposition : position? (.natural h.ordinal) = some h.ordinal :=
    Json.natural?_natural hordinal
  simp only [Stored.ofJson?, hfields, htype, hposition]
  rfl

theorem ordinal_lt_of_ofJson? {j : Json} {h : Header} (hread : Stored.ofJson? j = some h) :
    h.ordinal < positionLimit := by
  simp only [Stored.ofJson?] at hread
  split at hread
  · simp only [Option.bind_eq_bind, Option.bind_eq_some_iff] at hread
    obtain ⟨name, -, type, -, ordinal, hordinal, hread⟩ := hread
    cases hread
    exact Json.lt_of_natural? hordinal
  · cases hread

end Header

namespace Column

/-- The place of the column and the rows of its cells fit into machine words. -/
def Storable (c : Column) : Prop :=
  c.header.ordinal < positionLimit ∧ ∀ cell ∈ c.cells, cell.row < positionLimit

theorem plain_toJson (c : Column) : (Stored.toJson c).Plain := by
  refine .object ?_
  rw [List.forall_mem_cons, List.forall_mem_singleton]
  refine ⟨c.header.plain_toJson, .array fun item hitem => ?_⟩
  obtain ⟨cell, -, rfl⟩ := List.mem_map.1 hitem
  exact cell.plain_toJson

theorem ofJson?_toJson {c : Column} (h : c.Storable) :
    Stored.ofJson? (Stored.toJson c) = some c := by
  have hfields : Json.fields? ["header", "data"] (Stored.toJson c) =
      some [some (Stored.toJson c.header), some (.array (c.cells.map Stored.toJson))] :=
    Json.fields?_object rfl (by simp)
  have hheader := Header.ofJson?_toJson h.1
  have hcells := Json.list?_map fun cell hcell => Cell.ofJson?_toJson (h.2 cell hcell)
  simp only [Stored.ofJson?] at hheader hcells ⊢
  simp only [hfields, hheader, hcells]
  rfl

theorem storable_of_ofJson? {j : Json} {c : Column} (h : Stored.ofJson? j = some c) :
    c.Storable := by
  simp only [Stored.ofJson?] at h
  split at h
  · simp only [Option.bind_eq_bind, Option.bind_eq_some_iff] at h
    obtain ⟨header, hheader, cells, hcells, h⟩ := h
    cases h
    refine ⟨Header.ordinal_lt_of_ofJson? hheader, fun cell hcell => ?_⟩
    obtain ⟨item, hitem⟩ := Json.exists_of_list? hcells hcell
    exact Cell.row_lt_of_ofJson? hitem
  · cases h

end Column

/-! ### Tables -/

namespace Table

/-- Every column is storable. -/
def Storable (t : Table) : Prop := ∀ c ∈ t.columns, c.Storable

instance (t : Table) : Decidable t.Storable :=
  inferInstanceAs (Decidable (∀ c ∈ t.columns, c.header.ordinal < positionLimit ∧
    ∀ cell ∈ c.cells, cell.row < positionLimit))

variable {t : Table}

/-- A storable table is read as it is stored. -/
theorem ofText?_text (h : t.Storable) : Stored.ofText? (Stored.text t) = some t := by
  refine Stored.ofText?_text ?_ ?_
  · refine .object ?_
    rw [List.forall_mem_singleton]
    refine .array fun item hitem => ?_
    obtain ⟨c, -, rfl⟩ := List.mem_map.1 hitem
    exact c.plain_toJson
  · have hfields : Json.fields? ["fields"] (Stored.toJson t) =
        some [some (.array (t.columns.map Stored.toJson))] := Json.fields?_object rfl (by simp)
    have hcolumns := Json.list?_map fun c hc => Column.ofJson?_toJson (h c hc)
    simp only [Stored.ofJson?] at hcolumns ⊢
    simp only [hfields, hcolumns]
    rfl

theorem storable_of_ofText? {text : String} (h : Stored.ofText? text = some t) : t.Storable := by
  obtain ⟨j, -, hread⟩ := Option.bind_eq_some_iff.1 h
  simp only [Stored.ofJson?] at hread
  split at hread
  · simp only [Option.bind_eq_bind, Option.bind_eq_some_iff] at hread
    obtain ⟨columns, hcolumns, hread⟩ := hread
    cases hread
    intro c hc
    obtain ⟨item, hitem⟩ := Json.exists_of_list? hcolumns hc
    exact Column.storable_of_ofJson? hitem
  · cases hread

/-- **The tables that can be read are the storable ones**, each of them from its own text.  Names
and lengths play no part in this.  The columns of such a table make up the same table only if it
is well-formed, and its rows can only be read if no column ends before the first one does. -/
theorem stored_iff (t : Table) :
    (Stored.ofText? (Stored.text t) = some t ↔ t.Storable) ∧
      ((∃ text, Stored.ofText? text = some t) ↔ t.Storable) ∧
      (ofColumns t.columns = .ok t ↔
        t.names.Nodup ∧ ∀ c ∈ t.columns, c.size = t.height) ∧
      ((∀ i < t.height, (t.row? i).isSome = true) ↔ ∀ c ∈ t.columns, t.height ≤ c.size) := by
  refine ⟨⟨storable_of_ofText?, ofText?_text⟩, ⟨?_, fun h => ⟨_, ofText?_text h⟩⟩, ?_, ?_⟩
  · rintro ⟨text, h⟩
    exact storable_of_ofText? h
  · rw [ofColumns_eq_ok_iff]
    exact and_iff_left rfl
  · simp only [isSome_row?_iff]
    constructor
    · intro h c hc
      by_contra hshort
      -- The row behind the last cell of the column is a row of the table.
      exact absurd (h c.size (Nat.not_le.1 hshort) c hc) (Nat.lt_irrefl _)
    · exact fun h i hi c hc => Nat.lt_of_lt_of_le hi (h c hc)

/-- Two columns of one name, the second of which has no cells. -/
def twins : Table := ⟨[.ofValues ⟨"A", .text, 0⟩ ["x"], .ofValues ⟨"A", .text, 1⟩ []]⟩

theorem unsound_of_stored :
    let text := "\x7b\"fields\":[" ++
      "\x7b\"header\":\x7b\"name\":\"A\",\"data_type\":\"String\",\"ordinal\":0\x7d," ++
        "\"data\":[\x7b\"content\":\"x\",\"row_index\":0\x7d]\x7d," ++
      "\x7b\"header\":\x7b\"name\":\"A\",\"data_type\":\"String\",\"ordinal\":1\x7d," ++
        "\"data\":[]\x7d]\x7d"
    Stored.ofText? text = some twins ∧ ¬twins.names.Nodup ∧
      (∃ c ∈ twins.columns, c.size ≠ twins.height) ∧ 0 < twins.height ∧ twins.row? 0 = none := by
  intro text
  have htext : text = Stored.text twins := by decide +kernel
  have hstorable : twins.Storable := by decide
  exact ⟨htext ▸ ofText?_text hstorable, by decide, by decide, by decide, by decide⟩

end Table
end TableTalk
