import TableTalk.Proofs.Reading
import TableTalk.Table.Value

/-!
# What the cells of a column rule out

The types of a column are ruled out one cell after the other.  In the end the types are left
under which every written cell reads, in the order in which they are tried, and the first of
them is the type of the column.  So only the written cells count, and neither how often one of
them occurs nor where.

## Main definitions

* `ColumnType.ReadsWritten` — every text that is not blank reads under a type.

## Main results

* `Value.read?_trim` — white space around a text does not count.
* `ColumnType.inferFrom_eq` — **what is inferred after any number of cells.**
* `ColumnType.infer_congr` — columns with the same written cells have one type.
-/

namespace TableTalk

/-- White space around a text does not count, unless the text itself is the value. -/
theorem Value.read?_trim {type : ColumnType} (htype : type ≠ .text) (s : String) :
    read? type (Text.trim s) = read? type s := by
  cases type with
  | text => exact absurd rfl htype
  | bool => simp only [read?, readBool?, Text.trim_trim]
  | number => simp only [read?, readNumber?, Text.trim_trim]
  | date => simp only [read?, Moment.read?, Text.trim_trim]

/-- A blank text is a text only. -/
theorem Value.read?_of_isBlank {type : ColumnType} (htype : type ≠ .text) {s : String}
    (h : Text.isBlank s = true) : read? type s = none := by
  rw [← Text.isEmpty_trim, String.isEmpty_iff] at h
  rw [← read?_trim htype, h]
  cases type with
  | text => exact absurd rfl htype
  | bool | number | date => rfl

namespace ColumnType

/-- Every text that is not blank reads under the type. -/
def ReadsWritten (type : ColumnType) (values : List String) : Prop :=
  ∀ s ∈ values, Text.isBlank s = false → (Value.read? type s).isSome = true

instance (type : ColumnType) (values : List String) : Decidable (type.ReadsWritten values) :=
  inferInstanceAs (Decidable (∀ s ∈ values, Text.isBlank s = false → _))

theorem readsWritten_cons_of_isBlank {type : ColumnType} {value : String} {values : List String}
    (h : Text.isBlank value = true) :
    type.ReadsWritten (value :: values) ↔ type.ReadsWritten values := by
  simp [ReadsWritten, h]

theorem readsWritten_cons {type : ColumnType} {value : String} {values : List String}
    (h : Text.isBlank value = false) : type.ReadsWritten (value :: values) ↔
      (Value.read? type value).isSome = true ∧ type.ReadsWritten values := by
  simp [ReadsWritten, h]

/-- What is inferred after any number of cells: the first of the types that are left under which
the other cells read, unless no cell is written. -/
theorem inferFrom_eq {types : List ColumnType} (htypes : ColumnType.text ∉ types) (written : Bool)
    (values : List String) : inferFrom types written values =
      if written = false ∧ ∀ s ∈ values, Text.isBlank s = true then .text
      else (types.find? fun type => decide (type.ReadsWritten values)).getD .text := by
  induction values generalizing types written with
  | nil =>
    have hfirst : types.find? (fun type => decide (type.ReadsWritten [])) = types.head? := by
      cases types <;> simp [ReadsWritten]
    cases written <;> simp [inferFrom, hfirst, List.headD_eq_head?_getD]
  | cons value values ih =>
    rw [inferFrom, Text.isEmpty_trim]
    cases hblank : Text.isBlank value with
    | true =>
      simp only [if_true, ih htypes, readsWritten_cons_of_isBlank hblank, List.forall_mem_cons,
        hblank, true_and]
    | false =>
      -- What the cell leaves are the types under which it reads.
      have hleft : types.filter (fun type => (Value.read? type (Text.trim value)).isSome) =
          types.filter fun type => (Value.read? type value).isSome := by
        refine List.filter_congr fun type htype => ?_
        rw [Value.read?_trim fun h => htypes (h ▸ htype)]
      have hfirst : types.find? (fun type => decide (type.ReadsWritten (value :: values))) =
          (types.filter fun type => (Value.read? type value).isSome).find?
            fun type => decide (type.ReadsWritten values) := by
        simp only [List.find?_filter, readsWritten_cons hblank, Bool.decide_and,
          Bool.decide_eq_true]
      have hwritten : ¬(written = false ∧ ∀ s ∈ value :: values, Text.isBlank s = true) := by
        simp [hblank]
      simp only [Bool.false_eq_true, if_false, hleft, if_neg hwritten, hfirst]
      split
      · next hnone => rw [List.isEmpty_iff.1 hnone]; rfl
      · rw [ih fun h => htypes (List.mem_filter.1 h).1]
        simp

theorem text_notMem_candidates : ColumnType.text ∉ candidates := by decide

/-- What is inferred: the first of the candidates under which the written texts read. -/
theorem infer_eq (values : List String) : infer values =
    if ∀ s ∈ values, Text.isBlank s = true then .text
    else (candidates.find? fun type => decide (type.ReadsWritten values)).getD .text := by
  rw [infer, inferFrom_eq text_notMem_candidates]
  simp only [true_and]

variable {values values' : List String}

/-- Columns with the same written cells have one type. -/
theorem infer_congr (h : ∀ s, Text.isBlank s = false → (s ∈ values ↔ s ∈ values')) :
    infer values = infer values' := by
  have hblank : (∀ s ∈ values, Text.isBlank s = true) ↔ ∀ s ∈ values', Text.isBlank s = true := by
    refine forall_congr' fun s => ?_
    cases hs : Text.isBlank s with
    | true => simp
    | false => simp [h s hs]
  have hreads : ∀ type : ColumnType, type.ReadsWritten values ↔ type.ReadsWritten values' := by
    refine fun type => forall_congr' fun s => ?_
    cases hs : Text.isBlank s with
    | true => simp
    | false => simp [h s hs]
  simp only [infer_eq, hblank, hreads]

/-- Every written text of a column reads under the type that is inferred. -/
theorem readsWritten_infer (values : List String) : (infer values).ReadsWritten values := by
  rw [infer_eq]
  split
  · intro s _ _
    rfl
  · cases hfind : candidates.find? fun type => decide (type.ReadsWritten values) with
    | none =>
      intro s _ _
      rfl
    | some type =>
      have hreads := List.find?_some hfind
      exact of_decide_eq_true hreads

end ColumnType
end TableTalk
