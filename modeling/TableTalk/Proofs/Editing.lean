import TableTalk.Plan.Editing
import TableTalk.Proofs.Applying
import TableTalk.Proofs.Loading

/-!
# Tables stay well-formed while they are edited

Names and lengths are checked when a table is made, and never again.  Selecting rows passes over
the same positions in every column, a column that is kept is kept whole, and a new version of a
column is put in only if it is as long as the first column and there is a column of its name.  So
whatever is done to a table, its rows can be read off without a cell missing.

## Main results

* `Table.run_put` — putting a column in is replacing it, and a failure changes nothing.
* `Table.run_put_of_nodup` — among distinct names, which columns can be put in.
* `Edit.wellFormed_after` — a step keeps a table well-formed.
* `Table.sound_of_edits` — **a table that was made stays well-formed, whatever is done to it.**
-/

namespace TableTalk

variable {t u : Table}

/-! ### Putting a column in -/

namespace Table

/-- Putting a column in is replacing it, and a failure changes nothing. -/
theorem run_put (t : Table) (column : Column) :
    (put column).run t = match t.replace column with
      | .ok u => .ok () u
      | .error e => .error e t := by
  unfold put replace
  simp only [EStateM.run_bind, EStateM.run_get]
  by_cases hsize : (column.size != t.height) = true
  · rw [if_pos hsize, if_pos hsize]
    rfl
  · rw [if_neg hsize, if_neg hsize]
    cases hposition : t.position? column.name with
    | none => simp [hposition]
    | some i => simp [hposition]

/-- Among distinct names, a column can be put in if it is as long as the others and there is one
of its name; if not, the table stays as it was. -/
theorem run_put_of_nodup (h : t.names.Nodup) (column : Column) :
    if column.size = t.height ∧ column.name ∈ t.names then ∃ u, (put column).run t = .ok () u
    else ∃ e, (put column).run t = .error e t := by
  rw [run_put]
  cases hreplace : t.replace column with
  | ok u =>
    obtain ⟨hsize, hname, -⟩ := (replace_eq_ok_iff h).1 hreplace
    rw [if_pos ⟨hsize, hname⟩]
    exact ⟨u, rfl⟩
  | error e =>
    rw [if_neg]
    · exact ⟨e, rfl⟩
    · rintro ⟨hsize, hname⟩
      have hok := (replace_eq_ok_iff h).2 ⟨hsize, hname, rfl⟩
      rw [hreplace] at hok
      cases hok

end Table

/-! ### Steps -/

namespace Edit

theorem after_replace (t : Table) (column : Column) :
    after t (.replace column) = (t.replace column).toOption.getD t := by
  have hput : Table.put column t = _ := t.run_put column
  unfold after make EStateM.run EStateM.adaptExcept
  dsimp only
  rw [hput]
  cases t.replace column with
  | ok u => rfl
  | error e => rfl

theorem after_apply (t : Table) (tr : Transformation) :
    after t (.apply tr) = (tr.apply t).toOption.getD t := by
  unfold after make
  simp only [EStateM.run_bind, EStateM.run_get]
  cases tr.apply t with
  | ok u => rfl
  | error e => rfl

/-- A step keeps a table well-formed. -/
theorem wellFormed_after (h : t.WellFormed) (e : Edit) : (e.after t).WellFormed := by
  cases e with
  | select positions => exact h.select positions
  | keep p => exact h.keep p
  | replace column =>
    rw [after_replace]
    cases hreplace : t.replace column with
    | ok u => exact h.replace hreplace
    | error e => exact h
  | apply tr =>
    rw [after_apply]
    cases happly : tr.apply t with
    | ok u => exact (Transformation.apply_eq_ok_iff.1 happly).wellFormed h
    | error e => exact h

end Edit

namespace Table

theorem wellFormed_edited (h : t.WellFormed) (edits : List Edit) : (t.edited edits).WellFormed := by
  induction edits generalizing t with
  | nil => exact h
  | cons e edits ih => exact ih (e.wellFormed_after h)

theorem wellFormed_of_made (h : (∃ columns, ofColumns columns = .ok t) ∨
    ∃ headers rows, ofRows headers rows = .ok t) : t.WellFormed := by
  rcases h with ⟨columns, h⟩ | ⟨headers, rows, h⟩
  · obtain ⟨hwell, rfl⟩ := ofColumns_eq_ok_iff.1 h
    exact hwell
  · obtain ⟨-, hnodup, rfl⟩ := ofRows_eq_ok_iff.1 h
    refine wellFormed_of_size ?_ fun c hc => size_of_mem_ofFittedRows hc
    rw [names_ofFittedRows]
    exact hnodup

/-- The rows of a well-formed table are read without a cell missing. -/
theorem WellFormed.map_some_rows (h : t.WellFormed) :
    t.rows.map some = (List.range t.height).map t.row? := by
  rw [h.rows_eq, List.map_map]
  refine List.map_congr_left fun i hi => ?_
  rw [row?_of_lt fun c hc => (h.2 c hc).symm ▸ List.mem_range.1 hi]
  rfl

/-- **A table that was made stays well-formed, whatever is done to it.**  Its names are distinct
and its columns equally long, so that its columns make up the same table again; each of its rows
is read without a cell missing and has one cell for each column; and a column that cannot be put
in leaves it as it is. -/
theorem sound_of_edits (h : (∃ columns, ofColumns columns = .ok t) ∨
    ∃ headers rows, ofRows headers rows = .ok t) (edits : List Edit) :
    let u := t.edited edits
    u.names.Nodup ∧ (∀ c ∈ u.columns, c.size = u.height) ∧ ofColumns u.columns = .ok u ∧
      u.rows.map some = (List.range u.height).map u.row? ∧
      u.rows.length = u.height ∧ (∀ row ∈ u.rows, row.length = u.width) ∧
      ∀ column : Column,
        if column.size = u.height ∧ column.name ∈ u.names then ∃ v, (put column).run u = .ok () v
        else ∃ e, (put column).run u = .error e u := by
  intro u
  have hwell : u.WellFormed := wellFormed_edited (wellFormed_of_made h) edits
  refine ⟨hwell.1, hwell.2, ofColumns_eq_ok_iff.2 ⟨hwell, rfl⟩, hwell.map_some_rows, ?_, ?_,
    run_put_of_nodup hwell.1⟩
  · rw [rows, List.length_map, List.length_range]
  · intro row hrow
    rw [hwell.length_of_mem_rows hrow, names, List.length_map, width]

/-- Rows taken twice, in another order and behind the end, a column removed, one that is too short,
one that is put in, the rows of a team, and a transformation of a column that is not there. -/
def reworked : List Edit :=
  [.select [3, 0, 9, 0, 2], .keep fun c => c.name != "Name",
    .replace (.ofValues ⟨"Rank", .number, 0⟩ ["7"]),
    .replace (.ofValues ⟨"Rank", .number, 0⟩ ["1", "2", "3", "4"]),
    .apply (.filterBy ⟨"Team", .equals, "b"⟩), .apply (.dropColumn ["Name"])]

theorem sound_of_edits_reworked :
    ofColumns people.columns = .ok people ∧
      (people.edited reworked).rows = [["b", "2"], ["b", "3"], ["b", "4"]] ∧
      ofColumns (people.edited reworked).columns = .ok (people.edited reworked) ∧
      ∃ e, (put (.ofValues ⟨"Team", .text, 0⟩ ["c"])).run (people.edited reworked) =
        .error e (people.edited reworked) := by
  have hmade : ofColumns people.columns = .ok people := by decide
  obtain ⟨-, -, hagain, -, -, -, hput⟩ := sound_of_edits (.inl ⟨_, hmade⟩) reworked
  refine ⟨hmade, by decide +kernel, hagain, ?_⟩
  have hshort := hput (.ofValues ⟨"Team", .text, 0⟩ ["c"])
  rwa [if_neg] at hshort
  decide +kernel

end Table

end TableTalk
