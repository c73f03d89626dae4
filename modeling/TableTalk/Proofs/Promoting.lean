import TableTalk.Proofs.Regrouping

/-!
# Columns that become columns of numbers

A column that sums, means or counts are put in becomes a column of numbers, whatever it held
before.  Each of its cells is what the aggregate puts in a column of numbers for the texts of a
key: a number, nothing for the mean of no numbers, or the name of infinity where a sum is not
finite.

## Main results

* `Table.exists_promoted` — **a promoted column holds numbers and blank means, unless a sum is
  not finite.**
-/

namespace TableTalk
namespace Table

variable {t : Table} {c : Column} {aggregate : Aggregate}

/-- **A promoted column holds numbers and blank means, unless a sum is not finite.**  If the
count of rows fits a machine word, a grouping that adds up or counts makes a column of numbers
of the column that was grouped by.  A cell of it is blank if it is the mean of texts none of which
is a number.  Every other cell reads, if the numbers with its key have a finite sum or no sum was
asked for, and otherwise it holds the name of an infinite number. -/
theorem exists_promoted (ht : t.WellFormed) (hheight : t.height < Numeral.wordLimit)
    {column : String} (hc : t.column? column = some c)
    (haggregate : aggregate ∈ [.sum, .mean, .countDistinct, .countAll]) (keys : KeySet) :
    ∃ (u : Table) (ks : List String) (d : Column), t.group column aggregate keys = .ok u ∧
      t.Grouped c keys ks u ∧ u.column? column = some d ∧
      d.header = { c.header with type := .number } ∧ d.size = ks.length ∧
      ∀ (i : Nat) (k : String), ks[i]? = some k → ∃ content, d.cells[i]? = some ⟨content, i⟩ ∧
        aggregate.Promoted (c.valuesOf k) content := by
  have hyields := Aggregate.yieldsNumber_iff.2 haggregate
  obtain ⟨u, hgroup, hgrouped, hcolumn⟩ := exists_group ht hc (Aggregate.ne_groupKey hyields) keys
  refine ⟨u, _, _, hgroup, hgrouped, hcolumn, by rw [aggregated, hyields]; rfl, ?_,
    fun i k hk => ⟨aggregate.combine (c.valuesOf k), ?_, ?_⟩⟩
  · rw [hgrouped.wellFormed.2 _ (mem_of_column? hcolumn).1, hgrouped.height_eq]
  · simp [cells_aggregated, List.getElem?_zipIdx, hk]
  · refine Aggregate.promoted_combine ?_ hyields
    have hlength := List.length_filter_le (fun s => decide (Text.trim s = k)) c.contents
    rw [Column.length_contents, ht.2 c (mem_of_column? hc).1] at hlength
    exact hlength.trans_lt hheight

/-- There is a mean of the one time that is a number, and none of the other. -/
theorem exists_promoted_heats :
    heats.WellFormed ∧ heats.height < Numeral.wordLimit ∧
      ∃ c, heats.column? "Time" = some c ∧
      Aggregate.mean ∈ [Aggregate.sum, .mean, .countDistinct, .countAll] ∧
      ∃ (u : Table) (ks : List String) (d : Column) (time blank : String),
        heats.group "Time" .mean (.ofList ["n/a", "10"]) = .ok u ∧
        heats.Grouped c (.ofList ["n/a", "10"]) ks u ∧ ks = ["10", "n/a"] ∧
        u.column? "Time" = some d ∧ d.cells = [⟨time, 0⟩, ⟨blank, 1⟩] ∧
        (readNumber? time).isSome = true ∧ Text.isBlank blank = true := by
  have ht : heats.WellFormed := by decide
  have hheight : heats.height < Numeral.wordLimit := by decide
  have hc : heats.column? "Time" =
      some (.ofValues ⟨"Time", .number, 1⟩ ["9.5", "n/a", "10", "9.50", ""]) := by decide
  have haggregate : Aggregate.mean ∈ [Aggregate.sum, .mean, .countDistinct, .countAll] := by decide
  obtain ⟨u, ks, d, hgroup, hgrouped, hcolumn, -, hsize, hcells⟩ :=
    exists_promoted ht hheight hc haggregate (.ofList ["n/a", "10"])
  have hks : ks = ["10", "n/a"] :=
    (eq_groupKeys hgrouped.mem_iff hgrouped.increasing).trans
      (eq_groupKeys_of_forall (by decide +kernel) (by decide +kernel) (by decide +kernel)).symm
  subst hks
  obtain ⟨time, htime, hpromoted⟩ := hcells 0 "10" rfl
  obtain ⟨blank, hblank, hpromoted'⟩ := hcells 1 "n/a" rfl
  refine ⟨ht, hheight, _, hc, haggregate, u, _, d, time, blank, hgroup, hgrouped, rfl, hcolumn, ?_,
    ?_, hpromoted'.isBlank_iff.2 (by decide +kernel)⟩
  · refine List.ext_getElem? fun i => ?_
    match i with
    | 0 => exact htime
    | 1 => exact hblank
    | i + 2 => exact List.getElem?_eq_none (hsize.trans_le (Nat.le_add_left 2 i))
  · have hkept : Text.isBlank time = false := by
      rw [← Bool.not_eq_true, hpromoted.isBlank_iff]
      decide +kernel
    exact hpromoted.isSome_iff.2 ⟨hkept, fun _ => by decide +kernel⟩

/-- Two numbers that add up to more than the greatest number leave infinity as their sum, and as
their mean, although both are the same number. -/
theorem unread_of_combined :
    let t : Table := ⟨[.ofValues ⟨"A", .number, 0⟩ ["1e308", "1e308"]]⟩
    let u : Table := ⟨[.ofValues ⟨"A", .number, 0⟩ ["inf"]]⟩
    t.WellFormed ∧ (readNumber? "1e308").isSome = true ∧
      t.group "A" .sum (.ofList ["1e308"]) = .ok u ∧
      t.group "A" .mean (.ofList ["1e308"]) = .ok u ∧
      Text.isBlank "inf" = false ∧ readNumber? "inf" = none := by
  decide +kernel

end Table
end TableTalk
