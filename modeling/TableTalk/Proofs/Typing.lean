import TableTalk.Proofs.Alignment
import TableTalk.Proofs.Combining
import TableTalk.Proofs.Loading

/-!
# Cells and the types of their columns

What is loaded reads under the types that are inferred.  Transformations keep it so: rows are
taken with the texts that they have, and a column in which numbers are put becomes a column of
numbers.  There are two exceptions.  A column keeps its type when the texts of a group are joined,
and what comes of two texts or more, a comma between them, need not read under it.  And where the
numbers of a group add up to more than the greatest number, their sum and their mean are no
numbers.

A text is traced to where it came from: either it stood in a column of the same header before
the last step, or the last step made it of the texts of a group.

## Main definitions

* `ColumnType.Admits` — the texts that a typed column is to hold.
* `Plan.Combined` — the texts of a group that a step of a plan made one text of.
* `Plan.Joined` — the texts that a step of a plan joined of others.
* `Plan.Overflown` — the sums and means of a step of a plan that are not finite.

## Main results

* `Aggregate.admits_or_overflows` — a column of numbers admits what is put in it, unless a sum is
  not finite.
* `Transformation.Applied.mem_cells` — a step makes no cells in a column that it does not group by.
* `Transformation.Applied.origin` — where a text of the result came from.
* `Transformation.Applied.admits_or_combined` — what one step does to the texts of a type.
* `Plan.Applied.admits` — **the columns of a result admit all texts but those that were joined and
  the sums and means that are not finite.**
* `Delimited.isSome_read?_of_execute` — the same about a plan that is executed on what was
  loaded, and after any number of its steps.
-/

namespace TableTalk

/-! ### Texts of a type -/

/-- The texts that a typed column is to hold: blank ones and those that read under the type. -/
def ColumnType.Admits (type : ColumnType) (content : String) : Prop :=
  Text.isBlank content = true ∨ (Value.read? type content).isSome = true

theorem ColumnType.admits_number_iff {content : String} : ColumnType.number.Admits content ↔
    Text.isBlank content = true ∨ (readNumber? content).isSome = true := by
  rw [Admits, Value.read?, Option.isSome_map]

namespace Aggregate

/-- An aggregate adds up the numbers of a group, and they have no finite sum. -/
def Overflows (aggregate : Aggregate) (values : List String) : Prop :=
  aggregate ∈ [.sum, .mean] ∧ (Binary64.sum (values.filterMap readNumber?)).isFinite = false

/-- A column of numbers admits what is put in it, unless a sum is not finite.  Then the name of an
infinite number is put in it. -/
theorem admits_or_overflows {values : List String} (hlt : values.length < Numeral.wordLimit)
    {aggregate : Aggregate} (hyields : aggregate.yieldsNumber = true) :
    ColumnType.number.Admits (aggregate.combine values) ∨
      aggregate.Overflows values ∧ aggregate.combine values ∈ ["inf", "-inf"] := by
  have hpromoted := promoted_combine hlt hyields
  cases hblank : Text.isBlank (aggregate.combine values) with
  | true => exact .inl (.inl hblank)
  | false =>
    cases hread : readNumber? (aggregate.combine values) with
    | some x => exact .inl (ColumnType.admits_number_iff.2 (.inr (by rw [hread]; rfl)))
    | none =>
      refine .inr ⟨?_, hpromoted.mem_of_unread hblank hread⟩
      have hunread : ¬(readNumber? (aggregate.combine values)).isSome = true := by
        rw [hread]
        exact Bool.false_ne_true
      rw [hpromoted.isSome_iff] at hunread
      simpa [Overflows, hblank] using hunread

end Aggregate

/-! ### Where a text came from -/

/-- The texts of the rows of a group. -/
def Group.values (g : Group) (contents : List String) : List String :=
  g.members.filterMap fun m => contents[m]?

theorem Group.mem_of_mem_values {g : Group} {contents : List String} {value : String}
    (h : value ∈ g.values contents) : value ∈ contents := by
  obtain ⟨m, -, hm⟩ := List.mem_filterMap.1 h
  exact List.mem_of_getElem? hm

/-- Every row of a group has a text, and no row is in a group twice. -/
theorem Group.length_values {type : ColumnType} {keys : KeySet} {contents : List String}
    {g : Group} (h : g ∈ groupsOf type keys contents) :
    (g.values contents).length = g.members.length ∧ 0 < g.members.length ∧
      g.members.length ≤ contents.length := by
  obtain ⟨heq, hne⟩ := eq_ofKey_of_mem_groupsOf h
  have hsublist : g.members.Sublist (List.range contents.length) := by
    rw [heq]
    exact sublist_positionsOf (Text.trim · == g.key) contents
  refine ⟨List.length_filterMap_of_isSome fun m hm => ?_, List.length_pos_iff.2 hne, ?_⟩
  · have hlt := List.mem_range.1 (hsublist.subset hm)
    rw [List.getElem?_eq_getElem hlt]
    rfl
  · have := hsublist.length_le
    rwa [List.length_range] at this

/-- Rows are taken with the cells that they have. -/
theorem Table.mem_cells_of_select {t : Table} {positions : List Nat} {c : Column}
    (hc : c ∈ (t.select positions).columns) {cell : Cell} (h : cell ∈ c.cells) :
    ∃ d ∈ t.columns, d.header = c.header ∧ cell ∈ d.cells := by
  obtain ⟨d, hd, rfl⟩ := List.mem_map.1 hc
  rw [Column.cells_select] at h
  obtain ⟨i, -, hi⟩ := List.mem_filterMap.1 h
  exact ⟨d, hd, rfl, List.mem_of_getElem? hi⟩

/-- A cell came from a column of the same header, unless the step grouped by it. -/
theorem Transformation.Applied.mem_cells {t u : Table} {tr : Transformation} (h : Applied t tr u)
    (ht : t.WellFormed) {c : Column} (hc : c ∈ u.columns) (hgroup : c.name ∉ tr.grouped)
    {cell : Cell} (hcell : cell ∈ c.cells) :
    ∃ d ∈ t.columns, d.header = c.header ∧ cell ∈ d.cells := by
  cases h with
  | empty => exact ⟨c, hc, rfl, hcell⟩
  | dropColumn => exact ⟨c, (List.mem_filter.1 hc).1, rfl, hcell⟩
  | sortBy => exact Table.mem_cells_of_select hc hcell
  | filterBy => exact Table.mem_cells_of_select hc hcell
  | @groupBy column d aggregate keys u hcolumn haggregate hreplace =>
    obtain ⟨-, rfl⟩ := Table.mem_of_column? hcolumn
    obtain ⟨-, -, rfl⟩ := (Table.replace_eq_ok_iff (ht.select _).1).1 hreplace
    obtain ⟨e, he, rfl⟩ := List.mem_map.1 hc
    split at hgroup
    · rw [name_aggregated] at hgroup
      exact absurd (List.mem_singleton.2 rfl) hgroup
    · next hname =>
      rw [if_neg hname] at hcell ⊢
      exact Table.mem_cells_of_select he hcell

theorem mem_contents_aggregated {c : Column} {aggregate : Aggregate} {groups : List Group}
    {content : String} (h : content ∈ (Table.aggregated c aggregate groups).contents) :
    ∃ g ∈ groups, content = aggregate.combine (g.values c.contents) := by
  obtain ⟨cell, hcell, rfl⟩ := List.mem_map.1 h
  obtain ⟨⟨g, i⟩, hg, rfl⟩ := List.mem_map.1 hcell
  exact ⟨g, List.fst_mem_of_mem_zipIdx hg, rfl⟩

/-- A grouping makes one text of the texts of a group, in the column of the header. -/
def Transformation.Combines (t : Table) (tr : Transformation) (header : Header)
    (aggregate : Aggregate) (values : List String) : Prop :=
  ∃ keys d, tr = .groupBy header.name aggregate keys ∧ t.column? header.name = some d ∧
    header = (if aggregate.yieldsNumber then { d.header with type := .number } else d.header) ∧
    ∃ g ∈ groupsOf d.header.type keys d.contents, values = g.values d.contents

namespace Transformation

variable {t u : Table} {tr : Transformation} {c : Column} {content : String}

/-- The texts of a group are not more than there are rows. -/
theorem Combines.length_le {header : Header} {aggregate : Aggregate} {values : List String}
    (h : Combines t tr header aggregate values) (ht : t.WellFormed) :
    0 < values.length ∧ values.length ≤ t.height := by
  obtain ⟨keys, d, -, hcolumn, -, g, hg, rfl⟩ := h
  obtain ⟨hd, -⟩ := Table.mem_of_column? hcolumn
  obtain ⟨hvalues, hpos, hle⟩ := Group.length_values hg
  rw [d.length_contents, ht.2 d hd] at hle
  rw [hvalues]
  exact ⟨hpos, hle⟩

/-- A text came from a column of the same header, or the step made it of the texts of a
group. -/
theorem Applied.origin (h : Applied t tr u) (ht : t.WellFormed) (hc : c ∈ u.columns)
    (hcontent : content ∈ c.contents) :
    (∃ d ∈ t.columns, d.header = c.header ∧ content ∈ d.contents) ∨
      ∃ aggregate values, Combines t tr c.header aggregate values ∧ aggregate ≠ .groupKey ∧
        content = aggregate.combine values := by
  by_cases hgroup : c.name ∈ tr.grouped
  · cases h with
    | empty | dropColumn | sortBy | filterBy => cases hgroup
    | @groupBy column d aggregate keys u hcolumn haggregate hreplace =>
      obtain ⟨-, rfl⟩ := Table.mem_of_column? hcolumn
      obtain ⟨-, -, rfl⟩ := (Table.replace_eq_ok_iff (ht.select _).1).1 hreplace
      obtain ⟨e, he, rfl⟩ := List.mem_map.1 hc
      have haggregated := name_aggregated d aggregate (groupsOf d.header.type keys d.contents)
      have hname : e.name = (Table.aggregated d aggregate
          (groupsOf d.header.type keys d.contents)).name := by
        by_contra hne
        rw [if_neg hne] at hgroup
        rw [haggregated] at hne
        exact hne (List.mem_singleton.1 hgroup)
      rw [if_pos hname] at hcontent ⊢
      obtain ⟨g, hg, rfl⟩ := mem_contents_aggregated hcontent
      refine .inr ⟨aggregate, _, ⟨keys, d, ?_, ?_, rfl, g, hg, rfl⟩, haggregate, rfl⟩
      · exact congrArg (Transformation.groupBy · aggregate keys) haggregated.symm
      · exact (congrArg t.column? haggregated).trans hcolumn
  · obtain ⟨cell, hcell, rfl⟩ := List.mem_map.1 hcontent
    obtain ⟨d, hd, hheader, hmem⟩ := h.mem_cells ht hc hgroup hcell
    exact .inl ⟨d, hd, hheader, List.mem_map_of_mem hmem⟩

/-- What is joined of one text is the text. -/
theorem Combines.mem_of_length_le {header : Header} {values : List String}
    (h : Combines t tr header .concat values) (ht : t.WellFormed) (hone : values.length ≤ 1) :
    ∃ d ∈ t.columns, d.header = header ∧ Aggregate.concat.combine values ∈ d.contents := by
  obtain ⟨hpos, -⟩ := h.length_le ht
  obtain ⟨value, rfl⟩ := List.length_eq_one_iff.1 (show values.length = 1 by omega)
  obtain ⟨keys, d, -, hcolumn, hheader, g, hg, hvalues⟩ := h
  exact ⟨d, (Table.mem_of_column? hcolumn).1, hheader.symm,
    Group.mem_of_mem_values (hvalues ▸ List.mem_cons_self)⟩

/-- One step leaves a text under its header, makes one that the type admits, joins two texts or
more, or writes the sum or the mean of numbers that have no finite sum. -/
theorem Applied.admits_or_combined (h : Applied t tr u) (ht : t.WellFormed)
    (hheight : t.height < Numeral.wordLimit) (hc : c ∈ u.columns)
    (hcontent : content ∈ c.contents) :
    (∃ d ∈ t.columns, d.header = c.header ∧ content ∈ d.contents) ∨
      c.header.type.Admits content ∨
      ∃ aggregate values, Combines t tr c.header aggregate values ∧
        content = aggregate.combine values ∧
        (aggregate = .concat ∧ 1 < values.length ∨
          c.header.type = .number ∧ aggregate.Overflows values ∧ content ∈ ["inf", "-inf"]) := by
  rcases h.origin ht hc hcontent with hkept | ⟨aggregate, values, hcombines, hkey, rfl⟩
  · exact .inl hkept
  · obtain ⟨-, hle⟩ := hcombines.length_le ht
    have hheader : aggregate.yieldsNumber = true → c.header.type = .number := by
      obtain ⟨keys, d, -, -, hheader, -⟩ := hcombines
      intro hyields
      rw [hheader, hyields, if_pos rfl]
    cases hyields : aggregate.yieldsNumber with
    | true =>
      rcases Aggregate.admits_or_overflows (hle.trans_lt hheight) hyields with
        hadmitted | hoverflows
      · rw [← hheader hyields] at hadmitted
        exact .inr (.inl hadmitted)
      · exact .inr (.inr ⟨aggregate, values, hcombines, rfl, .inr ⟨hheader hyields, hoverflows⟩⟩)
    | false =>
      cases aggregate with
      | sum | mean | countDistinct | countAll => cases hyields
      | groupKey => exact absurd rfl hkey
      | concat =>
        rcases Nat.lt_or_ge 1 values.length with hmany | hone
        · exact .inr (.inr ⟨.concat, values, hcombines, rfl, .inl ⟨rfl, hmany⟩⟩)
        · exact .inl (hcombines.mem_of_length_le ht hone)

end Transformation

/-! ### Plans -/

namespace Plan

theorem Applied.height_le {t u : Table} {plan : Plan} (h : Applied t plan u)
    (ht : t.WellFormed) : u.height ≤ t.height := by
  obtain ⟨p, hp⟩ := h.rowsAt ht
  have hsubset : p ⊆ List.range t.height := fun i hi => List.mem_range.2 (hp.lt_height i hi)
  have hle := (hp.nodup.subperm hsubset).length_le
  rw [List.length_range] at hle
  exact hp.height_le.trans hle

/-- A step of the plan made one text of the texts of a group, in the column of the header. -/
def Combined (t : Table) (plan : Plan) (header : Header) (aggregate : Aggregate)
    (values : List String) : Prop :=
  ∃ front tr rest e, plan = front ++ tr :: rest ∧ execute t front = .ok e ∧
    Transformation.Combines e.table tr header aggregate values

/-- A step of the plan joined the text of the texts of two rows or more, in the column of the
header. -/
def Joined (t : Table) (plan : Plan) (header : Header) (content : String) : Prop :=
  ∃ values, Combined t plan header .concat values ∧ 1 < values.length ∧
    content = ",".intercalate values

/-- A step of the plan wrote the text as the sum or the mean of numbers that have no finite sum, in
the column of the header. -/
def Overflown (t : Table) (plan : Plan) (header : Header) (content : String) : Prop :=
  ∃ aggregate values, Combined t plan header aggregate values ∧ aggregate.Overflows values ∧
    content = aggregate.combine values

section

variable {t : Table} {plan : Plan} {header : Header} {content : String}

theorem Combined.append {aggregate : Aggregate} {values : List String}
    (h : Combined t plan header aggregate values) (more : Plan) :
    Combined t (plan ++ more) header aggregate values := by
  obtain ⟨front, tr, rest, e, rfl, hcombined⟩ := h
  exact ⟨front, tr, rest ++ more, e, by simp, hcombined⟩

theorem Joined.append (h : Joined t plan header content) (more : Plan) :
    Joined t (plan ++ more) header content := by
  obtain ⟨values, hcombined, hjoined⟩ := h
  exact ⟨values, hcombined.append more, hjoined⟩

theorem Overflown.append (h : Overflown t plan header content) (more : Plan) :
    Overflown t (plan ++ more) header content := by
  obtain ⟨aggregate, values, hcombined, hoverflown⟩ := h
  exact ⟨aggregate, values, hcombined.append more, hoverflown⟩

end

/-- The columns of a result admit all texts but those that were joined and the sums and means that
are not finite. -/
theorem Applied.admits {t u : Table} {plan : Plan} (ht : t.WellFormed)
    (hheight : t.height < Numeral.wordLimit)
    (hadmits : ∀ c ∈ t.columns, ∀ content ∈ c.contents, c.header.type.Admits content)
    (h : Applied t plan u) : ∀ c ∈ u.columns, ∀ content ∈ c.contents,
      c.header.type.Admits content ∨ Joined t plan c.header content ∨
        c.header.type = .number ∧ content ∈ ["inf", "-inf"] ∧
          Overflown t plan c.header content := by
  induction plan using List.reverseRecOn generalizing u with
  | nil =>
    cases h
    exact fun c hc content hcontent => .inl (hadmits c hc content hcontent)
  | append_singleton plan tr ih =>
    obtain ⟨v, hv, hlast⟩ := applied_append_iff.1 h
    have hvwell := hv.wellFormed ht
    have hvheight := (hv.height_le ht).trans_lt hheight
    cases hlast with
    | cons head tail =>
      cases tail
      intro c hc content hcontent
      rcases head.admits_or_combined hvwell hvheight hc hcontent with
        ⟨d, hd, hheader, hmem⟩ | hadmitted | ⟨aggregate, values, hcombines, rfl, hmade⟩
      · -- The text is an old one, and what was said of it stays true.
        rcases hheader ▸ ih hv d hd content hmem with
          hadmitted | hjoined | ⟨htype, hname, hoverflown⟩
        · exact .inl hadmitted
        · exact .inr (.inl (hjoined.append _))
        · exact .inr (.inr ⟨htype, hname, hoverflown.append _⟩)
      · exact .inl hadmitted
      · -- The last step made the text.
        obtain ⟨e, he, rfl⟩ := applied_iff_execute.1 hv
        have hcombined : Combined t (plan ++ [tr]) c.header aggregate values :=
          ⟨plan, tr, [], e, rfl, he, hcombines⟩
        rcases hmade with ⟨rfl, hmany⟩ | ⟨htype, hoverflows, hname⟩
        · exact .inr (.inl ⟨values, hcombined, hmany, rfl⟩)
        · exact .inr (.inr ⟨htype, hname, aggregate, values, hcombined, hoverflows, rfl⟩)

end Plan

namespace Delimited

/-- **What a plan makes of what was loaded reads under the types of its columns**, after any
number of its steps, unless it is blank or a step joined it of the texts of two rows or more.
A step that sums or averages a group whose numbers have no finite sum leaves the name of an
infinite number in a column of numbers. -/
theorem isSome_read?_of_execute {o : Options} {bytes : List UInt8} {t : Table} {plan : Plan}
    {e : Execution} (hinfer : o.infer = true) (hbytes : bytes.length < Numeral.wordLimit)
    (hread : read o bytes = .ok t) (hexecute : plan.execute t = .ok e) :
    ∀ front rest, plan = front ++ rest → ∃ met, Plan.execute t front = .ok met ∧
      ∀ c ∈ met.table.columns, ∀ content ∈ c.contents, Text.isBlank content = false →
        (Value.read? c.header.type content).isSome = true ∨
        Plan.Joined t front c.header content ∨
        c.header.type = .number ∧ content ∈ ["inf", "-inf"] ∧
          Plan.Overflown t front c.header content := by
  rintro front rest rfl
  obtain ⟨u, hfront, -⟩ := Plan.applied_append_iff.1 (Plan.applied_iff_execute.2 ⟨e, hexecute, rfl⟩)
  obtain ⟨met, hmet, rfl⟩ := Plan.applied_iff_execute.1 hfront
  refine ⟨met, hmet, ?_⟩
  have hheight := (height_le_of_read hread).trans_lt hbytes
  obtain ⟨names, rows, rfl, -, hnodup, -⟩ := exists_loaded_of_read hread
  have hadmits := hfront.admits (wellFormed_loaded hnodup) hheight fun c hc content hcontent => by
    cases hblank : Text.isBlank content with
    | true => exact .inl hblank
    | false => exact .inr (isSome_read?_of_loaded hinfer hc hcontent hblank)
  intro c hc content hcontent hwritten
  rcases hadmits c hc content hcontent with (hblank | hread) | hmade
  · rw [hwritten] at hblank
    cases hblank
  · exact .inl hread
  · exact .inr hmade

/-- The members of a team who have a rank are counted. -/
theorem isSome_read?_of_execute_teams :
    let bytes := Utf8.encode "Team,Rank\nb,4\na,\nb,-1.5\n"
    let t : Table := ⟨[.ofValues ⟨"Team", .text, 0⟩ ["b", "a", "b"],
      .ofValues ⟨"Rank", .number, 1⟩ ["4", "", "-1.5"]]⟩
    let plan : Plan := [.filterBy ⟨"Rank", .greaterThan, "-2"⟩,
      .groupBy "Team" .countAll (.ofList ["b"])]
    read {} bytes = .ok t ∧ ∃ e, plan.execute t = .ok e ∧
      e.table = ⟨[⟨⟨"Team", .number, 0⟩, [⟨"2", 0⟩]⟩, ⟨⟨"Rank", .number, 1⟩, [⟨"4", 0⟩]⟩]⟩ ∧
      ∀ c ∈ e.table.columns, ∀ content ∈ c.contents, Text.isBlank content = false →
        (Value.read? c.header.type content).isSome = true ∨
        Plan.Joined t plan c.header content ∨
        c.header.type = .number ∧ content ∈ ["inf", "-inf"] ∧
          Plan.Overflown t plan c.header content := by
  intro bytes t plan
  have hread : read {} bytes = .ok t := by decide +kernel
  have hexecute : plan.execute t = .ok
      ⟨⟨[⟨⟨"Team", .number, 0⟩, [⟨"2", 0⟩]⟩, ⟨⟨"Rank", .number, 1⟩, [⟨"4", 0⟩]⟩]⟩,
        [⟨0, .filterBy, ["FilterBy", "Rank", "GreaterThan", "-2"], 3, 2, 2, 2⟩,
          ⟨1, .groupBy, ["GroupBy", "Team", "CountAll", "b"], 2, 1, 2, 2⟩]⟩ := by decide +kernel
  obtain ⟨met, hmet, hreads⟩ := isSome_read?_of_execute rfl (by decide +kernel) hread hexecute
    plan [] (List.append_nil plan).symm
  rw [hexecute] at hmet
  cases hmet
  exact ⟨hread, _, hexecute, rfl, hreads⟩

/-- Two texts that are joined stay in a column of numbers, under which they do not read. -/
theorem unread_of_joined :
    let t : Table := ⟨[.ofValues ⟨"A", .number, 0⟩ ["10", "10"]]⟩
    let plan : Plan := [.groupBy "A" .concat (.ofList ["10"])]
    read {} (Utf8.encode "A\n10\n10\n") = .ok t ∧
      plan.execute t = .ok ⟨⟨[.ofValues ⟨"A", .number, 0⟩ ["10,10"]]⟩,
        [⟨0, .groupBy, ["GroupBy", "A", "ConcatValues", "10"], 2, 1, 1, 1⟩]⟩ ∧
      Text.isBlank "10,10" = false ∧ Value.read? .number "10,10" = none := by
  decide +kernel

end Delimited
end TableTalk
