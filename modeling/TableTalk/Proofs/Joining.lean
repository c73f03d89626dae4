import TableTalk.Proofs.Alignment
import TableTalk.Proofs.Obstacles

/-!
# Plans in a row

A plan may be cut in two and its second part executed on the table that the first part makes.
It comes to the same: the tables are equal, and so are the reports and the error, but for the
positions of the steps of the second part, which start again from zero.

The counts in the reports hang together: what one step leaves is what the next one finds.  No
step adds a row or a column, since the rows that it leaves are rows that it found, each taken
once, and the columns keep the names that they had, no two of them the same.

## Main definitions

* `StepReport.behind`, `ExecutionError.behind` — what is told about a step that has more steps in
  front of it.
* `Plan.Traced` — a plan executed step by step, and the reports.

## Main results

* `Plan.execute_append` — executing two plans in a row.
* `Transformation.Applied.height_le`, `Transformation.Applied.width_le` — no transformation adds a
  row or a column.
* `Plan.Traced.isChain` — each step finds what the one in front of it left.
* `Plan.execute_of_append` — **a plan comes to what its two parts come to, one behind the
  other, and what its reports count hangs together and never grows.**
-/

namespace TableTalk

/-! ### Steps behind other steps -/

/-- The report on a step that has the given number of steps more in front of it. -/
def StepReport.behind (n : Nat) (r : StepReport) : StepReport := { r with index := n + r.index }

/-- The error of a step that has the given number of steps more in front of it. -/
def ExecutionError.behind (n : Nat) (e : ExecutionError) : ExecutionError :=
  { e with step := n + e.step }

namespace Plan

/-- The steps behind others find the table that these made, and count on. -/
theorem executeFrom_append (index : Nat) (t : Table) (front rest : Plan) :
    executeFrom index t (front ++ rest) =
      match executeFrom index t front with
      | .error e => .error e
      | .ok first =>
        (executeFrom (index + front.length) first.table rest).map fun second =>
          ⟨second.table, first.steps ++ second.steps⟩ := by
  induction front generalizing index t with
  | nil =>
    rw [List.nil_append]
    simp only [executeFrom, List.length_nil, Nat.add_zero, List.nil_append]
    cases executeFrom index t rest <;> rfl
  | cons tr front ih =>
    simp only [List.cons_append, executeFrom, ih, List.length_cons]
    cases tr.apply t with
    | error cause => rfl
    | ok u =>
      simp only [Except.mapError_ok, Except.ok_bind]
      cases executeFrom (index + 1) u front with
      | error e => rfl
      | ok first =>
        have hindex : index + (front.length + 1) = index + 1 + front.length := by omega
        simp only [Except.ok_bind, pure, Except.pure, hindex]
        cases executeFrom (index + 1 + front.length) first.table rest <;> rfl

/-- Where the steps are counted from makes a difference to their positions only. -/
theorem executeFrom_add (n index : Nat) (t : Table) (plan : Plan) :
    executeFrom (n + index) t plan =
      match executeFrom index t plan with
      | .error e => .error (e.behind n)
      | .ok e => .ok ⟨e.table, e.steps.map (StepReport.behind n)⟩ := by
  induction plan generalizing index t with
  | nil => rfl
  | cons tr plan ih =>
    have hrest := ih (index + 1)
    simp only [executeFrom, Nat.add_assoc]
    cases tr.apply t with
    | error cause => rfl
    | ok u =>
      simp only [Except.mapError_ok, Except.ok_bind, hrest]
      cases executeFrom (index + 1) u plan <;> rfl

/-- Executing two plans in a row. -/
theorem execute_append (t : Table) (front rest : Plan) :
    execute t (front ++ rest) =
      match execute t front with
      | .error e => .error e
      | .ok first =>
        match execute first.table rest with
        | .error e => .error (e.behind front.length)
        | .ok second =>
          .ok ⟨second.table, first.steps ++ second.steps.map (StepReport.behind front.length)⟩ := by
  rw [execute, executeFrom_append, Nat.zero_add]
  unfold execute
  cases executeFrom 0 t front with
  | error e => rfl
  | ok first =>
    have hcount := executeFrom_add front.length 0 first.table rest
    rw [Nat.add_zero] at hcount
    dsimp only
    rw [hcount]
    cases executeFrom 0 first.table rest <;> rfl

end Plan

/-! ### Rows and columns -/

namespace Transformation

variable {t u : Table} {tr : Transformation}

theorem length_remaining_le (tr : Transformation) (names : List String) :
    (tr.remaining names).length ≤ names.length := by
  cases tr with
  | dropColumn columns => exact List.length_filter_le _ names
  | empty | sortBy | groupBy | filterBy => exact Nat.le_refl _

/-- No transformation adds a row. -/
theorem Applied.height_le (h : Applied t tr u) (ht : t.WellFormed) : u.height ≤ t.height := by
  obtain ⟨positions, hrows⟩ := h.rowsAt ht
  have hsubset : positions ⊆ List.range t.height := fun i hi =>
    List.mem_range.2 (hrows.lt_height i hi)
  calc u.height ≤ positions.length := hrows.height_le
    _ ≤ (List.range t.height).length := (hrows.nodup.subperm hsubset).length_le
    _ = t.height := List.length_range

/-- No transformation adds a column. -/
theorem Applied.width_le (h : Applied t tr u) (ht : t.WellFormed) : u.width ≤ t.width := by
  have hnames : u.names.length ≤ t.names.length := by
    rw [h.names_eq ht]
    exact length_remaining_le tr t.names
  rwa [Table.names, Table.names, List.length_map, List.length_map] at hnames

end Transformation

/-! ### Reports in a row -/

/-- The number of rows and the number of columns. -/
def Table.extent (t : Table) : Nat × Nat := (t.height, t.width)

namespace StepReport

/-- The number of rows and the number of columns that the step finds. -/
def before (r : StepReport) : Nat × Nat := (r.rowsBefore, r.columnsBefore)

/-- The number of rows and the number of columns that the step leaves. -/
def after (r : StepReport) : Nat × Nat := (r.rowsAfter, r.columnsAfter)

end StepReport

namespace Plan

/-- What a plan makes of a table, the first step having the given position, with a report on each
step. -/
inductive Traced : Nat → Table → Plan → List StepReport → Table → Prop
  /-- Without a step, the table itself. -/
  | nil (index : Nat) (t : Table) : Traced index t [] [] t
  /-- What the other steps make of what the first one makes, and the report on that one in front
  of theirs. -/
  | cons {index : Nat} {t u v : Table} {tr : Transformation} {trs : Plan}
    {steps : List StepReport} (head : tr.Applied t u) (tail : Traced (index + 1) u trs steps v) :
    Traced index t (tr :: trs) (.of index tr t u :: steps) v

theorem traced_of_executeFrom {index : Nat} {t : Table} {plan : Plan} {e : Execution}
    (h : executeFrom index t plan = .ok e) : Traced index t plan e.steps e.table := by
  induction plan generalizing index t e with
  | nil =>
    cases h
    exact .nil index t
  | cons tr plan ih =>
    obtain ⟨u, rest, hu, hrest, rfl⟩ := executeFrom_cons_eq_ok_iff.1 h
    have htail := ih hrest
    exact .cons hu htail

namespace Traced

variable {index : Nat} {t u : Table} {plan : Plan} {steps : List StepReport}

/-- There is one report for each step, in order. -/
theorem index_eq (h : Traced index t plan steps u) :
    steps.map (·.index) = List.range' index plan.length := by
  induction h with
  | nil => rfl
  | cons head tail ih =>
    rw [List.map_cons, ih, List.length_cons, List.range'_succ]
    rfl

/-- The first step finds what is there. -/
theorem before_eq (h : Traced index t plan steps u) :
    ∀ r ∈ steps.head?, r.before = t.extent := by
  cases h with
  | nil => exact nofun
  | cons head tail =>
    intro r hr
    cases hr
    rfl

/-- Each further step finds what the one in front of it left. -/
theorem isChain (h : Traced index t plan steps u) :
    steps.IsChain fun r r' => r'.before = r.after := by
  induction h with
  | nil => exact .nil
  | cons head tail ih => exact ih.cons tail.before_eq

/-- The last step leaves what is there in the end. -/
theorem after_eq (h : Traced index t plan steps u) :
    ∀ r ∈ steps.getLast?, r.after = u.extent := by
  induction h with
  | nil => exact nofun
  | cons head tail ih =>
    cases tail with
    | nil =>
      intro r hr
      cases hr
      rfl
    | cons head' tail' =>
      rw [List.getLast?_cons_cons]
      exact ih

/-- No step adds a row or a column. -/
theorem after_le (h : Traced index t plan steps u) (ht : t.WellFormed) :
    ∀ r ∈ steps, r.rowsAfter ≤ r.rowsBefore ∧ r.columnsAfter ≤ r.columnsBefore := by
  induction h with
  | nil => exact fun r hr => absurd hr List.not_mem_nil
  | cons head tail ih =>
    intro r hr
    rcases List.mem_cons.1 hr with rfl | hr
    · exact ⟨head.height_le ht, head.width_le ht⟩
    · exact ih (head.wellFormed ht) r hr

end Traced

/-- **A plan comes to what its two parts come to, one behind the other.**  It is executed exactly
if the first part is executed and the second one is on the table that this makes, to the same
table and with the reports of both, those of the second part counting on from the first.  It
fails as the first part does, or as the second one does on that table, so many steps further
behind.  And of any plan that is executed there is one report for each step; each step finds as
many rows and columns as the one in front of it left, the first one those of the table and the
last one leaving those of the result, and none of them leaves more than it finds. -/
theorem execute_of_append {t : Table} (ht : t.WellFormed) (front rest : Plan) :
    (∀ e, execute t (front ++ rest) = .ok e ↔
      ∃ first second, front.execute t = .ok first ∧ rest.execute first.table = .ok second ∧
        e = ⟨second.table, first.steps ++ second.steps.map (StepReport.behind front.length)⟩) ∧
    (∀ e, execute t (front ++ rest) = .error e ↔
      front.execute t = .error e ∨
      ∃ first failure, front.execute t = .ok first ∧
        rest.execute first.table = .error failure ∧ e = failure.behind front.length) ∧
    (∀ (plan : Plan) (e : Execution), plan.execute t = .ok e →
      e.steps.map (·.index) = List.range plan.length ∧
      (∀ r ∈ e.steps.head?, r.before = t.extent) ∧
      e.steps.IsChain (fun r r' => r'.before = r.after) ∧
      (∀ r ∈ e.steps.getLast?, r.after = e.table.extent) ∧
      ∀ r ∈ e.steps, r.rowsAfter ≤ r.rowsBefore ∧ r.columnsAfter ≤ r.columnsBefore) := by
  have hjoined := execute_append t front rest
  refine ⟨fun e => ?_, fun e => ?_, fun plan e he => ?_⟩
  · rw [hjoined]
    cases front.execute t with
    | error failure => simp
    | ok first => cases hrest : rest.execute first.table <;> simp [hrest, eq_comm]
  · rw [hjoined]
    cases front.execute t with
    | error failure => simp
    | ok first => cases hrest : rest.execute first.table <;> simp [hrest, eq_comm]
  · have htraced := traced_of_executeFrom he
    refine ⟨?_, htraced.before_eq, htraced.isChain, htraced.after_eq, htraced.after_le ht⟩
    rw [htraced.index_eq, List.range_eq_range']

/-- A row and a column less. -/
def shorter : Plan := [.filterBy ⟨"Rank", .notEquals, "2"⟩, .dropColumn ["Rank"]]

/-- Another order, and then no columns. -/
def bare : Plan := [.sortBy "Name" .descending, .dropColumn ["Name", "Team"], .empty]

/-- Without columns there are no rows either, and a column that the first part drops is an obstacle
to the second one. -/
theorem execute_of_append_people :
    Table.people.WellFormed ∧
    (∃ e, execute Table.people (shorter ++ bare) = .ok e ∧ e.table = ⟨[]⟩ ∧
      e.steps.map (·.index) = [0, 1, 2, 3, 4] ∧
      e.steps.map StepReport.after = [(3, 3), (3, 2), (3, 2), (0, 0), (0, 0)] ∧
      e.steps.IsChain fun r r' => r'.before = r.after) ∧
    execute Table.people (shorter ++ [.empty, .sortBy "Rank" .ascending]) =
      .error ⟨3, .sortBy, .unknownTarget "Rank"⟩ := by
  have ht : Table.people.WellFormed := by decide
  let middle : Table := ⟨[
    ⟨⟨"Name", .text, 0⟩, [⟨"ann", 0⟩, ⟨"cy", 2⟩, ⟨"dee", 3⟩]⟩,
    ⟨⟨"Team", .text, 1⟩, [⟨"b", 0⟩, ⟨"b", 2⟩, ⟨"c", 3⟩]⟩]⟩
  have hfirst : shorter.execute Table.people = .ok ⟨middle, [
      ⟨0, .filterBy, ["FilterBy", "Rank", "NotEquals", "2"], 4, 3, 3, 3⟩,
      ⟨1, .dropColumn, ["DropColumn", "Rank"], 3, 3, 3, 2⟩]⟩ := by cbv
  have hsecond : bare.execute middle = .ok ⟨⟨[]⟩, [
      ⟨0, .sortBy, ["SortBy", "Name", "Descending"], 3, 3, 2, 2⟩,
      ⟨1, .dropColumn, ["DropColumn", "Name", "Team"], 3, 0, 2, 0⟩,
      ⟨2, .empty, ["Empty"], 0, 0, 0, 0⟩]⟩ := by cbv
  have hfailure : execute middle [.empty, .sortBy "Rank" .ascending] =
      .error ⟨1, .sortBy, .unknownTarget "Rank"⟩ := by cbv
  obtain ⟨hok, -, htold⟩ := execute_of_append ht shorter bare
  obtain ⟨-, herror, -⟩ := execute_of_append ht shorter [.empty, .sortBy "Rank" .ascending]
  have hjoined := (hok _).2 ⟨_, _, hfirst, hsecond, rfl⟩
  refine ⟨ht, ⟨_, hjoined, rfl, rfl, rfl, (htold _ _ hjoined).2.2.1⟩, ?_⟩
  exact (herror _).2 (.inr ⟨_, _, hfirst, hfailure, rfl⟩)

end Plan
end TableTalk
