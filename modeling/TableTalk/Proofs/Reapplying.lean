import TableTalk.Command.Run
import TableTalk.Proofs.Bytes
import TableTalk.Proofs.Calls
import TableTalk.Proofs.Documents
import TableTalk.Proofs.Lockstep
import TableTalk.Proofs.Places

/-!
# A saved plan does again what it did

A query has a dialogue, executes the plan that comes of it, and saves the plan.  Every step of
such a plan was built from answers, so the plan is read back from its document.  The plan and
the table are written to other places than the one that the table came from; so the table is
still there, and executing the stored plan comes to the table and the steps that the query
came to.

## Main definitions

* `World.run` — what a command comes to in a world, and the world behind it.
* `Queried` — what a query does that succeeds.

## Main results

* `Session.coherent_run` — a dialogue keeps the invariant of queries.
* `World.run_bind_eq_ok` — two acts in a row succeed if each of them does.
* `apply_of_query` — **the plan of a query is loaded from its file, and applying it to the same
  table comes to the same.**
-/

namespace TableTalk

/-! ### The plan of a dialogue -/

section

variable {σ : Type} [Channel σ] {s s' : Session} {c c' : σ} {initial : Schema}

namespace Session

theorem coherent_turn {turn : Turn} (h : s.query.Coherent initial)
    (hturn : s.turn c = (s', c', turn)) : s'.query.Coherent initial := by
  have hnext : (s.turn c).1.query.Coherent initial := by
    have hturned := turn_turned s c
    generalize s.taken c = used, s.turn c = out at hturned
    cases hturned with
    | ended hquestion => exact h
    | replayed hquestion hreplay => exact h.submit _ _
    | unread hquestion hreplay hask => exact h
    | live hquestion hreplay hask => exact h.submit _ _
  rw [hturn] at hnext
  exact hnext

/-- A dialogue keeps the invariant, and comes to the transformations that were committed. -/
theorem coherent_run (h : s.query.Coherent initial) :
    (s.run c).1.query.Coherent initial ∧
      ∀ plan, (s.run c).2.2 = .ok plan → (s.run c).1.query.committed = plan := by
  induction s, c using run.induct with
  | case1 s c s₁ c₁ hturn hlt ih | case2 s c s₁ c₁ t hturn hlt ih =>
    rw [run_of_turn hturn]
    exact ih (coherent_turn h hturn)
  | case3 s c s₁ c₁ hturn =>
    rw [run_of_turn hturn]
    refine ⟨coherent_turn h hturn, ?_⟩
    intro plan hplan
    exact Except.ok.inj hplan
  | case4 s c s₁ c₁ e hturn =>
    rw [run_of_turn hturn]
    refine ⟨coherent_turn h hturn, ?_⟩
    intro plan hplan
    cases hplan

end Session

/-- Every committed transformation was built from the answers in its segment. -/
theorem Query.Coherent.spelt {q : Query} (h : q.Coherent initial) : Plan.Spelt q.committed := by
  obtain ⟨segments, tail, hparts⟩ := h.parts
  intro t ht
  obtain ⟨i, hi⟩ := List.mem_iff_getElem?.1 ht
  obtain ⟨s, -, hsegment⟩ := hparts.segment i t hi
  obtain ⟨kind, answers, -, hbuild⟩ := hsegment.build_eq
  exact ⟨answers, Transformation.built_of_build hbuild⟩

theorem Session.spelt_of_converse {schema : Schema} {options : QueryOptions}
    {replay : List String} {plan : Plan}
    (h : (Session.converse ⟨.start schema options, replay⟩ c).1.result = .ok plan) :
    plan.Spelt := by
  have hstart := Query.coherent_start schema options
  obtain ⟨hcoherent, hcommitted⟩ :=
    Session.coherent_run (s := ⟨.start schema options, replay⟩) (c := Transcript.mk c []) hstart
  rw [← hcommitted plan h]
  exact hcoherent.spelt

end

/-! ### Acts in a world -/

/-- What acts come to in a world, and the world behind them. -/
def World.run {α : Type} (w : World) (act : ExceptT Failure (StateM World) α) :
    Except Failure α × World := act.run.run w

namespace World

variable {α β ε : Type} {w w' w'' : World}

theorem run_bind {x : ExceptT Failure (StateM World) α}
    {f : α → ExceptT Failure (StateM World) β} :
    w.run (x >>= f) = match w.run x with
      | (.ok a, w') => w'.run (f a)
      | (.error e, w') => (.error e, w') := by
  show (match w.run x with | (r, w') => (ExceptT.bindCont f r).run w') = _
  rcases w.run x with ⟨_ | _, _⟩ <;> rfl

/-- Two acts in a row succeed if each of them does. -/
theorem run_bind_eq_ok {x : ExceptT Failure (StateM World) α}
    {f : α → ExceptT Failure (StateM World) β} {b : β} :
    w.run (x >>= f) = (.ok b, w'') ↔
      ∃ a w', w.run x = (.ok a, w') ∧ w'.run (f a) = (.ok b, w'') := by
  rw [run_bind]
  rcases w.run x with ⟨e | a, w₁⟩
  · simp
  · simp

theorem run_pure {a : α} : w.run (pure a) = (.ok a, w) := rfl

theorem run_lift {act : StateM World α} : w.run (ExceptT.lift act) =
    (.ok (Id.run (act.run w)).1, (Id.run (act.run w)).2) := rfl

theorem run_orFail_eq_ok {act : StateM World (Except ε α)} {failure : ε → Failure} {a : α} :
    w.run (orFail act failure) = (.ok a, w') ↔ Id.run (act.run w) = (.ok a, w') := by
  show (match Id.run (act.run w) with | (r, w') => (r.mapError failure, w')) = _ ↔ _
  rcases Id.run (act.run w) with ⟨e | _, _⟩
  · simp
  · simp

theorem run_unlessFailed_eq_ok {result : Except ε α} {failure : ε → Failure} {a : α} :
    w.run (unlessFailed result failure) = (.ok a, w') ↔ result = .ok a ∧ w = w' := by
  rw [unlessFailed, run_orFail_eq_ok]
  show (result, w) = _ ↔ _
  rw [Prod.mk.injEq]

/-- What a file holds does not depend on the terminal. -/
theorem readFile_congr (hfolder : w'.folder = w.folder) {path : String} {bytes : List UInt8}
    (h : w.readFile path = (.ok bytes, w)) : w'.readFile path = (.ok bytes, w') := by
  obtain ⟨-, hread⟩ := readFile_eq_ok.1 h
  rw [← hfolder] at hread
  exact readFile_eq_ok.2 ⟨rfl, hread⟩

/-! ### Steps of commands -/

theorem run_load_eq_ok {i : Input} {o : Delimited.Options} {t : Table} :
    w.run i.load = (.ok (o, t), w') ↔
      w' = w ∧ i.options = .ok o ∧
        ∃ bytes, w.readFile i.path = (.ok bytes, w) ∧ Delimited.read o bytes = .ok t := by
  simp only [Input.load, run_bind_eq_ok, run_unlessFailed_eq_ok, run_orFail_eq_ok, run_pure]
  constructor
  · rintro ⟨o', w₁, ⟨ho, rfl⟩, bytes, w₂, hread, t', w₃, ⟨ht, rfl⟩, h⟩
    obtain ⟨rfl, -⟩ := readFile_eq_ok.1 hread
    cases h
    exact ⟨rfl, ho, bytes, hread, ht⟩
  · rintro ⟨rfl, ho, bytes, hread, ht⟩
    exact ⟨o, w', ⟨ho, rfl⟩, bytes, w', hread, t, w', ⟨ht, rfl⟩, rfl⟩

theorem run_loadPlan_eq_ok {path : String} {plan : Plan} :
    w.run (loadPlan path) = (.ok plan, w') ↔
      w' = w ∧ ∃ bytes, w.readFile path = (.ok bytes, w) ∧ planOf bytes = .ok plan := by
  simp only [loadPlan, run_bind_eq_ok, run_unlessFailed_eq_ok, run_orFail_eq_ok]
  constructor
  · rintro ⟨bytes, w₁, hread, hplan, rfl⟩
    obtain ⟨rfl, -⟩ := readFile_eq_ok.1 hread
    exact ⟨rfl, bytes, hread, hplan⟩
  · rintro ⟨rfl, bytes, hread, hplan⟩
    exact ⟨bytes, w', hread, hplan, rfl⟩

theorem run_readAnswers_eq_ok {path : String} {answers : List String} :
    w.run (readAnswers path) = (.ok answers, w') ↔
      w' = w ∧ ∃ bytes text, w.readFile path = (.ok bytes, w) ∧ textOf bytes = .ok text ∧
        answers = Text.lines text := by
  simp only [readAnswers, run_bind_eq_ok, run_unlessFailed_eq_ok, run_orFail_eq_ok, run_pure]
  constructor
  · rintro ⟨bytes, w₁, hread, text, w₂, ⟨htext, rfl⟩, h⟩
    obtain ⟨rfl, -⟩ := readFile_eq_ok.1 hread
    cases h
    exact ⟨rfl, bytes, text, hread, htext, rfl⟩
  · rintro ⟨rfl, bytes, text, hread, htext, rfl⟩
    exact ⟨bytes, w', hread, text, w', ⟨htext, rfl⟩, rfl⟩

theorem run_savePlan_eq_ok {plan : Plan} {path : String} :
    w.run (savePlan plan (some path)) = (.ok (), w') ↔
      w.writeFile path (Utf8.encode plan.document) = (.ok (), w') :=
  run_orFail_eq_ok

theorem run_writeTable_eq_ok {o : Delimited.Options} {t : Table} {path : String} :
    w.run (writeTable o t (some path)) = (.ok (), w') ↔
      w.writeFile path (Delimited.write o t) = (.ok (), w') :=
  run_orFail_eq_ok

/-- A dialogue leaves the files as they are, and every step of its plan was built from
answers. -/
theorem run_converse {c : QueryCommand} {schema : Schema} {conversation : Conversation}
    (h : w.run (c.converse schema) = (.ok conversation, w')) :
    w'.folder = w.folder ∧ ∀ plan, conversation.result = .ok plan → plan.Spelt := by
  unfold QueryCommand.converse at h
  dsimp only at h
  split at h
  · next path hanswers =>
    -- The file with the answers is read, and they are the channel.
    simp only [run_bind_eq_ok, run_readAnswers_eq_ok, run_pure] at h
    obtain ⟨answers, w₁, ⟨rfl, -⟩, h⟩ := h
    cases h
    exact ⟨rfl, fun plan => Session.spelt_of_converse⟩
  · next hanswers =>
    -- The terminal is the channel, and only the terminal changes.
    rw [run_lift] at h
    cases h
    exact ⟨rfl, fun plan => Session.spelt_of_converse⟩

end World

/-! ### Commands -/

section

variable {w w' : World}

/-- What a query does that succeeds: it loads a table, has a dialogue that leaves the files as
they are, saves the plan, and writes the table that the plan leads to. -/
structure Queried (c : QueryCommand) (report : RunReport) (o : Delimited.Options) (table : Table)
    (w asked saved w' : World) : Prop where
  /-- The table is loaded. -/
  load_eq : w.run c.input.load = (.ok (o, table), w)
  /-- The dialogue leaves the files as they are. -/
  folder_eq : asked.folder = w.folder
  /-- Every step of the plan was built from answers. -/
  spelt : report.plan.Spelt
  /-- The plan leads to the table that is reported. -/
  execute_eq : report.plan.execute table = .ok ⟨report.table, report.steps⟩
  /-- The plan is saved. -/
  save_eq : asked.run (savePlan report.plan c.planFile) = (.ok (), saved)
  /-- The table is written. -/
  write_eq : saved.run (writeTable o report.table c.outputFile) = (.ok (), w')
  /-- The report names the file with the table. -/
  input_eq : report.input = c.input.path
  /-- The report names the file with the plan. -/
  planFile_eq : report.planFile = c.planFile

theorem exists_queried {c : QueryCommand} {report : RunReport}
    (h : w.run c.run = (.ok report, w')) :
    ∃ o table asked saved, Queried c report o table w asked saved w' := by
  simp only [QueryCommand.run, World.run_bind_eq_ok, World.run_unlessFailed_eq_ok,
    World.run_pure] at h
  obtain ⟨⟨o, table⟩, w₀, hload, conversation, asked, hconverse, plan, w₁, ⟨hresult, rfl⟩,
    ⟨result, steps⟩, w₂, ⟨hexecute, rfl⟩, ⟨⟩, saved, hsave, ⟨⟩, w₃, hwrite, hreport⟩ := h
  obtain ⟨rfl, -⟩ := World.run_load_eq_ok.1 hload
  obtain ⟨hfolder, hspelt⟩ := World.run_converse hconverse
  cases hreport
  exact ⟨o, table, asked, saved, hload, hfolder, hspelt plan hresult, hexecute, hsave, hwrite,
    rfl, rfl⟩

/-- The plan that a query saves is the one in its file. -/
theorem planOf_document {plan : Plan} (h : plan.Spelt) :
    planOf (Utf8.encode plan.document) = .ok plan := by
  rw [planOf, textOf, Utf8.decode_encode]
  simp only [Except.mapError_ok, Plan.ofDocument_document h]

/-- Behind a query the table is still in its file and the plan in its own, and writing the
resulting table once more changes nothing. -/
theorem Queried.files {c : QueryCommand} {report : RunReport} {o : Delimited.Options}
    {table : Table} {asked saved : World} {path : String} {bytes : List UInt8}
    (h : Queried c report o table w asked saved w') (hplan : c.planFile = some path)
    (hinput : Path.placeOf? path ≠ Path.placeOf? c.input.path)
    (houtput : ∀ out, c.outputFile = some out →
      Path.placeOf? out ≠ Path.placeOf? c.input.path ∧ Path.placeOf? out ≠ Path.placeOf? path)
    (hread : w.readFile c.input.path = (.ok bytes, w)) :
    w'.readFile c.input.path = (.ok bytes, w') ∧
      w'.readFile path = (.ok (Utf8.encode report.plan.document), w') ∧
      w'.run (writeTable o report.table c.outputFile) = (.ok (), w') := by
  have hsave := h.save_eq
  rw [hplan, World.run_savePlan_eq_ok] at hsave
  have hasked := World.readFile_congr h.folder_eq hread
  have hbytes := World.readFile_of_writeFile_of_ne hsave hinput.symm hasked
  have hdocument := World.readFile_of_writeFile hsave
  -- The resulting table is written last, if at all, and to a place of its own.
  have hwrite := h.write_eq
  cases hout : c.outputFile with
  | none =>
    rw [hout] at hwrite
    cases hwrite
    exact ⟨hbytes, hdocument, rfl⟩
  | some out =>
    obtain ⟨hfromInput, hfromPlan⟩ := houtput out hout
    rw [hout, World.run_writeTable_eq_ok] at hwrite
    have hagain := World.writeFile_of_writeFile hwrite
    exact ⟨World.readFile_of_writeFile_of_ne hwrite hfromInput.symm hbytes,
      World.readFile_of_writeFile_of_ne hwrite hfromPlan.symm hdocument,
      World.run_writeTable_eq_ok.2 hagain⟩

/-- A stored plan that can be executed is. -/
theorem run_apply {c : ApplyCommand} {o : Delimited.Options} {table : Table} {plan : Plan}
    {execution : Execution} (hload : w.run c.input.load = (.ok (o, table), w))
    (hplan : w.run (loadPlan c.planFile) = (.ok plan, w))
    (hexecute : plan.execute table = .ok execution)
    (hwrite : w.run (writeTable o execution.table c.outputFile) = (.ok (), w)) :
    w.run c.run = (.ok {
      input := c.input.path
      table := execution.table
      plan := plan
      steps := execution.steps
      dialogue := none
      planFile := some c.planFile
      outputFile := c.outputFile }, w) := by
  simp only [ApplyCommand.run, World.run_bind_eq_ok, World.run_unlessFailed_eq_ok]
  exact ⟨_, _, hload, _, _, hplan, _, _, ⟨hexecute, rfl⟩, _, _, hwrite, rfl⟩

/-- **The plan of a query is loaded from its file, and applying it to the same table comes to
the same.**  The dialogue may take its answers from anywhere, and the texts in the plan may be
any.  The files have to be different ones, and paths are told apart by the places they lead
to: `plan` and `./plan` are one path.  The resulting table may be written again or not. -/
theorem apply_of_query {c : QueryCommand} {report : RunReport} {path : String}
    (hrun : w.run c.run = (.ok report, w')) (hplan : c.planFile = some path)
    (hinput : Path.placeOf? path ≠ Path.placeOf? c.input.path)
    (houtput : ∀ out, c.outputFile = some out →
      Path.placeOf? out ≠ Path.placeOf? c.input.path ∧ Path.placeOf? out ≠ Path.placeOf? path) :
    w'.run (loadPlan path) = (.ok report.plan, w') ∧
      ∀ out, out = none ∨ out = c.outputFile →
        w'.run (ApplyCommand.run ⟨c.input, path, out⟩) =
          (.ok { report with dialogue := none, outputFile := out }, w') := by
  obtain ⟨o, table, asked, saved, h⟩ := exists_queried hrun
  obtain ⟨-, hoptions, bytes, hread, htable⟩ := World.run_load_eq_ok.1 h.load_eq
  obtain ⟨hbytes, hdocument, hagain⟩ := h.files hplan hinput houtput hread
  have hload : w'.run c.input.load = (.ok (o, table), w') :=
    World.run_load_eq_ok.2 ⟨rfl, hoptions, bytes, hbytes, htable⟩
  have hloadPlan : w'.run (loadPlan path) = (.ok report.plan, w') :=
    World.run_loadPlan_eq_ok.2 ⟨rfl, _, hdocument, planOf_document h.spelt⟩
  refine ⟨hloadPlan, ?_⟩
  intro out hout
  have hwrite : w'.run (writeTable o report.table out) = (.ok (), w') := by
    rcases hout with rfl | rfl
    · rfl
    · exact hagain
  have happly := run_apply (c := ⟨c.input, path, out⟩) hload hloadPlan h.execute_eq hwrite
  rw [happly, ← h.input_eq, ← hplan, ← h.planFile_eq]

end

/-- A table whose first column has an umlaut, a quote and a backslash in its name, and a file
with answers. -/
def shelf : World where
  folder := .ofFiles [
    ("in.csv", Utf8.encode "\"höhe \"\"\\\",b\na,1\nz,2\nq,3\n"),
    ("answers", Utf8.encode "SortBy\nhöhe \"\\\nDescending\n\n")]
  terminal := { input := [] }

/-- A query whose first transformation is given in advance, with control characters in its
literal. -/
def shelfQuery : QueryCommand where
  input := { path := "in.csv", infer := false }
  suggestions := ["FilterBy", "höhe \"\\", "NotEquals", "q\x01\t☃"]
  answers := some "answers"
  planFile := some "./plan.json"
  outputFile := some "out.csv"

theorem apply_of_query_shelf :
    ∃ report w', shelf.run shelfQuery.run = (.ok report, w') ∧
      report.plan = [.filterBy ⟨"höhe \"\\", .notEquals, "q\x01\t☃"⟩,
        .sortBy "höhe \"\\" .descending] ∧
      w'.run (loadPlan "./plan.json") = (.ok report.plan, w') ∧
      w'.run (ApplyCommand.run ⟨shelfQuery.input, "./plan.json", some "out.csv"⟩) =
        (.ok { report with dialogue := none, outputFile := some "out.csv" }, w') := by
  have hplan : (shelf.run shelfQuery.run).1.toOption.map RunReport.plan =
      some [.filterBy ⟨"höhe \"\\", .notEquals, "q\x01\t☃"⟩, .sortBy "höhe \"\\" .descending] := by
    decide +kernel
  cases hrun : shelf.run shelfQuery.run with
  | mk result w' =>
    rw [hrun] at hplan
    cases result with
    | error failure => cases hplan
    | ok report =>
      have houtput : ∀ out, shelfQuery.outputFile = some out →
          Path.placeOf? out ≠ Path.placeOf? shelfQuery.input.path ∧
            Path.placeOf? out ≠ Path.placeOf? "./plan.json" := by
        intro out hout
        cases hout
        decide
      obtain ⟨hload, happly⟩ := apply_of_query hrun rfl (by decide) houtput
      exact ⟨report, w', rfl, Option.some.inj hplan, hload, happly _ (.inr rfl)⟩

end TableTalk
