import TableTalk.Command.Program
import TableTalk.Proofs.Reapplying
import TableTalk.Proofs.Records

/-!
# Files that a command changes

All that can go wrong with a table, its answers, its plan and its execution goes wrong before a
command writes a file.  What a command does up to that point leaves every file as it is, whether
it succeeds or not; then at most two files are written, the plan and the resulting table, and
what is in the file of the table is its text.  Only a log is opened before everything else.

Which files an act can change is told by the places that it touches.  Acts in a row touch the
places that each of them touches.

## Main definitions

* `TouchesOnly` — an act that leaves the files at all other places as they are.
* `QueryCommand.prepare`, `ApplyCommand.prepare` — what a command does before it writes.
* `finish` — what it writes.
* `WritesLast` — how a command is related to files.

## Main results

* `QueryCommand.run_eq`, `ApplyCommand.run_eq` — a command prepares, and then it finishes.
* `QueryCommand.prepare_touches`, `ApplyCommand.prepare_touches` — to prepare touches no file.
* `files_of_run` — **a command that fails before it writes changes no file, and one that
  succeeds changes those that it was asked to write.**
-/

namespace TableTalk

/-- The place that a path leads to, if a path is given and leads to a file. -/
def Path.placesOf (path : Option String) : List Location := (path.bind placeOf?).toList

namespace World

variable {w : World} {p : Location}

/-! ### Files that are written -/

theorem file?_withFolder {result : Except FileFault Folder}
    (h : ∀ g, result = .ok g → g.file? p = w.folder.file? p) :
    (w.withFolder result).2.folder.file? p = w.folder.file? p := by
  cases result with
  | error fault => rfl
  | ok g => exact h g rfl

/-- A file that is written or made changes at no other place. -/
theorem file?_of_target {f : Folder} {route : Path} {q : Location} {path : String}
    (hp : p ∉ Path.placesOf (some path)) (hroute : Path.ofText path = .ok route)
    (hq : f.target route = .ok q) (bytes : List UInt8) : (f.put q bytes).file? p = f.file? p := by
  refine Folder.file?_put_of_ne bytes ?_
  rintro rfl
  rw [Path.placesOf, Option.bind_some, Path.placeOf?_eq hroute, Folder.place?_of_target hq] at hp
  exact hp List.mem_cons_self

theorem file?_writeFile (w : World) {path : String} (bytes : List UInt8)
    (hp : p ∉ Path.placesOf (some path)) :
    (w.writeFile path bytes).2.folder.file? p = w.folder.file? p := by
  refine file?_withFolder fun g hg => ?_
  obtain ⟨route, hroute, hwrite⟩ := Except.bind_eq_ok_iff.1 hg
  obtain ⟨q, hq, rfl⟩ := Folder.write_eq_ok.1 hwrite
  exact file?_of_target hp hroute hq bytes

theorem file?_touchFile (w : World) {path : String} (hp : p ∉ Path.placesOf (some path)) :
    (w.touchFile path).2.folder.file? p = w.folder.file? p := by
  refine file?_withFolder fun g hg => ?_
  obtain ⟨route, hroute, htouch⟩ := Except.bind_eq_ok_iff.1 hg
  cases hq : w.folder.target route with
  | error fault =>
    rw [Folder.touch, hq] at htouch
    cases htouch
  | ok q =>
    rw [Folder.touch, hq] at htouch
    cases htouch
    dsimp only
    split
    · rfl
    · exact file?_of_target hp hroute hq []

/-! ### Acts that fail -/

variable {α β ε : Type} {w' w'' : World} {failure : Failure}

/-- Two acts in a row fail if the first one does, or the second one behind it. -/
theorem run_bind_eq_error {x : ExceptT Failure (StateM World) α}
    {f : α → ExceptT Failure (StateM World) β} :
    w.run (x >>= f) = (.error failure, w'') ↔ w.run x = (.error failure, w'') ∨
      ∃ a w', w.run x = (.ok a, w') ∧ w'.run (f a) = (.error failure, w'') := by
  rw [run_bind]
  rcases w.run x with ⟨e | a, w₁⟩
  · simp
  · simp

theorem exists_fault_of_orFail {act : StateM World (Except ε α)} {describe : ε → Failure}
    (h : w.run (orFail act describe) = (.error failure, w')) :
    ∃ fault, failure = describe fault := by
  change (match Id.run (act.run w) with | (r, w') => (r.mapError describe, w')) = _ at h
  generalize Id.run (act.run w) = out at h
  rcases out with ⟨fault | a, w₁⟩
  · cases h
    exact ⟨fault, rfl⟩
  · cases h

end World

/-! ### Acts and the places that they touch -/

/-- An act that leaves the files at all other places as they are, whatever it comes to. -/
def TouchesOnly {α : Type} (places : List Location) (act : ExceptT Failure (StateM World) α) :
    Prop :=
  ∀ (w : World) (p : Location), p ∉ places → (w.run act).2.folder.file? p = w.folder.file? p

namespace TouchesOnly

variable {α β ε : Type} {places more : List Location}

theorem pure (a : α) : TouchesOnly places (pure a) := fun _ _ _ => rfl

/-- Acts in a row touch the places that each of them touches. -/
theorem bind {x : ExceptT Failure (StateM World) α} {f : α → ExceptT Failure (StateM World) β}
    (hx : TouchesOnly places x) (hf : ∀ a, TouchesOnly more (f a)) :
    TouchesOnly (places ++ more) (x >>= f) := by
  intro w p hp
  rw [List.mem_append, not_or] at hp
  have hfirst := hx w p hp.1
  rw [World.run_bind]
  generalize w.run x = out at hfirst
  rcases out with ⟨failure | a, w'⟩
  · exact hfirst
  · exact (hf a w' p hp.2).trans hfirst

/-- What touches nothing may stand in front of anything. -/
theorem bind_nil {x : ExceptT Failure (StateM World) α}
    {f : α → ExceptT Failure (StateM World) β} (hx : TouchesOnly [] x)
    (hf : ∀ a, TouchesOnly places (f a)) : TouchesOnly places (x >>= f) := hx.bind hf

/-- What touches nothing may stand behind anything. -/
theorem bind_last {x : ExceptT Failure (StateM World) α}
    {f : α → ExceptT Failure (StateM World) β} (hx : TouchesOnly places x)
    (hf : ∀ a, TouchesOnly [] (f a)) : TouchesOnly places (x >>= f) := by
  have h := hx.bind hf
  rwa [List.append_nil] at h

theorem orFail {act : StateM World (Except ε α)} {failure : ε → Failure}
    (h : ∀ (w : World) (p : Location), p ∉ places →
      (Id.run (act.run w)).2.folder.file? p = w.folder.file? p) :
    TouchesOnly places (orFail act failure) := h

theorem unlessFailed (result : Except ε α) (failure : ε → Failure) :
    TouchesOnly places (unlessFailed result failure) := fun _ _ _ => rfl

theorem readFile (path : String) (failure : FileFault → Failure) :
    TouchesOnly places (TableTalk.orFail (Acts.readFile path) failure) := fun _ _ _ => rfl

end TouchesOnly

/-! ### Steps of commands -/

theorem openLog_touches (log : Option String) :
    TouchesOnly (Path.placesOf log) (openLog log) := by
  cases log with
  | none => exact .pure _
  | some path => exact .orFail fun w p hp => w.file?_touchFile hp

theorem savePlan_touches (plan : Plan) (file : Option String) :
    TouchesOnly (Path.placesOf file) (savePlan plan file) := by
  cases file with
  | none => exact .pure _
  | some path => exact .orFail fun w p hp => w.file?_writeFile _ hp

theorem writeTable_touches (o : Delimited.Options) (t : Table) (file : Option String) :
    TouchesOnly (Path.placesOf file) (writeTable o t file) := by
  cases file with
  | none => exact .pure _
  | some path => exact .orFail fun w p hp => w.file?_writeFile _ hp

theorem Input.load_touches (i : Input) : TouchesOnly [] i.load :=
  (TouchesOnly.unlessFailed _ _).bind_nil fun _ => (TouchesOnly.readFile _ _).bind_nil fun _ =>
    (TouchesOnly.unlessFailed _ _).bind_nil fun _ => .pure _

theorem readAnswers_touches (path : String) : TouchesOnly [] (readAnswers path) :=
  (TouchesOnly.readFile _ _).bind_nil fun _ => (TouchesOnly.unlessFailed _ _).bind_nil fun _ =>
    .pure _

theorem loadPlan_touches (path : String) : TouchesOnly [] (loadPlan path) :=
  (TouchesOnly.readFile _ _).bind_nil fun _ => TouchesOnly.unlessFailed _ _

/-- A dialogue takes place on the terminal. -/
theorem QueryCommand.converse_touches (c : QueryCommand) (schema : Schema) :
    TouchesOnly [] (c.converse schema) := by
  unfold QueryCommand.converse
  cases c.answers with
  | some path => exact (readAnswers_touches path).bind_nil fun _ => .pure _
  | none => exact fun _ _ _ => rfl

/-! ### What a command does before it writes -/

section

variable {m : Type → Type} [Monad m] [Acts m]

/-- What a query has to tell when it is about to write. -/
def QueryCommand.prepare (c : QueryCommand) :
    ExceptT Failure m (Delimited.Options × RunReport) := do
  let (o, table) ← c.input.load
  let conversation ← c.converse table.schema
  let plan ← unlessFailed conversation.result .dialogue
  let execution ← unlessFailed (plan.execute table) .execution
  return (o, {
    input := c.input.path
    table := execution.table
    plan := plan
    steps := execution.steps
    dialogue := some (conversation.report c.showTranscript)
    planFile := c.planFile
    outputFile := c.outputFile })

/-- What the execution of a stored plan has to tell when it is about to write. -/
def ApplyCommand.prepare (c : ApplyCommand) :
    ExceptT Failure m (Delimited.Options × RunReport) := do
  let (o, table) ← c.input.load
  let plan ← loadPlan c.planFile
  let execution ← unlessFailed (plan.execute table) .execution
  return (o, {
    input := c.input.path
    table := execution.table
    plan := plan
    steps := execution.steps
    dialogue := none
    planFile := some c.planFile
    outputFile := c.outputFile })

/-- Writes the plan and the resulting table, each if a file is given for it. -/
def finish (planFile outputFile : Option String) (prepared : Delimited.Options × RunReport) :
    ExceptT Failure m RunReport := do
  savePlan prepared.2.plan planFile
  writeTable prepared.1 prepared.2.table outputFile
  return prepared.2

end

theorem QueryCommand.run_eq (c : QueryCommand) :
    (c.run : ExceptT Failure (StateM World) RunReport) =
      c.prepare >>= finish c.planFile c.outputFile := by
  simp only [QueryCommand.run, QueryCommand.prepare, finish, bind_assoc, pure_bind]

theorem ApplyCommand.run_eq (c : ApplyCommand) :
    (c.run : ExceptT Failure (StateM World) RunReport) =
      c.prepare >>= finish none c.outputFile := by
  simp only [ApplyCommand.run, ApplyCommand.prepare, finish, savePlan, bind_assoc, pure_bind]

/-- To prepare a query touches no file. -/
theorem QueryCommand.prepare_touches (c : QueryCommand) :
    TouchesOnly [] (c.prepare : ExceptT Failure (StateM World) (Delimited.Options × RunReport)) :=
  c.input.load_touches.bind_nil fun ⟨_, table⟩ =>
    (c.converse_touches table.schema).bind_nil fun _ =>
      (TouchesOnly.unlessFailed _ _).bind_nil fun _ =>
        (TouchesOnly.unlessFailed _ _).bind_nil fun _ => .pure _

/-- To prepare the execution of a stored plan touches no file. -/
theorem ApplyCommand.prepare_touches (c : ApplyCommand) :
    TouchesOnly [] (c.prepare : ExceptT Failure (StateM World) (Delimited.Options × RunReport)) :=
  c.input.load_touches.bind_nil fun ⟨_, _⟩ =>
    (loadPlan_touches c.planFile).bind_nil fun _ =>
      (TouchesOnly.unlessFailed _ _).bind_nil fun _ => .pure _

/-- What is prepared is written as it was read. -/
theorem QueryCommand.options_of_prepare {c : QueryCommand} {w w' : World}
    {prepared : Delimited.Options × RunReport} (h : w.run c.prepare = (.ok prepared, w')) :
    c.input.options = .ok prepared.1 := by
  simp only [QueryCommand.prepare, World.run_bind_eq_ok, World.run_unlessFailed_eq_ok,
    World.run_pure] at h
  obtain ⟨⟨o, table⟩, w₁, hload, conversation, w₂, -, plan, w₃, -, execution, w₄, -, hprepared⟩ := h
  obtain ⟨-, hoptions, -⟩ := World.run_load_eq_ok.1 hload
  cases hprepared
  exact hoptions

theorem ApplyCommand.options_of_prepare {c : ApplyCommand} {w w' : World}
    {prepared : Delimited.Options × RunReport} (h : w.run c.prepare = (.ok prepared, w')) :
    c.input.options = .ok prepared.1 := by
  simp only [ApplyCommand.prepare, World.run_bind_eq_ok, World.run_unlessFailed_eq_ok,
    World.run_pure] at h
  obtain ⟨⟨o, table⟩, w₁, hload, plan, w₂, -, execution, w₃, -, hprepared⟩ := h
  obtain ⟨-, hoptions, -⟩ := World.run_load_eq_ok.1 hload
  cases hprepared
  exact hoptions

theorem Input.ascii_of_options {i : Input} {o : Delimited.Options} (h : i.options = .ok o) :
    o.delimiter < 0x80 := by
  rw [Input.options] at h
  split at h
  · next hlt =>
    cases h
    rw [UInt8.lt_iff_toNat_lt, UInt8.toNat_ofNat']
    simp only [UInt8.reduceToNat]
    omega
  · cases h

/-! ### What a command writes -/

theorem finish_touches (planFile outputFile : Option String)
    (prepared : Delimited.Options × RunReport) :
    TouchesOnly (Path.placesOf planFile ++ Path.placesOf outputFile)
      (finish planFile outputFile prepared) := by
  have hwrite := writeTable_touches prepared.1 prepared.2.table outputFile
  have hsave := savePlan_touches prepared.2.plan planFile
  exact hsave.bind fun _ => hwrite.bind_last fun _ => .pure prepared.2

/-- A command that finishes reports what it prepared, and its table is in its file. -/
theorem run_finish_eq_ok {planFile : Option String} {path : String}
    {prepared : Delimited.Options × RunReport} {report : RunReport} {w w' : World}
    (h : w.run (finish planFile (some path) prepared) = (.ok report, w')) :
    report = prepared.2 ∧
      w'.readFile path = (.ok (Delimited.write prepared.1 prepared.2.table), w') := by
  simp only [finish, World.run_bind_eq_ok, World.run_pure] at h
  obtain ⟨⟨⟩, saved, -, ⟨⟩, written, hwrite, hreport⟩ := h
  cases hreport
  exact ⟨rfl, World.readFile_of_writeFile (World.run_writeTable_eq_ok.1 hwrite)⟩

/-- A command that does not finish was writing its plan or its table. -/
theorem run_finish_eq_error {planFile outputFile : Option String}
    {prepared : Delimited.Options × RunReport} {failure : Failure} {w w' : World}
    (h : w.run (finish planFile outputFile prepared) = (.error failure, w')) :
    (∃ path fault, planFile = some path ∧ failure = .savePlan path fault) ∨
      ∃ path fault, outputFile = some path ∧ failure = .output path fault := by
  rw [finish, World.run_bind_eq_error] at h
  rcases h with hsave | ⟨⟨⟩, saved, -, h⟩
  · left
    cases planFile with
    | none => cases hsave
    | some path =>
      obtain ⟨fault, rfl⟩ := World.exists_fault_of_orFail hsave
      exact ⟨path, fault, rfl, rfl⟩
  · right
    rw [World.run_bind_eq_error] at h
    rcases h with hwrite | ⟨⟨⟩, written, -, h⟩
    · cases outputFile with
      | none => cases hwrite
      | some path =>
        obtain ⟨fault, rfl⟩ := World.exists_fault_of_orFail hwrite
        exact ⟨path, fault, rfl, rfl⟩
    · cases h

/-- How a command is related to files, where `prepare` is all that it does before it writes.  A
log that is kept has lines in its file, so nothing is said about a table that goes there. -/
structure WritesLast (log planFile outputFile : Option String) (i : Input)
    (prepare : ExceptT Failure (StateM World) (Delimited.Options × RunReport))
    (run : ExceptT Failure (StateM World) RunReport) : Prop where
  /-- A command that fails before it writes changes no file but the log. -/
  unwritten : ∀ (w : World) (failure : Failure) (w' : World),
    w.run (do openLog log; prepare) = (.error failure, w') →
    w.run (do openLog log; run) = (.error failure, w') ∧
      ∀ p ∉ Path.placesOf log, w'.folder.file? p = w.folder.file? p
  /-- A command that fails otherwise cannot write its plan or its table. -/
  failed : ∀ (w : World) (failure : Failure) (w' : World),
    w.run (do openLog log; run) = (.error failure, w') →
    w.run (do openLog log; prepare) = (.error failure, w') ∨
      (∃ path fault, planFile = some path ∧ failure = .savePlan path fault) ∨
      ∃ path fault, outputFile = some path ∧ failure = .output path fault
  /-- A command that succeeds changes the files that it was asked to write, and the file for the
  table that it reports holds its text. -/
  written : ∀ (w : World) (report : RunReport) (w' : World),
    w.run (do openLog log; run) = (.ok report, w') →
    (∀ p ∉ Path.placesOf log ++ (Path.placesOf planFile ++ Path.placesOf outputFile),
      w'.folder.file? p = w.folder.file? p) ∧
    ∀ path, outputFile = some path → (∀ p ∈ Path.placesOf log, Path.placeOf? path ≠ some p) →
      ∃ o, i.options = .ok o ∧
        w'.readFile path = (.ok (Utf8.encode (Delimited.writtenText o report.table)), w')

theorem writesLast {log planFile outputFile : Option String} {i : Input}
    {prepare : ExceptT Failure (StateM World) (Delimited.Options × RunReport)}
    (htouch : TouchesOnly [] prepare)
    (hoptions : ∀ (w : World) prepared (w' : World),
      w.run prepare = (.ok prepared, w') → i.options = .ok prepared.1) :
    WritesLast log planFile outputFile i prepare (prepare >>= finish planFile outputFile) where
  unwritten := by
    intro w failure w' h
    have hopened := (openLog_touches log).bind_last fun _ => htouch
    refine ⟨?_, ?_⟩
    · rw [← bind_assoc, World.run_bind, h]
    · intro p hp
      have hfile := hopened w p hp
      rw [h] at hfile
      exact hfile
  failed := by
    intro w failure w' h
    rw [← bind_assoc, World.run_bind] at h
    cases hprepare : w.run (do openLog log; prepare) with
    | mk result w₁ =>
      rw [hprepare] at h
      cases result with
      | error e =>
        cases h
        exact .inl rfl
      | ok prepared => exact .inr (run_finish_eq_error h)
  written := by
    intro w report w' h
    have hrun := (openLog_touches log).bind fun _ =>
      htouch.bind_nil (finish_touches planFile outputFile)
    refine ⟨?_, ?_⟩
    · intro p hp
      have hfile := hrun w p hp
      rw [h] at hfile
      exact hfile
    · intro path hpath _
      subst hpath
      simp only [World.run_bind_eq_ok] at h
      obtain ⟨⟨⟩, opened, -, prepared, w₁, hprepare, hfinish⟩ := h
      obtain ⟨rfl, hread⟩ := run_finish_eq_ok hfinish
      have ho := hoptions opened prepared w₁ hprepare
      refine ⟨prepared.1, ho, ?_⟩
      rw [Delimited.encode_writtenText (Input.ascii_of_options ho)]
      exact hread

/-- **A command that fails before it writes changes no file, and one that succeeds changes those
that it was asked to write.**  The first holds whatever fails: the table or the plan cannot be
loaded, the answers cannot be read, the dialogue fails, or the plan cannot be executed. -/
theorem files_of_run (log : Option String) :
    (∀ c : QueryCommand, WritesLast log c.planFile c.outputFile c.input c.prepare c.run) ∧
      ∀ c : ApplyCommand, WritesLast log none c.outputFile c.input c.prepare c.run := by
  refine ⟨?_, ?_⟩
  · intro c
    rw [c.run_eq]
    exact writesLast c.prepare_touches fun w prepared w' => c.options_of_prepare
  · intro c
    rw [c.run_eq]
    exact writesLast c.prepare_touches fun w prepared w' => c.options_of_prepare

/-- A query whose answers are all given in advance. -/
def shelfFilter : QueryCommand where
  input := { path := "in.csv", infer := false }
  suggestions := ["FilterBy", "höhe \"\\", "NotEquals", "q", ""]
  planFile := some "./plan.json"
  outputFile := some "out.csv"

/-- The query leaves out a row; without its last answers it fails, since nothing is typed. -/
theorem files_of_run_shelf :
    (∃ report w', shelf.run (do openLog none; shelfFilter.run) = (.ok report, w') ∧
      (∀ p ∉ [["plan.json"], ["out.csv"]], w'.folder.file? p = shelf.folder.file? p) ∧
      w'.readFile "out.csv" = (.ok (Utf8.encode "\"höhe \"\"\\\",b\na,1\nz,2\n"), w')) ∧
    ∃ failure w', shelf.run (do
        openLog (some "log")
        QueryCommand.run { shelfFilter with suggestions := ["FilterBy"] }) =
        (.error failure, w') ∧
      ∀ p ≠ ["log"], w'.folder.file? p = shelf.folder.file? p := by
  refine ⟨?_, ?_⟩
  · have htext : (shelf.run (do openLog none; shelfFilter.run)).1.toOption.map
        (fun report => Delimited.writtenText { infer := false } report.table) =
          some "\"höhe \"\"\\\",b\na,1\nz,2\n" := by decide +kernel
    cases hrun : shelf.run (do openLog none; shelfFilter.run) with
    | mk result w' =>
      rw [hrun] at htext
      cases result with
      | error failure => cases htext
      | ok report =>
        obtain ⟨hfiles, hout⟩ := ((files_of_run none).1 shelfFilter).written _ _ _ hrun
        obtain ⟨o, ho, hread⟩ := hout "out.csv" rfl (by decide)
        have ho' : shelfFilter.input.options = .ok { infer := false } := by decide
        cases ho.symm.trans ho'
        have htext : Delimited.writtenText { infer := false } report.table = _ :=
          Option.some.inj htext
        rw [htext] at hread
        exact ⟨report, w', rfl, hfiles, hread⟩
  · have hfails : (shelf.run (do
        openLog (some "log")
        QueryCommand.prepare { shelfFilter with suggestions := ["FilterBy"] })).1.toOption =
          none := by decide +kernel
    cases hrun : shelf.run (do
        openLog (some "log")
        QueryCommand.prepare { shelfFilter with suggestions := ["FilterBy"] }) with
    | mk result w' =>
      rw [hrun] at hfails
      cases result with
      | ok prepared => cases hfails
      | error failure =>
        obtain ⟨hrun, hfiles⟩ := ((files_of_run (some "log")).1 _).unwritten _ _ _ hrun
        refine ⟨failure, w', hrun, ?_⟩
        intro p hp
        have hplace : Path.placesOf (some "log") = [["log"]] := by decide
        refine hfiles p ?_
        rw [hplace, List.mem_singleton]
        exact hp

end TableTalk
