import TableTalk.Command.World
import TableTalk.Proofs.Failing

/-!
# Places that paths lead to

Where a path leads can be told from its steps alone; the files decide no more than whether the
way can be gone.  What is written to one place is read there again, what stands at another
place stays, and every way stays open, so the same file can be written once more.

## Main definitions

* `Path.place?`, `Path.placeOf?` — the place that a path or its text leads to.

## Main results

* `World.readFile_of_writeFile` — what was written is read.
* `World.readFile_of_writeFile_of_ne` — what stands at another place is read as before.
* `World.writeFile_of_writeFile` — writing once more what was written changes nothing.
-/

namespace TableTalk

/-! ### Places by the steps alone -/

/-- The place behind a step, whatever is there. -/
def Location.behind (p : Location) : PathStep → Location
  | .up => p.up
  | .down name => p ++ [name]

namespace Path

/-- The place of the file that a path leads to, whatever is there, unless it leads to a folder. -/
def place? (path : Path) : Option Location :=
  path.name?.map fun name =>
    path.steps.foldl Location.behind (if path.fromRoot then .root else []) ++ [name]

/-- The place of the file that the text of a path leads to. -/
def placeOf? (text : String) : Option Location := (ofText text).toOption.bind place?

theorem placeOf?_eq {text : String} {path : Path} (h : ofText text = .ok path) :
    placeOf? text = path.place? := by
  rw [placeOf?, h]
  rfl

end Path

namespace Folder

variable {f : Folder} {path : Path}

theorem foldl_of_walk {start behind : Location} {steps : List PathStep}
    (h : f.walk start steps = .ok behind) : steps.foldl Location.behind start = behind := by
  induction steps generalizing start with
  | nil =>
    cases h
    rfl
  | cons step steps ih =>
    cases step with
    | up => exact ih h
    | down name =>
      unfold walk at h
      cases henter : f.enter start name with
      | error fault =>
        rw [henter] at h
        cases h
      | ok next =>
        rw [henter] at h
        have hnext : start ++ [name] = next := by
          unfold enter at henter
          split at henter
          · cases henter
          · split at henter
            · cases henter
            · split at henter
              · exact Except.ok.inj henter
              · cases henter
        subst hnext
        exact ih h

theorem place?_of_around {q p : Location} {name : String} (hq : f.around path = .ok q)
    (hname : path.name? = some name) (hp : named q name = .ok p) : path.place? = some p := by
  have hplace : q ++ [name] = p := by
    unfold named at hp
    split at hp
    · cases hp
    · exact Except.ok.inj hp
  rw [Path.place?, hname, Option.map_some, foldl_of_walk hq, hplace]

theorem place?_of_target {p : Location} (h : f.target path = .ok p) : path.place? = some p := by
  obtain ⟨q, name, hq, hname, -, hp, -⟩ := target_eq_ok.1 h
  exact place?_of_around hq hname hp

/-- A file that can be read has a name in a folder, and its bytes are at its place. -/
theorem read_eq_ok {bytes : List UInt8} :
    f.read path = .ok bytes ↔ ∃ q name p, f.around path = .ok q ∧ path.name? = some name ∧
      named q name = .ok p ∧ f.file? p = some bytes ∧ path.folderOnly = false := by
  unfold read
  rw [Except.bind_eq_ok_iff]
  constructor
  · rintro ⟨q, hq, h⟩
    cases hname : path.name? with
    | none =>
      rw [hname] at h
      cases h
    | some name =>
      rw [hname] at h
      obtain ⟨p, hp, h⟩ := Except.bind_eq_ok_iff.1 h
      split at h
      · next old hfile =>
        split at h
        · cases h
        · next hpath =>
          cases h
          exact ⟨q, name, p, hq, rfl, hp, hfile, Bool.eq_false_iff.2 hpath⟩
      · cases h
  · rintro ⟨q, name, p, hq, hname, hp, hfile, hpath⟩
    refine ⟨q, hq, ?_⟩
    rw [hname]
    refine Except.bind_eq_ok_iff.2 ⟨p, hp, ?_⟩
    rw [hfile, hpath]
    rfl

/-- What stands at another place is read as before. -/
theorem read_put_of_ne {p : Location} {old : List UInt8} (bytes : List UInt8)
    (hp : f.hasFolder p = false) (hne : path.place? ≠ some p) (h : f.read path = .ok old) :
    (f.put p bytes).read path = .ok old := by
  obtain ⟨q, name, other, hq, hname, hother, hfile, hpath⟩ := read_eq_ok.1 h
  have hplace := place?_of_around hq hname hother
  have hne : other ≠ p := by
    rintro rfl
    exact hne hplace
  refine read_eq_ok.2 ⟨q, name, other, walk_put bytes hp hq, hname, hother, ?_, hpath⟩
  rw [file?_put_of_ne bytes hne]
  exact hfile

/-- No folder is in the place of a file that was written. -/
theorem hasFolder_put_self {p : Location} (bytes : List UInt8) (hp : f.hasFolder p = false) :
    (f.put p bytes).hasFolder p = false := by
  simp only [hasFolder, Bool.or_eq_false_iff, List.any_eq_false, put, List.mem_cons,
    List.mem_filter] at hp ⊢
  refine ⟨hp.1, ?_⟩
  rintro file (rfl | ⟨hmem, -⟩)
  · simp
  · exact hp.2 file hmem

/-- A file that was written can be written once more. -/
theorem target_put {p : Location} (bytes : List UInt8) (h : f.target path = .ok p) :
    (f.put p bytes).target path = .ok p := by
  obtain ⟨q, name, hq, hname, hpath, hp, hfolder⟩ := target_eq_ok.1 h
  exact target_eq_ok.2 ⟨q, name, walk_put bytes hfolder hq, hname, hpath, hp,
    hasFolder_put_self bytes hfolder⟩

theorem put_put (f : Folder) (p : Location) (bytes : List UInt8) :
    (f.put p bytes).put p bytes = f.put p bytes := by
  simp [put, List.filter_filter]

end Folder

namespace World

/-! ### Files of a world -/

variable {w w' : World} {path : String} {bytes : List UInt8}

theorem readFile_eq_ok :
    w.readFile path = (.ok bytes, w') ↔
      w' = w ∧ ∃ route, Path.ofText path = .ok route ∧ w.folder.read route = .ok bytes := by
  rw [readFile, Prod.mk.injEq]
  constructor
  · rintro ⟨hread, rfl⟩
    exact ⟨rfl, Except.bind_eq_ok_iff.1 hread⟩
  · rintro ⟨rfl, hread⟩
    exact ⟨Except.bind_eq_ok_iff.2 hread, rfl⟩

theorem writeFile_eq_ok :
    w.writeFile path bytes = (.ok (), w') ↔
      ∃ route p, Path.ofText path = .ok route ∧ w.folder.target route = .ok p ∧
        w' = { w with folder := w.folder.put p bytes } := by
  rw [writeFile]
  constructor
  · intro h
    cases hroute : Path.ofText path with
    | error fault =>
      rw [hroute] at h
      cases h
    | ok route =>
      cases hwrite : w.folder.write route bytes with
      | error fault =>
        rw [hroute] at h
        change w.withFolder (w.folder.write route bytes) = _ at h
        rw [hwrite] at h
        cases h
      | ok g =>
        rw [hroute] at h
        change w.withFolder (w.folder.write route bytes) = _ at h
        rw [hwrite] at h
        obtain ⟨p, hp, rfl⟩ := Folder.write_eq_ok.1 hwrite
        cases h
        exact ⟨route, p, rfl, hp, rfl⟩
  · rintro ⟨route, p, hroute, hp, rfl⟩
    have hwrite : w.folder.write route bytes = .ok (w.folder.put p bytes) :=
      Folder.write_eq_ok.2 ⟨p, hp, rfl⟩
    rw [hroute]
    show w.withFolder (w.folder.write route bytes) = _
    rw [hwrite]
    rfl

/-- What was written is read. -/
theorem readFile_of_writeFile (h : w.writeFile path bytes = (.ok (), w')) :
    w'.readFile path = (.ok bytes, w') := by
  obtain ⟨route, p, hroute, hp, rfl⟩ := writeFile_eq_ok.1 h
  exact readFile_eq_ok.2 ⟨rfl, route, hroute, Folder.read_write (Folder.write_eq_ok.2 ⟨p, hp, rfl⟩)⟩

/-- What stands at another place is read as before. -/
theorem readFile_of_writeFile_of_ne {other : String} {old : List UInt8}
    (h : w.writeFile path bytes = (.ok (), w')) (hne : Path.placeOf? other ≠ Path.placeOf? path)
    (hread : w.readFile other = (.ok old, w)) : w'.readFile other = (.ok old, w') := by
  obtain ⟨route, p, hroute, hp, rfl⟩ := writeFile_eq_ok.1 h
  obtain ⟨-, way, hway, hold⟩ := readFile_eq_ok.1 hread
  obtain ⟨-, -, -, -, -, -, hfolder⟩ := Folder.target_eq_ok.1 hp
  rw [Path.placeOf?_eq hroute, Path.placeOf?_eq hway, Folder.place?_of_target hp] at hne
  exact readFile_eq_ok.2 ⟨rfl, way, hway, Folder.read_put_of_ne bytes hfolder hne hold⟩

/-- Writing once more what was written changes nothing. -/
theorem writeFile_of_writeFile (h : w.writeFile path bytes = (.ok (), w')) :
    w'.writeFile path bytes = (.ok (), w') := by
  obtain ⟨route, p, hroute, hp, rfl⟩ := writeFile_eq_ok.1 h
  refine writeFile_eq_ok.2 ⟨route, p, hroute, Folder.target_put bytes hp, ?_⟩
  rw [Folder.put_put]

end World
end TableTalk
