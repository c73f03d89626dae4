import TableTalk.Text.Blank

/-!
# Files

A folder holds files under names, some of them in folders within it.  A path leads to a file
step by step, from the working folder or from the root of the system; whatever fails on the
way is reported in the words of the system that keeps the files.

## Main definitions

* `FileFault` — why a file cannot be read or written.
* `Path` — the way to a file.
* `Folder`, `Folder.read`, `Folder.write`, `Folder.touch` — files, and reading, writing and
  making one of them.

## Main results

* `Folder.read_write` — a file holds what was written to it.
* `Folder.file?_put_of_ne` — the files at other places are left as they are.
-/

namespace TableTalk

/-! ### Faults -/

/-- Why a file cannot be read or written. -/
inductive FileFault where
  /-- Nothing is there. -/
  | missing
  /-- Something on the way is no folder. -/
  | notFolder
  /-- A folder is there. -/
  | isFolder
  /-- A name or the path is longer than the system allows. -/
  | tooLong
  /-- The path holds the character that ends texts inside the system. -/
  | zeroInPath
  /-- The file is no text. -/
  | notText
  /-- The system gave a reason of its own. -/
  | other (reason : String)
  deriving Repr, DecidableEq

/-- The sentence that reports a fault. -/
def FileFault.message : FileFault → String
  | .missing => "No such file or directory (os error 2)"
  | .notFolder => "Not a directory (os error 20)"
  | .isFolder => "Is a directory (os error 21)"
  | .tooLong => "File name too long (os error 36)"
  | .zeroInPath => "file name contained an unexpected NUL byte"
  | .notText => "stream did not contain valid UTF-8"
  | .other reason => reason

/-! ### Paths -/

/-- A step of a path. -/
inductive PathStep where
  /-- To the folder around. -/
  | up
  /-- To the folder with a name. -/
  | down (name : String)
  deriving Repr, DecidableEq

/-- The way to a file. -/
structure Path where
  /-- Whether it starts at the root of the system. -/
  fromRoot : Bool := false
  /-- The steps to the folder that holds the file. -/
  steps : List PathStep := []
  /-- The name of the file, or none if the path ends with a step to a folder. -/
  name? : Option String := none
  /-- Whether only a folder may be there, since the path ends with a separator. -/
  folderOnly : Bool := false
  deriving Repr, DecidableEq

namespace Path

/-- The number of bytes that a path may have. -/
def maxLength : Nat := 4095

/-- The number of bytes that a name may have. -/
def maxNameLength : Nat := 255

/-- The pieces of a path between separators. -/
def pieces (text : String) : List String :=
  (Text.cutAt (· == '/') text.toList).map String.ofList

/-- The step that a piece of a path spells.  An empty piece and a single dot stay in place. -/
def step? (piece : String) : Option PathStep :=
  if piece.isEmpty || piece == "." then none
  else if piece == ".." then some .up
  else some (.down piece)

/-- The path that some pieces between separators spell. -/
def ofPieces (pieces : List String) : Path :=
  let steps := pieces.filterMap step?
  let path : Path := {
    fromRoot := pieces.length > 1 && pieces.head? == some ""
    steps := steps }
  -- Only a name at the end can be that of a file, whatever number of separators follows it.
  match (pieces.filter (!·.isEmpty)).getLast?.bind step? with
  | some (.down name) =>
    { path with
      steps := steps.dropLast
      name? := some name
      folderOnly := pieces.getLast? == some "" }
  | _ => path

/-- The path that a text spells, or why it spells none. -/
def ofText (text : String) : Except FileFault Path :=
  if text.toList.contains '\x00' then .error .zeroInPath
  else if text.isEmpty then .error .missing
  else if maxLength < text.utf8ByteSize then .error .tooLong
  else .ok (ofPieces (pieces text))

end Path

/-! ### Locations -/

/-- The names that lead to a place.  They start at the working folder; a place outside of it
starts with two dots for every folder around it, or with an empty name for the root. -/
abbrev Location := List String

namespace Location

/-- The root of the system. -/
def root : Location := [""]

/-- The place of the folder around. -/
def up (p : Location) : Location :=
  match p.getLast? with
  | none => [".."]
  | some name =>
    if name == ".." then p ++ [".."]
    else if name.isEmpty then p
    else p.dropLast

/-- The folders at the root that every system has. -/
def systemFolders : List String :=
  ["bin", "boot", "dev", "etc", "home", "lib", "media", "mnt", "opt", "proc", "root", "run",
    "sbin", "srv", "sys", "tmp", "usr", "var"]

/-- Whether a place is a folder whatever files there are: the working folder, one around it,
the root or a folder of the system. -/
def isStanding (p : Location) : Bool :=
  p.all (· == "..") || p == root || systemFolders.any fun name => p == root ++ [name]

/-- The place of the file that every system has and that holds nothing. -/
def emptyFile : Location := root ++ ["dev", "null"]

/-- Whether a place is in the working folder. -/
def isInside (p : Location) : Bool :=
  match p with
  | [] => true
  | name :: _ => name != ".." && !name.isEmpty

end Location

/-! ### Folders -/

/-- Files by their places. -/
structure Folder where
  /-- The files. -/
  files : List (Location × List UInt8)
  deriving Repr, DecidableEq

namespace Folder

/-- The folder with the given files, whose names hold separators if they are in folders
within it. -/
def ofFiles (files : List (String × List UInt8)) : Folder :=
  ⟨files.map fun (name, bytes) => ((Path.pieces name).filter (!·.isEmpty), bytes)⟩

/-- The files in the working folder. -/
def inside (f : Folder) : List (Location × List UInt8) := f.files.filter fun (p, _) => p.isInside

/-- The bytes of the file at a place. -/
def file? (f : Folder) (p : Location) : Option (List UInt8) :=
  match f.files.lookup p with
  | some bytes => some bytes
  | none => if p = .emptyFile then some [] else none

/-- Whether there is a folder at a place. -/
def hasFolder (f : Folder) (p : Location) : Bool :=
  p.isStanding || f.files.any fun (name, _) => p.isPrefixOf name && p != name

/-- The place behind a step into a folder. -/
def enter (f : Folder) (p : Location) (name : String) : Except FileFault Location :=
  if Path.maxNameLength < name.utf8ByteSize then .error .tooLong
  else if (f.file? (p ++ [name])).isSome then .error .notFolder
  else if f.hasFolder (p ++ [name]) then .ok (p ++ [name])
  else .error .missing

/-- The place behind some steps. -/
def walk (f : Folder) : Location → List PathStep → Except FileFault Location
  | p, [] => .ok p
  | p, .up :: steps => f.walk p.up steps
  | p, .down name :: steps =>
    match f.enter p name with
    | .ok p => f.walk p steps
    | .error fault => .error fault

/-- The folder that a path leads through last. -/
def around (f : Folder) (path : Path) : Except FileFault Location :=
  f.walk (if path.fromRoot then .root else []) path.steps

/-- The place of a name in a folder. -/
def named (p : Location) (name : String) : Except FileFault Location :=
  if Path.maxNameLength < name.utf8ByteSize then .error .tooLong else .ok (p ++ [name])

/-- The bytes of a file. -/
def read (f : Folder) (path : Path) : Except FileFault (List UInt8) := do
  let p ← f.around path
  match path.name? with
  | none => throw .isFolder
  | some name =>
    let p ← named p name
    match f.file? p with
    | some bytes => if path.folderOnly then throw .notFolder else return bytes
    | none => throw (if f.hasFolder p then .isFolder else .missing)

/-- The place of a file that is to be written, which is made if it is not there. -/
def target (f : Folder) (path : Path) : Except FileFault Location := do
  let p ← f.around path
  match path.name? with
  | none => throw .isFolder
  | some name =>
    if path.folderOnly then throw .isFolder
    let p ← named p name
    if f.hasFolder p then throw .isFolder
    return p

/-- The folder with the given bytes in a file. -/
def put (f : Folder) (p : Location) (bytes : List UInt8) : Folder :=
  ⟨(p, bytes) :: f.files.filter fun file => file.1 != p⟩

/-- The folder behind writing a file. -/
def write (f : Folder) (path : Path) (bytes : List UInt8) : Except FileFault Folder :=
  (f.target path).map fun p => f.put p bytes

/-- The folder behind making sure that there is a file. -/
def touch (f : Folder) (path : Path) : Except FileFault Folder :=
  (f.target path).map fun p => if (f.file? p).isSome then f else f.put p []

/-! ### Reading what was written -/

theorem write_eq_ok {f g : Folder} {path : Path} {bytes : List UInt8} :
    f.write path bytes = .ok g ↔ ∃ p, f.target path = .ok p ∧ f.put p bytes = g := by
  unfold write
  cases f.target path <;> simp [Except.map]

/-- A file that can be written has a name in a folder, and no folder is in its place. -/
theorem target_eq_ok {f : Folder} {path : Path} {p : Location} :
    f.target path = .ok p ↔ ∃ q name, f.around path = .ok q ∧ path.name? = some name ∧
      path.folderOnly = false ∧ named q name = .ok p ∧ f.hasFolder p = false := by
  unfold target
  cases hq : f.around path with
  | error fault => simp [bind, Except.bind]
  | ok q =>
    cases hname : path.name? with
    | none => simp [bind, Except.bind, throw, throwThe, MonadExceptOf.throw]
    | some name =>
      cases hpath : path.folderOnly with
      | true => simp [bind, Except.bind, throw, throwThe, MonadExceptOf.throw]
      | false =>
        cases hp : named q name with
        | error fault => simp [bind, Except.bind, hp]
        | ok r =>
          cases hfolder : f.hasFolder r <;>
            simp [bind, Except.bind, throw, throwThe, MonadExceptOf.throw, pure, Except.pure, hp,
              hfolder]
          · rintro rfl
            exact hfolder
          · rintro rfl
            simp [hfolder]

@[simp] theorem file?_put_self (f : Folder) (p : Location) (bytes : List UInt8) :
    (f.put p bytes).file? p = some bytes := by
  simp [file?, put]

theorem lookup_filter_ne {p other : Location} (h : other ≠ p)
    (files : List (Location × List UInt8)) :
    (files.filter fun file => file.1 != p).lookup other = files.lookup other := by
  induction files with
  | nil => rfl
  | cons file files ih =>
    obtain ⟨name, bytes⟩ := file
    by_cases hname : name = p
    · subst hname
      have : (other == name) = false := by simpa using h
      simp [List.lookup_cons, this, ih]
    · simp [hname, List.lookup_cons, ih]

/-- A file is put at one place, and what stands at the others is left as it is. -/
theorem file?_put_of_ne {f : Folder} {p other : Location} (bytes : List UInt8) (h : other ≠ p) :
    (f.put p bytes).file? other = f.file? other := by
  have : (other == p) = false := by simpa using h
  simp [file?, put, List.lookup_cons, this, lookup_filter_ne h]

/-- A folder is still there once a file has been written. -/
theorem hasFolder_put {f : Folder} {p q : Location} (bytes : List UInt8)
    (h : f.hasFolder q = true) : (f.put p bytes).hasFolder q = true := by
  simp only [hasFolder, Bool.or_eq_true, List.any_eq_true, Bool.and_eq_true] at h ⊢
  refine h.imp id ?_
  rintro ⟨⟨name, old⟩, hmem, hprefix⟩
  by_cases hname : name = p
  · exact ⟨(p, bytes), by simp [put], by simpa [hname] using hprefix⟩
  · exact ⟨(name, old), by simp [put, hmem, hname], hprefix⟩

/-- A way that could be gone can still be gone once a file has been written, since no folder
was in the file's place. -/
theorem walk_put {f : Folder} {p : Location} (bytes : List UInt8) (hp : f.hasFolder p = false)
    {start behind : Location} {steps : List PathStep} (h : f.walk start steps = .ok behind) :
    (f.put p bytes).walk start steps = .ok behind := by
  induction steps generalizing start with
  | nil => exact h
  | cons step steps ih =>
    cases step with
    | up => exact ih h
    | down name =>
      unfold walk at h ⊢
      cases henter : f.enter start name with
      | error fault => rw [henter] at h; cases h
      | ok next =>
        rw [henter] at h
        have hstep : (f.put p bytes).enter start name = .ok next := by
          unfold enter at henter ⊢
          split at henter
          · cases henter
          · next hlength =>
            split at henter
            · cases henter
            · next hfile =>
              split at henter
              · next hfolder =>
                -- The folder entered is no file, so it is not the one written.
                have hne : start ++ [name] ≠ p := by
                  rintro rfl
                  simp [hp] at hfolder
                rw [if_neg hlength, file?_put_of_ne bytes hne, if_neg hfile,
                  if_pos (hasFolder_put bytes hfolder)]
                exact henter
              · cases henter
        rw [hstep]
        exact ih h

/-- A file holds what was written to it. -/
theorem read_write {f g : Folder} {path : Path} {bytes : List UInt8}
    (h : f.write path bytes = .ok g) : g.read path = .ok bytes := by
  obtain ⟨p, htarget, rfl⟩ := write_eq_ok.1 h
  obtain ⟨q, name, hq, hname, hpath, hp, hfolder⟩ := target_eq_ok.1 htarget
  have hq : (f.put p bytes).around path = .ok q := walk_put bytes hfolder hq
  simp [read, hq, hname, hp, hpath, bind, Except.bind, pure, Except.pure]

end Folder
end TableTalk
