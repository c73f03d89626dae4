import TableTalk.Command.Program

/-!
# The command line

The program on real files and a real terminal.  Everything that is decided is decided by
`program`; here files are read and written, lines are read, and texts are printed.
-/

namespace TableTalk

/-- The number of an error of the system, which some calls report with the opposite sign. -/
def errorNumber (code : UInt32) : UInt32 := if 0x80000000 ≤ code then 0 - code else code

/-- The fault behind an error of the system. -/
def faultOf : IO.Error → FileFault
  | .noFileOrDirectory _ _ _ => .missing
  | .invalidArgument _ code details =>
    if errorNumber code == 36 then .tooLong
    else .other s!"{details} (os error {errorNumber code})"
  | .inappropriateType _ code _ => if errorNumber code == 20 then .notFolder else .isFolder
  | .permissionDenied _ code details => .other s!"{details} (os error {errorNumber code})"
  | error => .other (toString error)

/-- An act on the file that a path leads to, whose error is a fault. -/
def attempt {α : Type} (path : String) (act : IO α) : IO (Except FileFault α) := do
  match Path.ofText path with
  | .error fault => return .error fault
  | .ok _ =>
    try
      return .ok (← act)
    catch error =>
      return .error (faultOf error)

/-- The bytes of the next line, its end among them, behind those that are already read. -/
partial def readLine (input : IO.FS.Stream) (line : List UInt8) : IO (List UInt8) := do
  match (← input.read 1).toList with
  | [] => return line
  | byte :: _ =>
    let line := line ++ [byte]
    if byte == 0x0A then return line else readLine input line

/-- Prints a text at once. -/
def display (text : String) : IO Unit := do
  let output ← IO.getStdout
  output.putStr text
  output.flush

/-- The dialogue that a session has over the terminal, behind what was said before. -/
partial def talk (s : Session) (said : List Exchange) : IO Conversation := do
  let line ← match s.asks? with
    | some question =>
      display (Terminal.question question.prompt question.shown)
      readLine (← IO.getStdin) []
    | none => pure []
  let (s, channel, turn) := s.turn (Transcript.mk (TypedLine.mk line "") said)
  display channel.inner.output
  match turn with
  | .more | .committed _ => talk s channel.exchanges
  | .finished => return ⟨s, channel.render, .ok s.query.committed⟩
  | .failed error => return ⟨s, channel.render, .error error⟩

instance : Acts IO where
  readFile path := attempt path do return (← IO.FS.readBinFile path).toList
  writeFile path bytes := attempt path (IO.FS.writeBinFile path ⟨bytes.toArray⟩)
  touchFile path := attempt path do discard (IO.FS.Handle.mk path .append)
  converse s := talk s []
  print := display

end TableTalk

open TableTalk in
/-- Does what the arguments ask for. -/
def main (arguments : List String) : IO UInt32 := do
  let ending ← program arguments
  if let some complaint := ending.complaint? then IO.eprintln complaint
  return ending.code.toUInt32
