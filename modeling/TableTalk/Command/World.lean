import TableTalk.Dialogue.Session
import TableTalk.Folder

/-!
# What commands act on

A command reads and writes files, asks questions, and prints.  It is written for any monad
that offers these four acts, so the same command runs on real files and on a world that is a
plain value.

## Main definitions

* `Conversation` — a dialogue that has taken place.
* `Acts` — the acts that a command is made of.
* `World` — a folder, and a terminal on whose input all answers are waiting.
-/

namespace TableTalk

/-- A dialogue that has taken place. -/
structure Conversation where
  /-- The session at its end. -/
  session : Session
  /-- What was said. -/
  transcript : String
  /-- The plan, or why there is none. -/
  result : Except QueryError Plan
  deriving Repr

/-- The dialogue that a session has over a channel, and the channel behind it. -/
def Session.converse {σ : Type} [Channel σ] (s : Session) (c : σ) : Conversation × σ :=
  let (s, t, result) := s.run (Transcript.mk c [])
  (⟨s, t.render, result⟩, t.inner)

/-- The acts that a command is made of. -/
class Acts (m : Type → Type) where
  /-- Reads a file. -/
  readFile : String → m (Except FileFault (List UInt8))
  /-- Writes a file. -/
  writeFile : String → List UInt8 → m (Except FileFault Unit)
  /-- Makes sure that there is a file to which something can be added. -/
  touchFile : String → m (Except FileFault Unit)
  /-- Has a dialogue over the terminal. -/
  converse : Session → m Conversation
  /-- Prints a text. -/
  print : String → m Unit

/-- A folder, and a terminal on whose input all answers are waiting. -/
structure World where
  /-- The files. -/
  folder : Folder
  /-- The terminal. -/
  terminal : Terminal
  deriving Repr, DecidableEq

namespace World

/-- Reading a file leaves the world as it is. -/
def readFile (path : String) (w : World) : Except FileFault (List UInt8) × World :=
  ((Path.ofText path).bind w.folder.read, w)

/-- The world with another folder, or the world as it is if there is a fault. -/
def withFolder (w : World) : Except FileFault Folder → Except FileFault Unit × World
  | .ok folder => (.ok (), { w with folder := folder })
  | .error fault => (.error fault, w)

/-- Writing a file changes the folder if it can be written. -/
def writeFile (path : String) (bytes : List UInt8) (w : World) :
    Except FileFault Unit × World :=
  w.withFolder ((Path.ofText path).bind fun path => w.folder.write path bytes)

/-- Making sure of a file changes the folder if there is none and it can be made. -/
def touchFile (path : String) (w : World) : Except FileFault Unit × World :=
  w.withFolder ((Path.ofText path).bind w.folder.touch)

/-- A dialogue takes its answers from the terminal. -/
def converse (s : Session) (w : World) : Conversation × World :=
  let (conversation, terminal) := s.converse w.terminal
  (conversation, { w with terminal := terminal })

/-- A text is printed on the terminal. -/
def print (text : String) (w : World) : Unit × World :=
  ((), { w with terminal := w.terminal.print text })

end World

instance : Acts (StateM World) where
  readFile := World.readFile
  writeFile := World.writeFile
  touchFile := World.touchFile
  converse := World.converse
  print := World.print

end TableTalk
