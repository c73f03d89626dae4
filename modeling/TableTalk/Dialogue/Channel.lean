import TableTalk.Dialogue.Query
import TableTalk.Text.Lines
import TableTalk.Text.Utf8

/-!
# Channels to the answering party

A port shows a question, gives an answer and passes on why an answer was refused; each of
these may fail.  Nothing is assumed about who answers.  A channel is a port that holds
finitely many answers: every answer read leaves fewer of them, so a dialogue comes to an end.

## Main definitions

* `Port` — what a channel can do.
* `Channel` — a port that runs out of answers.
* `Script` — answers from a list.
* `Terminal` — numbered options on an output, one answer per line of an input.
* `TypedLine` — a line typed at a terminal that shows the question already.
* `Transcript` — a port that notes down what passes through it.
* `Unreliable` — a channel of which two calls fail.
-/

namespace TableTalk

/-- A port to the answering party, of the given type of states. -/
class Port (σ : Type) where
  /-- Shows a question and its options. -/
  present : String → List String → σ → Except ChannelError Unit × σ
  /-- Reads an answer. -/
  read : σ → Except ChannelError String × σ
  /-- Passes on why the last answer was refused. -/
  report : String → σ → Except ChannelError Unit × σ

/-- A port that runs out of answers. -/
class Channel (σ : Type) extends Port σ where
  /-- A bound on the answers that are left. -/
  remaining : σ → Nat
  /-- Showing a question adds no answers. -/
  remaining_present (prompt : String) (options : List String) (c : σ) :
    remaining (present prompt options c).2 ≤ remaining c
  /-- An answer that is read is one of those that were left. -/
  remaining_read (c : σ) (answer : String) :
    (read c).1 = .ok answer → remaining (read c).2 < remaining c
  /-- Passing on a refusal adds no answers. -/
  remaining_report (message : String) (c : σ) :
    remaining (report message c).2 ≤ remaining c

/-! ### Scripts -/

/-- Answers from a list, and what the answering party would have seen. -/
structure Script where
  /-- The answers that are left. -/
  answers : List String
  /-- The questions shown so far. -/
  prompts : List String := []
  /-- The refusals passed on so far. -/
  errors : List String := []
  deriving Repr, DecidableEq

/-- The next answer of a script. -/
def Script.read (s : Script) : Except ChannelError String × Script :=
  match s.answers with
  | [] => (.error .scriptExhausted, s)
  | answer :: answers => (.ok answer, { s with answers := answers })

instance : Channel Script where
  present prompt _ s := (.ok (), { s with prompts := s.prompts ++ [prompt] })
  read := Script.read
  report message s := (.ok (), { s with errors := s.errors ++ [message] })
  remaining s := s.answers.length
  remaining_present _ _ _ := Nat.le_refl _
  remaining_read s answer h := by
    cases hs : s.answers with
    | nil => simp [Script.read, hs] at h
    | cons a as => simp [Script.read, hs]
  remaining_report _ _ := Nat.le_refl _

/-! ### Terminals -/

/-- The bytes that are still to be read and the text that has been printed. -/
structure Terminal where
  /-- The input that is left. -/
  input : List UInt8
  /-- What has been printed. -/
  output : String := ""
  deriving Repr, DecidableEq

namespace Terminal

/-- A question as it is printed: its wording, its numbered options and a sign that an answer
is awaited. -/
def question (prompt : String) (options : List String) : String :=
  let option := fun (o : String × Nat) => s!"  [{o.2}] {o.1}\n"
  s!"{prompt}\n" ++ String.join (options.zipIdx.map option) ++ "> "

/-- A refusal as it is printed. -/
def refusal (message : String) : String := s!"invalid answer: {message}\n"

/-- The answer on a line of the input. -/
def answerOf (line : List UInt8) : Except ChannelError String :=
  match Utf8.decode line with
  | .ok s => .ok (Text.dropLineEnd s)
  | .error _ => .error .notText

/-- The next answer. -/
def read (t : Terminal) : Except ChannelError String × Terminal :=
  if t.input.isEmpty then (.error .inputClosed, t)
  else
    let (line, rest) := Text.takeSegment (· == 0x0A) t.input
    (answerOf line, { t with input := rest })

/-- The terminal behind a text that is printed. -/
def print (t : Terminal) (s : String) : Terminal := { t with output := t.output ++ s }

instance : Channel Terminal where
  present prompt options t := (.ok (), t.print (question prompt options))
  read := read
  report message t := (.ok (), t.print (refusal message))
  remaining t := t.input.length
  remaining_present _ _ _ := Nat.le_refl _
  remaining_read t answer h := by
    by_cases hi : t.input = []
    · simp [read, hi] at h
    · have := Text.takeSegment_rest_lt (· == 0x0A) hi
      simpa [read, hi] using this
  remaining_report _ _ := Nat.le_refl _

end Terminal

/-- A line typed at a terminal that shows the question already, and what is to be printed
behind it. -/
structure TypedLine where
  /-- The line, empty once it is read or if the input is closed. -/
  line : List UInt8
  /-- What is to be printed. -/
  output : String := ""
  deriving Repr, DecidableEq

/-- The answer on the line. -/
def TypedLine.read (t : TypedLine) : Except ChannelError String × TypedLine :=
  if t.line.isEmpty then (.error .inputClosed, t)
  else (Terminal.answerOf t.line, { t with line := [] })

instance : Channel TypedLine where
  present _ _ t := (.ok (), t)
  read := TypedLine.read
  report message t := (.ok (), { t with output := t.output ++ Terminal.refusal message })
  remaining t := t.line.length
  remaining_present _ _ _ := Nat.le_refl _
  remaining_read t answer h := by
    by_cases hl : t.line = []
    · simp [TypedLine.read, hl] at h
    · simpa [TypedLine.read, hl] using List.length_pos_iff.2 hl
  remaining_report _ _ := Nat.le_refl _

/-! ### Transcripts -/

/-- Something that passed through a channel. -/
inductive Exchange where
  /-- A question and its options. -/
  | question (prompt : String) (options : List String)
  /-- An answer. -/
  | answer (text : String)
  /-- A refusal. -/
  | refusal (message : String)
  deriving Repr, DecidableEq

/-- An exchange on a line of its own. -/
def Exchange.line : Exchange → String
  | .question prompt [] => s!"? {prompt}\n"
  | .question prompt options =>
    let listed := ", ".intercalate options
    s!"? {prompt} [{listed}]\n"
  | .answer text => s!"> {text}\n"
  | .refusal message => s!"! {message}\n"

/-- A port and what has passed through it.  Questions and refusals are noted down before the
port is called, answers only once they have been read. -/
structure Transcript (σ : Type) where
  /-- The port. -/
  inner : σ
  /-- What has passed through it. -/
  exchanges : List Exchange := []
  deriving Repr, DecidableEq

namespace Transcript

variable {σ : Type}

/-- The exchanges, one per line. -/
def render (t : Transcript σ) : String := String.join (t.exchanges.map Exchange.line)

/-- The exchanges with one more. -/
def note (t : Transcript σ) (e : Exchange) : List Exchange := t.exchanges ++ [e]

/-- An answer of the port, noted down. -/
def read [Port σ] (t : Transcript σ) : Except ChannelError String × Transcript σ :=
  match Port.read t.inner with
  | (.ok answer, inner) => (.ok answer, ⟨inner, t.note (.answer answer)⟩)
  | (.error e, inner) => (.error e, { t with inner := inner })

instance [Port σ] : Port (Transcript σ) where
  present prompt options t :=
    let (result, inner) := Port.present prompt options t.inner
    (result, ⟨inner, t.note (.question prompt options)⟩)
  read := read
  report message t :=
    let (result, inner) := Port.report message t.inner
    (result, ⟨inner, t.note (.refusal message)⟩)

instance [Channel σ] : Channel (Transcript σ) where
  remaining t := Channel.remaining t.inner
  remaining_present prompt options t := Channel.remaining_present prompt options t.inner
  remaining_read t answer h := by
    have inner := Channel.remaining_read t.inner answer
    change (read t).1 = _ at h
    change Channel.remaining (read t).2.inner < _
    unfold read at h ⊢
    split at h
    · next heq =>
      rw [heq] at inner
      simp only [Except.ok.injEq] at h
      subst h
      simpa [heq] using inner rfl
    · simp at h
  remaining_report message t := Channel.remaining_report message t.inner

end Transcript

/-! ### Unreliable channels -/

/-- A channel of which one call to show a question and one call to pass on a refusal fail.
A call that fails does not reach the channel. -/
structure Unreliable (σ : Type) where
  /-- The channel. -/
  inner : σ
  /-- The call to show a question that fails, counted from zero. -/
  failPresent : Option Nat := none
  /-- The call to pass on a refusal that fails, counted from zero. -/
  failReport : Option Nat := none
  /-- How many questions were to be shown so far. -/
  presents : Nat := 0
  /-- How many refusals were to be passed on so far. -/
  reports : Nat := 0
  deriving Repr, DecidableEq

namespace Unreliable

variable {σ : Type}

/-- Shows a question unless the call fails. -/
def present [Channel σ] (prompt : String) (options : List String) (u : Unreliable σ) :
    Except ChannelError Unit × Unreliable σ :=
  let counted := { u with presents := u.presents + 1 }
  if u.failPresent == some u.presents then (.error (.broken "present failed"), counted)
  else
    let (result, inner) := Port.present prompt options u.inner
    (result, { counted with inner := inner })

/-- Passes a refusal on unless the call fails. -/
def report [Channel σ] (message : String) (u : Unreliable σ) :
    Except ChannelError Unit × Unreliable σ :=
  let counted := { u with reports := u.reports + 1 }
  if u.failReport == some u.reports then (.error (.broken "report failed"), counted)
  else
    let (result, inner) := Port.report message u.inner
    (result, { counted with inner := inner })

instance [Channel σ] : Channel (Unreliable σ) where
  present := present
  read u :=
    let (result, inner) := Port.read u.inner
    (result, { u with inner := inner })
  report := report
  remaining u := Channel.remaining u.inner
  remaining_present prompt options u := by
    unfold present
    dsimp only
    split
    · exact Nat.le_refl _
    · exact Channel.remaining_present prompt options u.inner
  remaining_read u answer h := Channel.remaining_read u.inner answer h
  remaining_report message u := by
    unfold report
    dsimp only
    split
    · exact Nat.le_refl _
    · exact Channel.remaining_report message u.inner

end Unreliable
end TableTalk
