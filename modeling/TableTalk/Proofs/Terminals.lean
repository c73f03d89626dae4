import TableTalk.Proofs.Offering
import TableTalk.Proofs.Reapplying
import TableTalk.Proofs.Transcribing

/-!
# Answers typed and answers stored

The answers of a dialogue are typed at a terminal or stored in a file, one on each line.  Both
take a line to end behind a line feed; they differ in what they drop of its end, every carriage
return and line feed at a terminal, one of each in a file.  All of these are white space, so after
trimming nothing is left of the difference, and a query looks at an answer only after trimming.
Hence a text comes to the same dialogue whether it is typed or stored, and if it ends too early
both report the end of their input.

## Main definitions

* `Sourced` — a terminal and a script with the same text left.
* `Session.BothEnd` — errors that say that nothing is left to read.

## Main results

* `Text.takeSegment_encode` — the first line of some bytes is the first line of their text.
* `Text.trim_dropLineEnd`, `Text.trim_storedLine` — what is dropped of the end of a line makes no
  difference to trimming.
* `Query.submit_trim` — a query looks at an answer only after trimming.
* `Session.run_of_sourced` — what runs over a terminal and over a script come to.
* `Session.converse_of_text` — **a dialogue comes to the same, typed or stored.**
-/

namespace TableTalk
namespace Text

/-! ### Trimming the end of a line -/

/-- White space at the end makes no difference to trimming. -/
theorem trim_append {cs ds : List Char} (h : ∀ d ∈ ds, isBlankChar d = true) :
    trim (String.ofList (cs ++ ds)) = trim (String.ofList cs) := by
  rw [trim, trim, String.toList_ofList, String.toList_ofList, stripWhile_append cs h]

/-- A typed line is trimmed to what it is trimmed to with its end. -/
theorem trim_dropLineEnd (s : String) : trim (dropLineEnd s) = trim s := by
  have hblank : ∀ c ∈ s.toList.rtakeWhile fun c => c == '\r' || c == '\n',
      isBlankChar c = true := by
    intro c hc
    have hend := List.mem_rtakeWhile_imp (p := fun c => c == '\r' || c == '\n') hc
    rcases Bool.or_eq_true_iff.1 hend with h | h <;> rw [beq_iff_eq.1 h] <;> rfl
  have hline : dropLineEnd s =
      String.ofList (s.toList.rdropWhile fun c => c == '\r' || c == '\n') := rfl
  rw [hline, ← trim_append hblank, List.rdropWhile_append_rtakeWhile, String.ofList_toList]

/-- A stored line is trimmed to what it is trimmed to with its end. -/
theorem trim_storedLine (segment : List Char) :
    trim (String.ofList (storedLine segment)) = trim (String.ofList segment) := by
  unfold storedLine
  split
  · next rest hreverse =>
    rw [← List.reverse_reverse segment, hreverse, List.reverse_cons, List.reverse_cons,
      List.append_assoc, List.singleton_append]
    exact (trim_append (List.forall_mem_cons.2 ⟨rfl, List.forall_mem_singleton.2 rfl⟩)).symm
  · next rest _ hreverse =>
    rw [← List.reverse_reverse segment, hreverse, List.reverse_cons]
    exact (trim_append (List.forall_mem_singleton.2 rfl)).symm
  · rfl

example : dropLineEnd "a\r\r\n" = "a" ∧ lines "a\r\r\n" = ["a\r"] := by decide

/-! ### The first line -/

/-- The segments of a list are its first one and those of what follows it. -/
theorem segments_eq_cons {α : Type} (p : α → Bool) {as : List α} (h : as ≠ []) :
    segments p as = (takeSegment p as).1 :: segments p (takeSegment p as).2 := by
  induction as with
  | nil => exact absurd rfl h
  | cons a as ih =>
    rw [segments, takeSegment]
    by_cases ha : p a = true
    · rw [if_pos ha, if_pos ha]
    · rw [if_neg ha, if_neg ha]
      by_cases has : as = []
      · rw [has]
        rfl
      · rw [ih has]

theorem lines_eq_cons {cs : List Char} (h : cs ≠ []) :
    lines (String.ofList cs) = String.ofList (storedLine (takeSegment (· == '\n') cs).1) ::
      lines (String.ofList (takeSegment (· == '\n') cs).2) := by
  rw [lines, lines, String.toList_ofList, String.toList_ofList, segments_eq_cons _ h,
    List.map_cons]

theorem takeSegment_append_of_neg {α : Type} {p : α → Bool} {as : List α}
    (h : ∀ a ∈ as, p a = false) (bs : List α) :
    takeSegment p (as ++ bs) = (as ++ (takeSegment p bs).1, (takeSegment p bs).2) := by
  induction as with
  | nil => rfl
  | cons a as ih =>
    rw [List.forall_mem_cons] at h
    rw [List.cons_append, takeSegment, if_neg (Bool.eq_false_iff.1 h.1), ih h.2]
    rfl

/-- The first line of some bytes is the first line of their text. -/
theorem takeSegment_encode (cs : List Char) :
    takeSegment (· == 0x0A) (cs.flatMap String.utf8EncodeChar) =
      ((takeSegment (· == '\n') cs).1.flatMap String.utf8EncodeChar,
        (takeSegment (· == '\n') cs).2.flatMap String.utf8EncodeChar) := by
  induction cs with
  | nil => rfl
  | cons c cs ih =>
    rw [List.flatMap_cons, takeSegment]
    by_cases hc : (c == '\n') = true
    · rw [if_pos hc, beq_iff_eq.1 hc]
      have hfeed : String.utf8EncodeChar '\n' = [0x0A] := rfl
      rw [hfeed, List.singleton_append, takeSegment]
      exact if_pos (beq_self_eq_true _)
    · -- No other character has the byte of a line feed among its bytes.
      have hbytes : ∀ b ∈ String.utf8EncodeChar c, (b == 0x0A) = false := by
        intro b hb
        rw [beq_eq_false_iff_ne]
        rintro rfl
        exact hc (beq_iff_eq.2 (Utf8.eq_of_mem_encodeChar (by decide) hb))
      rw [if_neg hc, takeSegment_append_of_neg hbytes, ih]
      rfl

end Text

/-! ### Answers behind trimming -/

namespace Query

theorem resolve_trim (q : Query) (question : Question) (answer : String) :
    q.resolve question (Text.trim answer) = q.resolve question answer := by
  unfold resolve
  cases question.options with
  | none => simp only [freeText, Text.trim_trim]
  | some options => simp only [choose_trim]

/-- A query looks at an answer only after trimming. -/
theorem submit_trim (q : Query) (answer : String) (source : Source) :
    q.submit (Text.trim answer) source = q.submit answer source := by
  simp only [submit, resolve_trim]

end Query

/-! ### Reading a line -/

/-- The text that is left on the input of a terminal is left in a script, one answer on each
line. -/
def Sourced (cs : List Char) (t : Terminal) (c : Script) : Prop :=
  t.input = cs.flatMap String.utf8EncodeChar ∧ c.answers = Text.lines (String.ofList cs)

namespace Sourced

variable {cs : List Char} {t : Terminal} {c : Script}

theorem print (h : Sourced cs t c) (s : String) (prompts errors : List String) :
    Sourced cs (t.print s) { c with prompts := prompts, errors := errors } := h

/-- Without text, nothing can be read. -/
theorem read_nil (h : Sourced [] t c) :
    Port.read t = (.error .inputClosed, t) ∧ Port.read c = (.error .scriptExhausted, c) := by
  constructor
  · have hempty : t.input.isEmpty = true := List.isEmpty_iff.2 h.1
    exact if_pos hempty
  · have hanswers : c.answers = [] := h.2
    simp only [Port.read, Script.read, hanswers]

/-- Of a text, the first line is read, with the white space at its end or without some of it. -/
theorem read_cons (h : Sourced cs t c) (hne : cs ≠ []) :
    ∃ rest t' c' typed stored, Port.read t = (.ok typed, t') ∧ Port.read c = (.ok stored, c') ∧
      Text.trim typed = Text.trim stored ∧ Sourced rest t' c' := by
  have hinput : (cs.flatMap String.utf8EncodeChar).isEmpty = false := by
    obtain ⟨d, ds, rfl⟩ := List.exists_cons_of_ne_nil hne
    obtain ⟨a, tail, hbytes, -⟩ := Utf8.front_encodeChar d
    rw [List.flatMap_cons, hbytes]
    rfl
  have hline := Text.takeSegment_encode cs
  have hanswers := h.2.trans (Text.lines_eq_cons hne)
  generalize Text.takeSegment (· == '\n') cs = first at hline hanswers
  obtain ⟨line, rest⟩ := first
  have hdecode := Utf8.decode_encode (String.ofList line)
  rw [Utf8.encode, String.toList_ofList] at hdecode
  refine ⟨rest, { t with input := rest.flatMap String.utf8EncodeChar },
    { c with answers := Text.lines (String.ofList rest) }, Text.dropLineEnd (String.ofList line),
    String.ofList (Text.storedLine line), ?_, ?_, ?_, rfl, rfl⟩
  · simp only [Port.read, Terminal.read, h.1, hinput, Bool.false_eq_true, if_false, hline,
      Terminal.answerOf, hdecode]
  · simp only [Port.read, Script.read, hanswers]
  · rw [Text.trim_dropLineEnd, Text.trim_storedLine]

end Sourced

namespace Session

/-! ### Turns over a terminal and over a script -/

/-- A terminal prints every refusal that is passed on. -/
theorem settle_terminal (result : Except QueryError Outcome) (t : Terminal) :
    settle result t =
      (t.print (String.join ((Turn.ofResult result).1.toList.map Terminal.refusal)),
        (Turn.ofResult result).2) := by
  unfold settle
  rcases Turn.ofResult result with ⟨_ | message, turn⟩
  · simp [Terminal.print]
  · simp only [Port.report, Option.toList_some, List.map_cons, List.map_nil, String.join_cons,
      String.join_nil, String.append_empty]

/-- Both errors say that the input is at its end. -/
def BothEnd (e e' : QueryError) : Prop :=
  e = .channel .inputClosed ∧ e' = .channel .scriptExhausted

variable {cs : List Char} {t : Terminal} {c : Script}

/-- One turn over a terminal and over a script with the same answers left. -/
theorem turn_of_sourced (s : Session) (h : Sourced cs t c) :
    (s.turn t).1 = (s.turn c).1 ∧ (∃ rest, Sourced rest (s.turn t).2.1 (s.turn c).2.1) ∧
      Agree BothEnd (s.turn t).2.2 (s.turn c).2.2 := by
  unfold turn
  cases s.query.question? with
  | none => exact ⟨rfl, ⟨cs, h⟩, .inl rfl⟩
  | some question =>
    cases s.replay with
    | cons answer replay =>
      simp only [settle_terminal, settle_script, true_and]
      exact ⟨⟨cs, h.print _ _ _⟩, .inl rfl⟩
    | nil =>
      have hasked : Sourced cs (t.print (Terminal.question question.prompt question.shown))
          { c with prompts := c.prompts ++ [question.prompt] } := h.print _ _ _
      have hterminal : ask question t =
        Port.read (t.print (Terminal.question question.prompt question.shown)) := rfl
      have hscript : ask question c =
        Port.read { c with prompts := c.prompts ++ [question.prompt] } := rfl
      by_cases hne : cs = []
      · subst hne
        obtain ⟨htyped, hstored⟩ := hasked.read_nil
        simp only [hterminal, hscript, htyped, hstored, true_and]
        exact ⟨⟨[], hasked⟩, .inr ⟨_, _, rfl, rfl, rfl, rfl⟩⟩
      · obtain ⟨rest, t', c', typed, stored, htyped, hstored, htrim, hrest⟩ :=
          hasked.read_cons hne
        have hsubmit : s.query.submit typed .live = s.query.submit stored .live := by
          rw [← s.query.submit_trim typed, htrim, s.query.submit_trim]
        simp only [hterminal, hscript, htyped, hstored, hsubmit, settle_terminal, settle_script,
          true_and]
        exact ⟨⟨rest, hrest.print _ _ _⟩, .inl rfl⟩

/-! ### Runs -/

/-- A run notes what is said and is not changed by it. -/
theorem run_transcript {σ : Type} [Channel σ] (s : Session) (t : Transcript σ) :
    (s.run t).1 = (s.run t.inner).1 ∧ (s.run t).2.1.inner = (s.run t.inner).2.1 ∧
      (s.run t).2.2 = (s.run t.inner).2.2 := by
  obtain ⟨⟨hsession, hinner⟩, hresult⟩ := run_of_lockstep
    (R := fun s (t : Transcript σ) s' c => s = s' ∧ t.inner = c)
    (fun {s t s' c} h => by
      obtain ⟨rfl, rfl⟩ := h
      rw [turn_transcript]
      exact ⟨⟨rfl, rfl⟩, rfl⟩)
    (fun h => h.1 ▸ rfl) (⟨rfl, rfl⟩ : s = s ∧ t.inner = t.inner)
  exact ⟨hsession, hinner, hresult⟩

/-- What runs over a terminal and over a script with the same answers left come to. -/
theorem run_of_sourced (s : Session) (h : Sourced cs t c) :
    (s.run t).1 = (s.run c).1 ∧ (∃ rest, Sourced rest (s.run t).2.1 (s.run c).2.1) ∧
      ((s.run t).2.2 = (s.run c).2.2 ∨
        (s.run t).2.2 = .error (.channel .inputClosed) ∧
          (s.run c).2.2 = .error (.channel .scriptExhausted)) := by
  obtain ⟨⟨hsession, hrest⟩, hresult⟩ := run_of_agree (E := BothEnd)
    (R := fun s t s' c => s = s' ∧ ∃ cs, Sourced cs t c)
    (fun {s t s' c} h => by
      obtain ⟨rfl, cs, hcs⟩ := h
      obtain ⟨hsession, hrest, hturns⟩ := s.turn_of_sourced hcs
      exact ⟨⟨hsession, hrest⟩, hturns⟩)
    (fun h => h.1 ▸ rfl) (⟨rfl, cs, h⟩ : s = s ∧ ∃ cs, Sourced cs t c)
  refine ⟨hsession, hrest, hresult.imp_right ?_⟩
  rintro ⟨e, e', he, he', rfl, rfl⟩
  exact ⟨he, he'⟩

/-- At the start of a dialogue, a text is typed at a terminal and its lines are in a script. -/
theorem sourced_lines (text output : String) :
    Sourced text.toList ⟨Utf8.encode text, output⟩ { answers := Text.lines text } :=
  ⟨rfl, congrArg Text.lines String.ofList_toList.symm⟩

/-- **A dialogue comes to the same, whether a text is typed at a terminal or stored in the file
from which the answers are read**, one on each line.  The session at the end is the same, with its
query and all that is committed, noted, asked and refused in it.  So is the result, unless the text
is at its end before the query is: then the errors say where nothing was left to read. -/
theorem converse_of_text (schema : Schema) (options : QueryOptions) (suggestions : List String)
    (text output : String) :
    let session : Session := ⟨.start schema options, suggestions⟩
    let typed := (session.converse (⟨Utf8.encode text, output⟩ : Terminal)).1
    let stored := (session.converse ({ answers := Text.lines text } : Script)).1
    (∀ (w : World) (path : String), w.readFile path = (.ok (Utf8.encode text), w) →
      w.run (readAnswers path) = (.ok (Text.lines text), w)) ∧
    typed.session = stored.session ∧
    (typed.result = stored.result ∨ ∃ e e' : ChannelError,
      typed.result = .error (.channel e) ∧ stored.result = .error (.channel e') ∧
        e.isEndOfInput = true ∧ e'.isEndOfInput = true) := by
  intro session typed stored
  obtain ⟨hsession, -, hresult⟩ := session.run_of_sourced (sourced_lines text output)
  obtain ⟨htyped, -, htyped'⟩ :=
    session.run_transcript (Transcript.mk (⟨Utf8.encode text, output⟩ : Terminal) [])
  obtain ⟨hstored, -, hstored'⟩ :=
    session.run_transcript (Transcript.mk ({ answers := Text.lines text } : Script) [])
  refine ⟨?_, htyped.trans (hsession.trans hstored.symm), ?_⟩
  · intro w path hfile
    have htext : textOf (Utf8.encode text) = .ok text := by rw [textOf, Utf8.decode_encode]; rfl
    exact World.run_readAnswers_eq_ok.2 ⟨rfl, _, _, hfile, htext, rfl⟩
  · rcases hresult with hresult | ⟨hclosed, hexhausted⟩
    · exact .inl (htyped'.trans (hresult.trans hstored'.symm))
    · exact .inr ⟨_, _, htyped'.trans hclosed, hstored'.trans hexhausted, rfl, rfl⟩

end Session
end TableTalk
