import TableTalk.Plan.Document
import TableTalk.Proofs.Spelling
import TableTalk.Proofs.Tables

/-!
# Stored plans are read back

A plan is stored as a list of lists of texts.  The text of such a document is scanned into the
tokens it was written from, since every character is read from the way in which it is escaped
and white space between tokens is passed over; the tokens are read into the document; and each
of its lines builds its transformation again.

## Main definitions

* `Json.Listing` — the documents that are made of texts and lists.
* `Plan.Spelt` — the plans whose steps can be built.

## Main results

* `Json.scan_quoted` — a text is read from the way in which it is quoted.
* `Json.Reader.run_tokens` — a document is read from its tokens.
* `Json.read?_pretty` — a listing is read from the text with one item per line.
* `Plan.ofDocument_document` — **a plan whose steps can be built is read from its document.**
-/

namespace TableTalk
namespace Json

/-! ### Characters in a string -/

section

variable (cs : List Char)

/-- A character that has no need of an escape. -/
theorem scanString_plain {c : Char} (hquote : c ≠ '\x22') (hslash : c ≠ '\\')
    (hprintable : ¬c.toNat < 0x20) :
    scanString (c :: cs) = (scanString cs).map fun (ns, rest) => (c.toNat :: ns, rest) := by
  have hkeep : ¬(c == '\\' || decide (c.toNat < 0x20)) = true := by
    simp [hslash, hprintable]
  rw [scanString, if_neg hkeep]
  · exact hquote
  · intro a b c' d cs' h
    exact absurd h hslash
  · intro e cs' h
    exact absurd h hslash

/-- An escape of one letter. -/
theorem scanString_letter {e : Char} {n : Nat} (he : simpleEscape? e = some n) :
    scanString ('\\' :: e :: cs) = (scanString cs).map fun (ns, rest) => (n :: ns, rest) := by
  rw [scanString, he]
  -- The letter that opens a longer escape stands for nothing by itself.
  rintro a b c d cs' rfl
  cases he

theorem hexValue4?_control :
    ∀ n < 32, hexValue4? '0' '0' (hexDigit (n / 16)) (hexDigit n) = some n := by
  decide

/-- An escape of four digits. -/
theorem scanString_control {n : Nat} (h : n < 0x20) :
    scanString ('\\' :: 'u' :: '0' :: '0' :: hexDigit (n / 16) :: hexDigit n :: cs) =
      (scanString cs).map fun (ns, rest) => (n :: ns, rest) := by
  rw [scanString, hexValue4?_control n h]

/-- A character is read from the way in which it is written. -/
theorem scanString_escapeChar (c : Char) :
    scanString (escapeChar c ++ cs) =
      (scanString cs).map fun (ns, rest) => (c.toNat :: ns, rest) := by
  have hletter : ∀ e d : Char, (c == d) = true → simpleEscape? e = some d.toNat →
      scanString ('\\' :: e :: cs) =
        (scanString cs).map fun (ns, rest) => (c.toNat :: ns, rest) := by
    intro e d hd he
    rw [beq_iff_eq.1 hd]
    exact scanString_letter cs he
  unfold escapeChar
  by_cases hself : (c == '\x22' || c == '\\') = true
  · rw [if_pos hself]
    refine hletter c c (beq_self_eq_true c) ?_
    rcases Bool.or_eq_true_iff.1 hself with h | h <;> rw [beq_iff_eq.1 h] <;> rfl
  rw [if_neg hself]
  by_cases hb : (c == '\x08') = true
  · rw [if_pos hb]
    exact hletter 'b' _ hb rfl
  rw [if_neg hb]
  by_cases hf : (c == '\x0c') = true
  · rw [if_pos hf]
    exact hletter 'f' _ hf rfl
  rw [if_neg hf]
  by_cases hn : (c == '\n') = true
  · rw [if_pos hn]
    exact hletter 'n' _ hn rfl
  rw [if_neg hn]
  by_cases hr : (c == '\r') = true
  · rw [if_pos hr]
    exact hletter 'r' _ hr rfl
  rw [if_neg hr]
  by_cases ht : (c == '\t') = true
  · rw [if_pos ht]
    exact hletter 't' _ ht rfl
  rw [if_neg ht]
  by_cases hcontrol : c.toNat < 0x20
  · rw [if_pos hcontrol]
    exact scanString_control cs hcontrol
  · rw [if_neg hcontrol]
    simp only [Bool.or_eq_true, beq_iff_eq, not_or] at hself
    exact scanString_plain cs hself.1 hself.2 hcontrol

end

theorem scanString_flatMap (cs rest : List Char) :
    scanString (cs.flatMap escapeChar ++ '\x22' :: rest) = some (cs.map Char.toNat, rest) := by
  induction cs with
  | nil => rfl
  | cons c cs ih =>
    rw [List.flatMap_cons, List.append_assoc, scanString_escapeChar, ih]
    rfl

/-- No character is half of a surrogate pair. -/
theorem not_surrogate (c : Char) :
    isHighSurrogate c.toNat = false ∧ isLowSurrogate c.toNat = false := by
  have hvalid : c.toNat < 0xD800 ∨ 0xDFFF < c.toNat ∧ c.toNat < 0x110000 := c.valid
  simp only [isHighSurrogate, isLowSurrogate, Bool.and_eq_false_iff, decide_eq_false_iff_not]
  omega

/-- The code points of a text denote it. -/
theorem textOf?_map_toNat (cs : List Char) : textOf? (cs.map Char.toNat) = some cs := by
  induction cs with
  | nil => rfl
  | cons c cs ih =>
    obtain ⟨hhigh, hlow⟩ := not_surrogate c
    cases cs with
    | nil =>
      simp only [List.map_cons, List.map_nil, textOf?, hhigh, hlow, Char.ofNat_toNat,
        Bool.or_self, Bool.false_eq_true, if_false]
    | cons d cs =>
      rw [List.map_cons] at ih
      simp only [List.map_cons, textOf?, hhigh, hlow, Bool.false_eq_true, if_false, ih,
        Option.map_some, Char.ofNat_toNat]

/-! ### Tokens in a text -/

theorem scan_space {c : Char} (h : isSpace c = true) (cs : List Char) :
    scan (c :: cs) = scan cs := by
  rw [scan, if_pos h]

theorem scan_token {c : Char} {cs rest : List Char} {token : Token}
    (hspace : isSpace c = false) (h : scanToken c cs = some (token, rest)) :
    scan (c :: cs) = (scan rest).map (token :: ·) := by
  rw [scan, hspace]
  simp only [Bool.false_eq_true, if_false]
  split
  · next token' rest' h' =>
    rw [h, Option.some.injEq, Prod.mk.injEq] at h'
    obtain ⟨rfl, rfl⟩ := h'
    rfl
  · next h' =>
    rw [h] at h'
    cases h'

theorem scan_punctuation {c : Char} {token : Token} (hspace : isSpace c = false)
    (h : punctuation? c = some token) (cs : List Char) :
    scan (c :: cs) = (scan cs).map (token :: ·) :=
  scan_token hspace (by rw [scanToken, h])

theorem scan_lineBreak (depth : Nat) (cs : List Char) :
    scan (lineBreak depth ++ cs) = scan cs := by
  rw [lineBreak, List.cons_append, scan_space rfl]
  generalize 2 * depth = n
  induction n with
  | zero => rfl
  | succ n ih => rw [List.replicate_succ, List.cons_append, scan_space rfl, ih]

/-- A text is read from the way in which it is quoted. -/
theorem scan_quoted (s : String) (rest : List Char) :
    scan (quoted s ++ rest) = (scan rest).map (.string (some s) :: ·) := by
  rw [quoted, List.cons_append, List.append_assoc, List.singleton_append]
  refine scan_token rfl ?_
  have hstring := scanString_flatMap s.toList rest
  simp only [scanToken, punctuation?, hstring, textOf?_map_toNat, Option.map_some,
    String.ofList_toList]
  rfl

/-! ### Listings -/

/-- A text, or a list of texts and lists. -/
inductive Listing : Json → Prop
  /-- A text. -/
  | string (s : String) : Listing (.string s)
  /-- A list. -/
  | array {items : List Json} (h : ∀ item ∈ items, Listing item) : Listing (.array items)

theorem listing_strings (ss : List String) : Listing (strings ss) := by
  refine .array ?_
  intro item hitem
  obtain ⟨s, -, rfl⟩ := List.mem_map.1 hitem
  exact .string s

/-! ### The tokens of a document -/

/-- The tokens of the items behind the first one. -/
def furtherTokens (items : List Json) : List Token :=
  items.flatMap fun item => .comma :: item.tokens

theorem itemTokens_cons (item : Json) (items : List Json) :
    itemTokens (item :: items) = item.tokens ++ furtherTokens items := by
  induction items generalizing item with
  | nil => rw [itemTokens, furtherTokens, List.flatMap_nil, List.append_nil]
  | cons next items ih =>
    have hmore : furtherTokens (next :: items) =
        .comma :: (next.tokens ++ furtherTokens items) := rfl
    rw [itemTokens, ih, hmore]
    exact List.cons_ne_nil _ _

theorem tokens_array_cons (item : Json) (items : List Json) (rest : List Token) :
    (Json.array (item :: items)).tokens ++ rest =
      .openArray :: (item.tokens ++ (furtherTokens items ++ .closeArray :: rest)) := by
  rw [tokens, itemTokens_cons]
  simp only [List.cons_append, List.append_assoc, List.nil_append]

/-- The tokens of the members behind the first one. -/
def furtherMemberTokens (members : List (String × Json)) : List Token :=
  members.flatMap fun (key, value) => .comma :: .string (some key) :: .colon :: value.tokens

theorem memberTokens_cons (key : String) (value : Json) (members : List (String × Json)) :
    memberTokens ((key, value) :: members) =
      .string (some key) :: .colon :: (value.tokens ++ furtherMemberTokens members) := by
  induction members generalizing key value with
  | nil => rw [memberTokens, furtherMemberTokens, List.flatMap_nil, List.append_nil]
  | cons next members ih =>
    obtain ⟨nextKey, nextValue⟩ := next
    have hmore : furtherMemberTokens ((nextKey, nextValue) :: members) =
        .comma :: .string (some nextKey) :: .colon ::
          (nextValue.tokens ++ furtherMemberTokens members) := rfl
    rw [memberTokens, ih, hmore]
    exact List.cons_ne_nil _ _

theorem tokens_object_cons (key : String) (value : Json) (members : List (String × Json))
    (rest : List Token) :
    (Json.object ((key, value) :: members)).tokens ++ rest =
      .openObject :: .string (some key) :: .colon ::
        (value.tokens ++ (furtherMemberTokens members ++ .closeObject :: rest)) := by
  rw [tokens, memberTokens_cons]
  simp only [List.cons_append, List.append_assoc, List.nil_append]

/-! ### The text of a listing -/

theorem scan_prettyItems {items : List Json} (depth : Nat) (rest : List Char)
    (h : ∀ item ∈ items, ∀ rest,
      scan (item.prettyAt depth ++ rest) = (scan rest).map (item.tokens ++ ·)) :
    scan (prettyItems depth items ++ rest) = (scan rest).map (furtherTokens items ++ ·) := by
  induction items with
  | nil =>
    rw [prettyItems, List.nil_append, furtherTokens, List.flatMap_nil]
    exact Option.map_id'.symm
  | cons item items ih =>
    have hmore := ih fun i hi => h i (List.mem_cons_of_mem _ hi)
    rw [prettyItems, List.cons_append, scan_punctuation rfl rfl, List.append_assoc,
      List.append_assoc, scan_lineBreak, h item List.mem_cons_self, hmore, Option.map_map,
      Option.map_map]
    congr 1
    funext rest
    simp [furtherTokens]

/-- A listing is written as its tokens, with white space between them. -/
theorem scan_prettyAt {j : Json} (h : Listing j) (depth : Nat) (rest : List Char) :
    scan (j.prettyAt depth ++ rest) = (scan rest).map (j.tokens ++ ·) := by
  induction h generalizing depth rest with
  | string s =>
    rw [prettyAt, scan_quoted]
    rfl
  | @array items _ ih =>
    cases items with
    | nil =>
      -- Without items there is no line break either.
      rw [prettyAt, List.cons_append, List.singleton_append, scan_punctuation rfl rfl,
        scan_punctuation rfl rfl, Option.map_map]
      rfl
    | cons item items =>
      have hitem := ih item List.mem_cons_self (depth + 1)
      have hmore := fun rest => scan_prettyItems (depth + 1) rest
        fun i hi => ih i (List.mem_cons_of_mem _ hi) (depth + 1)
      rw [prettyAt, List.cons_append, scan_punctuation rfl rfl]
      simp only [List.append_assoc, List.singleton_append]
      rw [scan_lineBreak, hitem, hmore, scan_lineBreak, scan_punctuation rfl rfl]
      simp only [Option.map_map]
      congr 1
      funext rest
      exact (tokens_array_cons item items rest).symm

/-! ### Reading tokens -/

namespace Reader

/-- In front of the first item of an array, too, any document may come. -/
theorem run_firstItem (j : Json) (stack : List Open) (tokens : List Token) :
    run ⟨.firstItem, stack⟩ (j.tokens ++ tokens) = run ⟨.value, stack⟩ (j.tokens ++ tokens) := by
  cases j <;> rfl

mutual

/-- A document is read from its tokens, whatever is open around it. -/
theorem run_tokens (j : Json) (stack : List Open) (tokens : List Token) :
    run ⟨.value, stack⟩ (j.tokens ++ tokens) = run (supply j stack) tokens := by
  match j with
  | .null => rfl
  | .bool b => rfl
  | .number spelling => rfl
  | .string s => rfl
  | .meaningless => rfl
  | .array [] => rfl
  | .object [] => rfl
  | .array (item :: items) =>
    rw [tokens_array_cons]
    show run ⟨.firstItem, .array [] :: stack⟩ _ = _
    -- The first item is read as any other is; the others stand behind commas.
    rw [run_firstItem, run_tokens item]
    exact run_furtherTokens items [item] stack tokens
  | .object ((key, value) :: members) =>
    rw [tokens_object_cons]
    show run ⟨.value, .object [] key true :: stack⟩ _ = _
    rw [run_tokens value]
    exact run_furtherMemberTokens members [(key, value)] key stack tokens

theorem run_furtherTokens (items done : List Json) (stack : List Open) (tokens : List Token) :
    run ⟨.next, .array done :: stack⟩ (furtherTokens items ++ .closeArray :: tokens) =
      run (supply (.array (done.reverse ++ items)) stack) tokens := by
  match items with
  | [] =>
    rw [List.append_nil]
    rfl
  | item :: items =>
    have hsplit : furtherTokens (item :: items) ++ .closeArray :: tokens =
        .comma :: (item.tokens ++ (furtherTokens items ++ .closeArray :: tokens)) := by
      simp [furtherTokens]
    rw [hsplit]
    show run ⟨.value, .array done :: stack⟩ _ = _
    rw [run_tokens item]
    show run ⟨.next, .array (item :: done) :: stack⟩ _ = _
    rw [run_furtherTokens items, List.reverse_cons, List.append_assoc, List.singleton_append]

theorem run_furtherMemberTokens (members done : List (String × Json)) (last : String)
    (stack : List Open) (tokens : List Token) :
    run ⟨.next, .object done last true :: stack⟩
        (furtherMemberTokens members ++ .closeObject :: tokens) =
      run (supply (.object (done.reverse ++ members)) stack) tokens := by
  match members with
  | [] =>
    rw [List.append_nil]
    rfl
  | (key, value) :: members =>
    have hsplit : furtherMemberTokens ((key, value) :: members) ++ .closeObject :: tokens =
        .comma :: .string (some key) :: .colon ::
          (value.tokens ++ (furtherMemberTokens members ++ .closeObject :: tokens)) := by
      simp [furtherMemberTokens]
    rw [hsplit]
    show run ⟨.value, .object done key true :: stack⟩ _ = _
    rw [run_tokens value]
    show run ⟨.next, .object ((key, value) :: done) key true :: stack⟩ _ = _
    rw [run_furtherMemberTokens members, List.reverse_cons, List.append_assoc,
      List.singleton_append]

end

end Reader

/-- **A listing is read from the text with one item per line.** -/
theorem read?_pretty {j : Json} (h : Listing j) : read? j.pretty = some j := by
  have hscan : scan (j.prettyAt 0) = some j.tokens := by
    have := scan_prettyAt h 0 []
    rw [scan, Option.map_some, List.append_nil, List.append_nil] at this
    exact this
  have hrun := Reader.run_tokens j [] []
  rw [List.append_nil] at hrun
  rw [read?, pretty, String.toList_ofList, hscan, Option.bind_some, ofTokens?, hrun]
  rfl

/-- A list is read from its items. -/
theorem list?_map {α : Type} {item? : Json → Option α} {toJson : α → Json} {as : List α}
    (h : ∀ a ∈ as, item? (toJson a) = some a) : list? item? (.array (as.map toJson)) = some as := by
  rw [list?, List.mapM_map]
  exact (List.mapM_eq_some_map h).trans (congrArg some (List.map_id' as))

end Json

namespace Plan

/-! ### The lines of a document -/

theorem linesOfDocument?_document (plan : Plan) :
    linesOfDocument? plan.document = some plan.tokenLines := by
  have hlisting : Json.Listing (.array (plan.tokenLines.map Json.strings)) := by
    refine .array ?_
    intro line hline
    obtain ⟨ss, -, rfl⟩ := List.mem_map.1 hline
    exact Json.listing_strings ss
  rw [linesOfDocument?, document, Json.read?_pretty hlisting, Option.bind_some]
  exact Json.list?_map fun ss _ => Json.list?_map fun s _ => rfl

/-! ### The steps of a plan -/

/-- Every step of the plan can be built from some tokens. -/
def Spelt (plan : Plan) : Prop :=
  ∀ t ∈ plan, ∃ arguments, Transformation.Built t.kind arguments t

theorem ofTokenLinesFrom_tokenLines {plan : Plan} (h : Spelt plan) (step : Nat) :
    ofTokenLinesFrom step plan.tokenLines = .ok plan := by
  induction plan generalizing step with
  | nil => rfl
  | cons t ts ih =>
    obtain ⟨arguments, ht⟩ := h t List.mem_cons_self
    have hline : Transformation.ofTokens t.tokens = .ok t := ht.ofTokens_eq
    have hlines := ih (fun t' ht' => h t' (List.mem_cons_of_mem _ ht')) (step + 1)
    rw [Transformation.tokens] at hline
    rw [tokenLines] at hlines
    rw [tokenLines, List.map_cons, Transformation.tokens, ofTokenLinesFrom, hline, hlines]
    · rfl
    · exact List.cons_ne_nil _ _

/-- **A plan whose steps can be built is read from its document.** -/
theorem ofDocument_document {plan : Plan} (h : Spelt plan) :
    ofDocument plan.document = .ok plan := by
  rw [ofDocument, linesOfDocument?_document]
  exact ofTokenLinesFrom_tokenLines h 0

end Plan
end TableTalk
