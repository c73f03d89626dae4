import TableTalk.Delimited.Reader
import TableTalk.Delimited.Writer
import TableTalk.Proofs.Bytes
import TableTalk.Proofs.Failing

/-!
# Records that are written and read again

A field is quoted if a byte in it would end it, and then every quote in it is written twice; so
the scanner finds the field and stands at its end, where a delimiter opens the next field and a
line feed ends the record.  A record of one field without bytes is the one that would be taken
for an empty line, and it is written with quotes.

The delimiter has to be a byte that plays no other part.  If it is an ASCII byte as well, what
is written of texts is a text.

## Main definitions

* `Delimited.IsSeparator` — the delimiters that can be told from all else.
* `Delimited.scan` — the records that a scanner finds, without their positions.

## Main results

* `Delimited.scan_writeField` — a field is found as it was written.
* `Delimited.scan_write` — **the records are found as they were written.**
* `Delimited.texts_records_write` — what is written of texts is read as these texts.
* `Delimited.encode_writtenText` — what is written of texts is a text.
-/

namespace TableTalk
namespace Delimited

/-- An ASCII delimiter that is neither a quote nor a line end. -/
structure IsSeparator (delimiter : UInt8) : Prop where
  /-- It is a character of its own in a text. -/
  ascii : delimiter < 0x80
  /-- It opens no quoted field. -/
  ne_quote : delimiter ≠ quote
  /-- It ends no line. -/
  not_lineEnd : isLineEnd delimiter = false

theorem isSeparator_iff {delimiter : UInt8} : IsSeparator delimiter ↔
    delimiter < 0x80 ∧ delimiter ≠ quote ∧ isLineEnd delimiter = false :=
  ⟨fun h => ⟨h.ascii, h.ne_quote, h.not_lineEnd⟩, fun h => ⟨h.1, h.2.1, h.2.2⟩⟩

instance (delimiter : UInt8) : Decidable (IsSeparator delimiter) :=
  decidable_of_iff _ isSeparator_iff.symm

/-! ### Scanning -/

/-- The records that a scanner finds in some bytes, without their positions. -/
def scan (delimiter : UInt8) (s : Scanner) : List UInt8 → List (List Field)
  | [] => s.finish.toList
  | b :: bytes => (s.step delimiter b).2.toList ++ scan delimiter (s.step delimiter b).1 bytes

theorem fields_recordsFrom (delimiter : UInt8) (start here : Position) (s : Scanner)
    (bytes : List UInt8) :
    (recordsFrom delimiter start here s bytes).map Record.fields = scan delimiter s bytes := by
  induction bytes generalizing start here s with
  | nil =>
    rw [recordsFrom, scan]
    cases s.finish <;> rfl
  | cons b bytes ih =>
    rw [recordsFrom, scan]
    split
    · next hstep =>
      rw [ih, hstep]
      rfl
    · next hstep =>
      rw [List.map_cons, ih, hstep]
      rfl

section

variable {delimiter : UInt8} {field : List UInt8} {fields : List Field}

theorem scan_of_step {s s' : Scanner} {b : UInt8} (h : s.step delimiter b = (s', none))
    (rest : List UInt8) : scan delimiter s (b :: rest) = scan delimiter s' rest := by
  rw [scan, h]
  rfl

/-- A byte that ends nothing. -/
def IsKept (delimiter b : UInt8) : Prop := b ≠ delimiter ∧ b ≠ quote ∧ isLineEnd b = false

theorem isKept_of_not_needsQuotes {f : Field} (h : needsQuotes delimiter f = false) :
    ∀ b ∈ f, IsKept delimiter b := by
  intro b hb
  have hnone := List.any_eq_false.1 h b hb
  simp only [Bool.or_eq_true, beq_iff_eq, not_or, Bool.not_eq_true] at hnone
  exact ⟨hnone.1.1, hnone.1.2, hnone.2⟩

theorem stepPlain_of_isKept {s : Scanner} {b : UInt8} (h : IsKept delimiter b) :
    s.stepPlain delimiter b = (s.keep .plain b, none) := by
  rw [Scanner.stepPlain, if_neg (by simpa using h.1), if_neg (by simp [h.2.2])]

theorem scan_plain {f : Field} (h : ∀ b ∈ f, IsKept delimiter b) (field : List UInt8)
    (fields : List Field) (rest : List UInt8) :
    scan delimiter ⟨.plain, field, fields⟩ (f ++ rest) =
      scan delimiter ⟨.plain, f.reverse ++ field, fields⟩ rest := by
  induction f generalizing field with
  | nil => rfl
  | cons b f ih =>
    have hstep : Scanner.step delimiter ⟨.plain, field, fields⟩ b =
        (⟨.plain, b :: field, fields⟩, none) := stepPlain_of_isKept (h b List.mem_cons_self)
    rw [List.cons_append, scan_of_step hstep, ih fun c hc => h c (List.mem_cons_of_mem b hc),
      List.reverse_cons, List.append_assoc]
    rfl

theorem scan_quoted (f : Field) (field : List UInt8) (fields : List Field) (rest : List UInt8) :
    scan delimiter ⟨.quoted, field, fields⟩ (doubleQuotes f ++ rest) =
      scan delimiter ⟨.quoted, f.reverse ++ field, fields⟩ rest := by
  induction f generalizing field with
  | nil => rfl
  | cons b f ih =>
    have hrest : scan delimiter ⟨.quoted, b :: field, fields⟩ (doubleQuotes f ++ rest) =
        scan delimiter ⟨.quoted, (b :: f).reverse ++ field, fields⟩ rest := by
      rw [ih, List.reverse_cons, List.append_assoc]
      rfl
    rw [← hrest]
    -- The first of two quotes may be the closing one, until the second is met.
    by_cases hquote : b = quote
    · subst hquote
      have hopen : Scanner.step delimiter ⟨.quoted, field, fields⟩ quote =
          (⟨.quote, field, fields⟩, none) := rfl
      have hkeep : Scanner.step delimiter ⟨.quote, field, fields⟩ quote =
          (⟨.quoted, quote :: field, fields⟩, none) := rfl
      change scan delimiter _ (quote :: quote :: (doubleQuotes f ++ rest)) = _
      rw [scan_of_step hopen, scan_of_step hkeep]
    · have hkeep : Scanner.step delimiter ⟨.quoted, field, fields⟩ b =
          (⟨.quoted, b :: field, fields⟩, none) := by
        rw [Scanner.step]
        exact if_neg (by simpa using hquote)
      have hbytes : doubleQuotes (b :: f) = b :: doubleQuotes f := by
        rw [doubleQuotes, List.flatMap_cons, if_neg (by simpa using hquote)]
        rfl
      rw [hbytes, List.cons_append, scan_of_step hkeep]

/-! ### Fields -/

/-- In front of a field, and of a record as well. -/
def Place.IsOpen (place : Place) : Prop := place = .record ∨ place = .field

theorem step_of_isOpen {place : Place} (hopen : place.IsOpen) {b : UInt8}
    (hline : isLineEnd b = false) :
    Scanner.step delimiter ⟨place, field, fields⟩ b =
      Scanner.stepField delimiter ⟨place, field, fields⟩ b := by
  rcases hopen with rfl | rfl
  · exact if_neg (by simp [hline])
  · rfl

theorem writeField_of_not_needsQuotes {f : Field} (h : needsQuotes delimiter f = false) :
    writeField delimiter f = f := by
  rw [writeField, h, if_neg Bool.false_ne_true]

/-- A field is found as it was written; without bytes, it leaves the scanner where it stands. -/
theorem scan_writeField {place : Place} (hopen : place.IsOpen) (f : Field) (fields : List Field)
    (rest : List UInt8) : ∃ place',
      scan delimiter ⟨place, [], fields⟩ (writeField delimiter f ++ rest) =
        scan delimiter ⟨place', f.reverse, fields⟩ rest ∧
      (place' = place ∧ writeField delimiter f = [] ∨ place' = .plain ∨ place' = .quote) := by
  cases hquotes : needsQuotes delimiter f with
  | true =>
    refine ⟨.quote, ?_, .inr (.inr rfl)⟩
    have hstart : Scanner.step delimiter ⟨place, [], fields⟩ quote =
        (⟨.quoted, [], fields⟩, none) := step_of_isOpen hopen rfl
    have hend : Scanner.step delimiter ⟨.quoted, f.reverse, fields⟩ quote =
        (⟨.quote, f.reverse, fields⟩, none) := rfl
    rw [writeField, hquotes, if_pos rfl, List.cons_append, scan_of_step hstart,
      List.append_assoc, scan_quoted, List.append_nil, List.singleton_append, scan_of_step hend]
  | false =>
    have hkept := isKept_of_not_needsQuotes hquotes
    rw [writeField_of_not_needsQuotes hquotes]
    cases f with
    | nil => exact ⟨place, rfl, .inl ⟨rfl, rfl⟩⟩
    | cons b f =>
      obtain ⟨hdelimiter, hquote, hline⟩ := hkept b List.mem_cons_self
      have hstart : Scanner.step delimiter ⟨place, [], fields⟩ b =
          (⟨.plain, [b], fields⟩, none) := by
        rw [step_of_isOpen hopen hline, Scanner.stepField, if_neg (by simpa using hquote)]
        exact stepPlain_of_isKept ⟨hdelimiter, hquote, hline⟩
      refine ⟨.plain, ?_, .inr (.inl rfl)⟩
      rw [List.cons_append, scan_of_step hstart,
        scan_plain fun c hc => hkept c (List.mem_cons_of_mem b hc), List.reverse_cons]

/-- A delimiter opens the next field. -/
theorem step_delimiter (hsep : IsSeparator delimiter) {place : Place}
    (hplace : place ≠ .quoted ∧ place ≠ .lineEnd) :
    Scanner.step delimiter ⟨place, field, fields⟩ delimiter =
      (⟨.field, [], field.reverse :: fields⟩, none) := by
  have hplain : Scanner.stepPlain delimiter ⟨place, field, fields⟩ delimiter =
      (⟨.field, [], field.reverse :: fields⟩, none) := if_pos (beq_self_eq_true _)
  have hquote : ¬(delimiter == quote) = true := by simpa using hsep.ne_quote
  have hfield : Scanner.stepField delimiter ⟨place, field, fields⟩ delimiter =
      (⟨.field, [], field.reverse :: fields⟩, none) := by
    rw [Scanner.stepField, if_neg hquote, hplain]
  cases place with
  | record => rw [step_of_isOpen (.inl rfl) hsep.not_lineEnd, hfield]
  | field => rw [step_of_isOpen (.inr rfl) hsep.not_lineEnd, hfield]
  | plain => exact hplain
  | quote => exact (if_neg hquote).trans hplain
  | quoted => exact absurd rfl hplace.1
  | lineEnd => exact absurd rfl hplace.2

/-- A line feed ends the record. -/
theorem step_lineFeed (hsep : IsSeparator delimiter) {place : Place}
    (hplace : place = .field ∨ place = .plain ∨ place = .quote) :
    Scanner.step delimiter ⟨place, field, fields⟩ lineFeed =
      ({}, some (fields.reverse ++ [field.reverse])) := by
  have hne : ¬(lineFeed == delimiter) = true := by
    intro h
    have hline := hsep.not_lineEnd
    rw [← beq_iff_eq.1 h] at hline
    cases hline
  have hend : isLineEnd lineFeed = true := rfl
  have hplain : Scanner.stepPlain delimiter ⟨place, field, fields⟩ lineFeed =
      ({}, some (fields.reverse ++ [field.reverse])) := by
    rw [Scanner.stepPlain, if_neg hne, if_pos hend, Scanner.complete, List.reverse_cons]
    rfl
  rcases hplace with rfl | rfl | rfl
  · exact hplain
  · exact hplain
  · exact hplain

/-! ### Records -/

/-- The bytes of the fields of a record, without the line end. -/
def line (delimiter : UInt8) (fs : List Field) : List UInt8 :=
  [delimiter].intercalate (fs.map (writeField delimiter))

theorem writeRecord_eq (delimiter : UInt8) (fs : List Field) : writeRecord delimiter fs =
    (if (line delimiter fs).isEmpty then [quote, quote] else line delimiter fs) ++ [lineFeed] := rfl

theorem line_singleton (delimiter : UInt8) (f : Field) :
    line delimiter [f] = writeField delimiter f := by
  simp [line, List.intercalate]

theorem line_cons_cons (delimiter : UInt8) (f g : Field) (fs : List Field) :
    line delimiter (f :: g :: fs) =
      writeField delimiter f ++ delimiter :: line delimiter (g :: fs) := by
  simp [line, List.intercalate]

/-- The fields of a record are found as they were written, unless they were taken for an empty
line. -/
theorem scan_line (hsep : IsSeparator delimiter) {fs : List Field} (hne : fs ≠ []) {place : Place}
    (hopen : place.IsOpen) (hline : place = .field ∨ line delimiter fs ≠ [])
    (front : List Field) (rest : List UInt8) :
    scan delimiter ⟨place, [], front⟩ (line delimiter fs ++ lineFeed :: rest) =
      (front.reverse ++ fs) :: scan delimiter {} rest := by
  -- The last field meets the line feed, and each of the others a delimiter.
  induction fs generalizing place front with
  | nil => exact absurd rfl hne
  | cons f fs ih =>
    cases fs with
    | nil =>
      rw [line_singleton] at hline ⊢
      obtain ⟨place', hscan, hplace⟩ := scan_writeField hopen f front (lineFeed :: rest)
      have hend : place' = .field ∨ place' = .plain ∨ place' = .quote := by
        rcases hplace with ⟨rfl, hempty⟩ | hplace
        · exact .inl (hline.resolve_right fun h => h hempty)
        · exact .inr hplace
      rw [hscan, scan, step_lineFeed hsep hend, List.reverse_reverse]
      rfl
    | cons g fs =>
      obtain ⟨place', hscan, hplace⟩ := scan_writeField hopen f front
        (delimiter :: (line delimiter (g :: fs) ++ lineFeed :: rest))
      have hbetween : place' ≠ .quoted ∧ place' ≠ .lineEnd := by
        rcases hplace with ⟨rfl, -⟩ | rfl | rfl
        · rcases hopen with rfl | rfl <;> simp
        · simp
        · simp
      rw [line_cons_cons, List.append_assoc, List.cons_append, hscan,
        scan_of_step (step_delimiter hsep hbetween),
        ih (List.cons_ne_nil g fs) (.inr rfl) (.inl rfl), List.reverse_reverse, List.reverse_cons,
        List.append_assoc]
      rfl

/-- Only a record of one field without bytes would be taken for an empty line. -/
theorem eq_of_line_eq_nil {fs : List Field} (hne : fs ≠ []) (h : line delimiter fs = []) :
    fs = [[]] := by
  cases fs with
  | nil => exact absurd rfl hne
  | cons f fs =>
    cases fs with
    | nil =>
      rw [line_singleton] at h
      cases hquotes : needsQuotes delimiter f with
      | true =>
        rw [writeField, hquotes, if_pos rfl] at h
        cases h
      | false =>
        rw [writeField_of_not_needsQuotes hquotes] at h
        rw [h]
    | cons g fs =>
      rw [line_cons_cons] at h
      simp at h

theorem scan_writeRecord (hsep : IsSeparator delimiter) {fs : List Field} (hne : fs ≠ [])
    (rest : List UInt8) :
    scan delimiter {} (writeRecord delimiter fs ++ rest) = fs :: scan delimiter {} rest := by
  rw [writeRecord_eq, List.append_assoc, List.singleton_append]
  by_cases hempty : line delimiter fs = []
  · rw [hempty, eq_of_line_eq_nil hne hempty]
    have hopen : Scanner.step delimiter {} quote = (⟨.quoted, [], []⟩, none) := rfl
    have hclose : Scanner.step delimiter ⟨.quoted, [], []⟩ quote = (⟨.quote, [], []⟩, none) := rfl
    change scan delimiter {} (quote :: quote :: lineFeed :: rest) = _
    rw [scan_of_step hopen, scan_of_step hclose, scan, step_lineFeed hsep (.inr (.inr rfl))]
    rfl
  · rw [if_neg (by simpa using hempty)]
    exact scan_line hsep hne (.inl rfl) (.inr hempty) [] rest

/-- **The records are found as they were written.** -/
theorem scan_write (hsep : IsSeparator delimiter) {rows : List (List Field)}
    (hne : ∀ row ∈ rows, row ≠ []) :
    scan delimiter {} (rows.flatMap (writeRecord delimiter)) = rows := by
  induction rows with
  | nil => rfl
  | cons row rows ih =>
    rw [List.flatMap_cons, scan_writeRecord hsep (hne row List.mem_cons_self),
      ih fun r hr => hne r (List.mem_cons_of_mem row hr)]

end

/-! ### Records of texts -/

theorem fieldTexts_encode (position : Position) (i : Nat) (row : List String) :
    fieldTexts position i (row.map Utf8.encode) = .ok row := by
  induction row generalizing i with
  | nil => rfl
  | cons s row ih =>
    simp only [List.map_cons, fieldTexts, Utf8.decode_encode, ih]
    rfl

theorem texts_of_fields {rs : List Record} {rows : List (List String)}
    (h : rs.map Record.fields = rows.map fun row => row.map Utf8.encode) : texts rs = .ok rows := by
  induction rows generalizing rs with
  | nil =>
    rw [List.map_nil, List.map_eq_nil_iff] at h
    subst h
    rfl
  | cons row rows ih =>
    obtain ⟨r, rs, rfl, hfields, hrest⟩ := List.map_eq_cons_iff.1 h
    rw [texts, hfields, fieldTexts_encode, Except.ok_bind, ih hrest]
    rfl

/-- No text starts with the bytes of the mark unless it starts with the mark. -/
theorem mark_isPrefixOf_encode {s : String} (h : s.toList.head? ≠ some Text.byteOrderMark)
    (rest : List UInt8) (hrest : rest.head? ≠ mark.head?) :
    mark.isPrefixOf (Utf8.encode s ++ rest) = false := by
  rw [Bool.eq_false_iff]
  intro hprefix
  obtain ⟨more, hmore⟩ := List.isPrefixOf_iff_prefix.1 hprefix
  rw [Utf8.encode] at hmore
  cases hs : s.toList with
  | nil =>
    rw [hs, List.flatMap_nil, List.nil_append] at hmore
    rw [← hmore] at hrest
    exact hrest rfl
  | cons c cs =>
    obtain ⟨a, tail, hbytes, hfront⟩ := Utf8.front_encodeChar c
    replace hmore : 0xEF :: ([0xBB, 0xBF] ++ more) =
        a :: (tail ++ (cs.flatMap String.utf8EncodeChar ++ rest)) := by
      rw [hs, List.flatMap_cons, hbytes, List.append_assoc] at hmore
      exact hmore
    rw [List.cons.injEq] at hmore
    obtain ⟨rfl, htail⟩ := hmore
    have hmark : Utf8.front 0xEF ([0xBB, 0xBF] ++ more) = (some Text.byteOrderMark, 2) := rfl
    rw [htail, hfront, Prod.mk.injEq, Option.some.injEq] at hmark
    rw [hs, hmark.1] at h
    exact h rfl

/-! ### Texts of records -/

/-- Bytes of some characters. -/
def IsText (bytes : List UInt8) : Prop := ∃ s, Utf8.encode s = bytes

theorem IsText.append {bs bs' : List UInt8} (h : IsText bs) (h' : IsText bs') :
    IsText (bs ++ bs') := by
  obtain ⟨s, rfl⟩ := h
  obtain ⟨s', rfl⟩ := h'
  refine ⟨s ++ s', ?_⟩
  rw [Utf8.encode, String.toList_append, List.flatMap_append]
  rfl

theorem isText_nil : IsText [] := ⟨"", rfl⟩

theorem isText_singleton {b : UInt8} (h : b < 0x80) : IsText [b] := ⟨_, Utf8.encode_singleton h⟩

theorem isText_flatMap {α : Type} {f : α → List UInt8} {as : List α}
    (h : ∀ a ∈ as, IsText (f a)) : IsText (as.flatMap f) := by
  induction as with
  | nil => exact isText_nil
  | cons a as ih =>
    rw [List.flatMap_cons]
    exact (h a List.mem_cons_self).append (ih fun b hb => h b (List.mem_cons_of_mem a hb))

theorem isText_encodeChar (c : Char) : IsText (String.utf8EncodeChar c) :=
  ⟨String.singleton c, by rw [Utf8.encode, String.toList_singleton, List.flatMap_singleton]⟩

theorem isText_doubleQuotes (s : String) : IsText (doubleQuotes (Utf8.encode s)) := by
  have hquote : quote < 0x80 := by decide
  rw [doubleQuotes, Utf8.encode, List.flatMap_assoc]
  refine isText_flatMap fun c _ => ?_
  -- The byte of a quote is a quote, and no part of another character.
  by_cases hmem : quote ∈ String.utf8EncodeChar c
  · have hc := Utf8.eq_of_mem_encodeChar hquote hmem
    have hbytes : String.utf8EncodeChar c = [quote] := by
      rw [hc]
      rfl
    rw [hbytes]
    exact (isText_singleton hquote).append (isText_singleton hquote)
  · have hkeep : (String.utf8EncodeChar c).flatMap (fun b => if b == quote then [quote, quote]
        else [b]) = (String.utf8EncodeChar c).flatMap fun b => [b] := by
      rw [List.flatMap_def, List.flatMap_def]
      refine congrArg _ (List.map_congr_left fun b hb => if_neg ?_)
      rw [beq_iff_eq]
      rintro rfl
      exact hmem hb
    rw [hkeep, List.flatMap_singleton']
    exact isText_encodeChar c

theorem isText_writeField (delimiter : UInt8) (s : String) :
    IsText (writeField delimiter (Utf8.encode s)) := by
  have hquote : IsText [quote] := isText_singleton (by decide)
  unfold writeField
  split
  · exact hquote.append ((isText_doubleQuotes s).append hquote)
  · exact ⟨s, rfl⟩

variable {delimiter : UInt8}

theorem isText_line (hascii : delimiter < 0x80) (row : List String) :
    IsText (line delimiter (row.map Utf8.encode)) := by
  induction row with
  | nil => exact isText_nil
  | cons s row ih =>
    cases row with
    | nil =>
      rw [List.map_cons, List.map_nil, line_singleton]
      exact isText_writeField delimiter s
    | cons s' row =>
      rw [List.map_cons, List.map_cons, line_cons_cons]
      exact (isText_writeField delimiter s).append ((isText_singleton hascii).append ih)

theorem isText_writeRecord (hascii : delimiter < 0x80) (row : List String) :
    IsText (writeRecord delimiter (row.map Utf8.encode)) := by
  have hquote : IsText [quote] := isText_singleton (by decide)
  have hend : IsText [lineFeed] := isText_singleton (by decide)
  rw [writeRecord_eq]
  split
  · exact (hquote.append hquote).append hend
  · exact (isText_line hascii row).append hend

/-- What is written of texts is a text. -/
theorem encode_writtenText {o : Options} (hascii : o.delimiter < 0x80) (t : Table) :
    Utf8.encode (writtenText o t) = write o t := by
  obtain ⟨s, hs⟩ : IsText (write o t) := isText_flatMap fun row _ => isText_writeRecord hascii row
  rw [writtenText, ← hs, Utf8.decodeLossy_encode]

/-! ### Reading what was written -/

/-- What is written of a record does not start with the mark unless its first field does. -/
theorem mark_isPrefixOf_writeRecord (hsep : IsSeparator delimiter) {s : String}
    (h : s.toList.head? ≠ some Text.byteOrderMark) (row : List String) (rest : List UInt8) :
    mark.isPrefixOf (writeRecord delimiter ((s :: row).map Utf8.encode) ++ rest) = false := by
  have hmark : mark.head? = some 0xEF := rfl
  have hsmall : ∀ {b : UInt8}, b < 0x80 → some b ≠ mark.head? := by
    intro b hb heq
    rw [hmark, Option.some.injEq] at heq
    rw [heq] at hb
    exact absurd hb (by decide)
  have hquote : ∀ bytes, mark.isPrefixOf (quote :: bytes) = false := fun _ => rfl
  -- Behind the first field stands a delimiter or a line feed.
  obtain ⟨more, hline, hmore⟩ : ∃ more,
      line delimiter ((s :: row).map Utf8.encode) ++ lineFeed :: rest =
        writeField delimiter (Utf8.encode s) ++ more ∧ more.head? ≠ mark.head? := by
    cases row with
    | nil =>
      refine ⟨lineFeed :: rest, ?_, hsmall (by decide)⟩
      rw [List.map_cons, List.map_nil, line_singleton]
    | cons s' row =>
      refine ⟨delimiter :: (line delimiter ((s' :: row).map Utf8.encode) ++ lineFeed :: rest), ?_,
        hsmall hsep.ascii⟩
      rw [List.map_cons, List.map_cons, line_cons_cons, List.append_assoc, List.cons_append]
  rw [writeRecord_eq, List.append_assoc, List.singleton_append]
  split
  · exact hquote _
  · rw [hline, writeField]
    split
    · exact hquote _
    · exact mark_isPrefixOf_encode h more hmore

/-- What is written of texts is read as these texts, if the first of them does not start with a
mark. -/
theorem texts_records_write {o : Options} (hsep : IsSeparator o.delimiter) {t : Table}
    (hne : ∀ row ∈ recordsOf t, row ≠ [])
    (hmark : ∀ name ∈ t.names.head?, name.toList.head? ≠ some Text.byteOrderMark) :
    texts (records o.delimiter (write o t)) = .ok (recordsOf t) := by
  have hplain : mark.isPrefixOf (write o t) = false := by
    rw [write, recordsOf, List.flatMap_cons]
    cases hnames : t.names with
    | nil => exact absurd hnames (hne t.names List.mem_cons_self)
    | cons name names =>
      refine mark_isPrefixOf_writeRecord hsep (hmark name ?_) names _
      rw [hnames]
      rfl
  have hscan : scan o.delimiter {} (write o t) =
      (recordsOf t).map fun row => row.map Utf8.encode := by
    have hwrite : write o t = ((recordsOf t).map fun row => row.map Utf8.encode).flatMap
        (writeRecord o.delimiter) := by
      rw [write, List.flatMap_map]
    rw [hwrite]
    refine scan_write hsep fun row hrow => ?_
    obtain ⟨texts, htexts, rfl⟩ := List.mem_map.1 hrow
    rw [ne_eq, List.map_eq_nil_iff]
    exact hne texts htexts
  rw [records, hplain, if_neg Bool.false_ne_true]
  exact texts_of_fields ((fields_recordsFrom _ _ _ _ _).trans hscan)

end Delimited
end TableTalk
