import TableTalk.Proofs.Documents
import TableTalk.Proofs.Reading

/-!
# Documents without white space are read back

Every token of a document is scanned from the way in which it is written: a number is as long as
its digits, since what may stand behind a value, a comma or a closing bracket, goes on with no
number.  So a document is read from its text, and what is stored as a record is read if each of
its fields is.

## Main definitions

* `Json.Apart` — the texts that go on with no number.
* `Json.Legible` — the tokens that are scanned from the way in which they are written.
* `Json.Plain` — the documents whose numbers are natural and whose strings denote texts.

## Main results

* `Json.scan_natural` — a number is read from its digits.
* `Json.Plain.legible` — a plain document is scanned from the way in which it is written.
* `Json.read?_compact` — **a plain document is read from its text without white space.**
* `Json.fields?_object` — a record is read field by field.
-/

namespace TableTalk
namespace Json

/-! ### Numbers in a text -/

/-- No number goes on in the text. -/
def Apart (rest : List Char) : Prop :=
  rest.head?.all (fun c => !(c.isDigit || c == '.' || c == 'e' || c == 'E')) = true

theorem apart_cons {c : Char} {cs : List Char} :
    Apart (c :: cs) ↔ c.isDigit = false ∧ (c == '.') = false ∧ (c == 'e' || c == 'E') = false := by
  simp [Apart, and_assoc]

variable {rest : List Char}

theorem Apart.scanFraction_eq (h : Apart rest) : scanFraction rest = some ([], rest) := by
  unfold scanFraction
  split
  · cases h
  · rfl

theorem Apart.scanExponent_eq (h : Apart rest) : scanExponent rest = some ([], rest) := by
  cases rest with
  | nil => rfl
  | cons c cs => exact if_neg (Bool.eq_false_iff.1 (apart_cons.1 h).2.2)

theorem Apart.scanDigits_append (h : Apart rest) {digits : List Char} (hne : digits ≠ [])
    (hdigits : ∀ c ∈ digits, c.isDigit = true) :
    scanDigits (digits ++ rest) = some (digits, rest) := by
  have hbehind : rest.takeWhile Char.isDigit = [] ∧ rest.dropWhile Char.isDigit = rest := by
    cases rest with
    | nil => exact ⟨rfl, rfl⟩
    | cons c cs => simp [(apart_cons.1 h).1]
  have hempty : digits.isEmpty = false := List.isEmpty_eq_false_iff.2 hne
  simp only [scanDigits, List.takeWhile_append_of_pos hdigits,
    List.dropWhile_append_of_pos hdigits, hbehind, List.append_nil, hempty, Bool.false_eq_true,
    if_false]

theorem exists_toDigits_eq_cons (n : Nat) :
    ∃ c ds, Nat.toDigits 10 n = c :: ds ∧ c.isDigit = true := by
  obtain ⟨c, ds, h⟩ := List.exists_cons_of_ne_nil (Nat.toDigits_ne_nil (b := 10) (n := n))
  refine ⟨c, ds, h, ?_⟩
  exact Nat.isDigit_of_mem_toDigits (by decide) (by decide) (h ▸ List.mem_cons_self)

/-- Only the digits of zero start with a zero. -/
theorem toDigits_eq_zero_cons {n : Nat} {ds : List Char} (h : Nat.toDigits 10 n = '0' :: ds) :
    ds = [] := by
  induction n using Nat.strongRecOn generalizing ds with
  | _ n ih =>
    rcases Nat.lt_or_ge n 10 with hlt | hge
    · rw [Nat.toDigits_of_lt_base hlt] at h
      exact (List.cons.inj h).2.symm
    · rw [Nat.toDigits_of_base_le (by decide) hge] at h
      obtain ⟨c, cs, hfront, -⟩ := exists_toDigits_eq_cons (n / 10)
      rw [hfront, List.cons_append, List.cons.injEq] at h
      rw [h.1] at hfront
      -- The digits in front of the last one are those of zero, but the number has two digits.
      have hvalue := Nat.ofDigitChars_ten_toDigits (n := n / 10)
      rw [hfront, ih (n / 10) (Nat.div_lt_self (by omega) (by decide)) hfront] at hvalue
      have hzero : Nat.ofDigitChars 10 ['0'] 0 = 0 := rfl
      omega

theorem scanWhole_natural (n : Nat) (h : Apart rest) :
    scanWhole (Nat.toDigits 10 n ++ rest) = some (Nat.toDigits 10 n, rest) := by
  unfold scanWhole
  split
  · next cs hcs =>
    obtain ⟨c, ds, hdigits, -⟩ := exists_toDigits_eq_cons n
    rw [hdigits, List.cons_append, List.cons.injEq] at hcs
    rw [hcs.1] at hdigits
    have hnil := toDigits_eq_zero_cons hdigits
    rw [hdigits, hnil, ← hcs.2, hnil, List.nil_append]
  · exact h.scanDigits_append Nat.toDigits_ne_nil fun c hc =>
      Nat.isDigit_of_mem_toDigits (by decide) (by decide) hc

theorem scanNumber_natural (n : Nat) (h : Apart rest) :
    scanNumber (Nat.toDigits 10 n ++ rest) = some (Nat.toDigits 10 n, rest) := by
  have hwhole := scanWhole_natural n h
  obtain ⟨c, ds, hdigits, hdigit⟩ := exists_toDigits_eq_cons n
  rw [hdigits, List.cons_append] at hwhole ⊢
  unfold scanNumber
  split
  next sign cs hsign =>
    split at hsign
    · next hminus =>
      rw [List.cons.injEq] at hminus
      rw [hminus.1] at hdigit
      cases hdigit
    · obtain ⟨rfl, rfl⟩ := Prod.mk.inj hsign
      simp only [hwhole, h.scanFraction_eq, h.scanExponent_eq, Option.bind_eq_bind,
        Option.bind_some, Option.pure_def, List.nil_append, List.append_nil]

theorem scan_natural (n : Nat) (h : Apart rest) :
    scan (Nat.toDigits 10 n ++ rest) = (scan rest).map (.number (Nat.toDigits 10 n) :: ·) := by
  have hnumber := scanNumber_natural n h
  obtain ⟨c, ds, hdigits, hdigit⟩ := exists_toDigits_eq_cons n
  rw [hdigits, List.cons_append] at hnumber ⊢
  have hother : ∀ d : Char, d.isDigit = false → (c == d) = false := by
    intro d hd
    rw [beq_eq_false_iff_ne]
    rintro rfl
    rw [hdigit] at hd
    cases hd
  refine scan_token ?_ ?_
  · simp only [isSpace, hother ' ' rfl, hother '\n' rfl, hother '\t' rfl, hother '\r' rfl,
      Bool.or_self]
  · have hmark : punctuation? c = none := by
      simp only [punctuation?, hother '[' rfl, hother ']' rfl, hother '\x7b' rfl,
        hother '\x7d' rfl, hother ',' rfl, hother ':' rfl, Bool.false_eq_true, if_false]
    simp only [scanToken, hmark, hother '\x22' rfl, hother 'n' rfl, hother 't' rfl,
      hother 'f' rfl, Bool.false_eq_true, if_false, hnumber, Option.map_some]

/-! ### Tokens without white space -/

/-- The tokens are scanned from the way in which they are written, unless a number goes on behind
them. -/
def Legible (tokens : List Token) : Prop :=
  ∀ rest, Apart rest →
    scan (tokens.flatMap Token.spelling ++ rest) = (scan rest).map (tokens ++ ·)

/-- A token of one character that goes on with no number. -/
def Token.IsMark (token : Token) : Prop :=
  ∃ c, token.spelling = [c] ∧ isSpace c = false ∧ punctuation? c = some token ∧ Apart [c]

variable {token : Token} {tokens further : List Token}

theorem Token.IsMark.apart (h : token.IsMark) :
    Apart ((token :: tokens).flatMap Token.spelling ++ rest) := by
  obtain ⟨c, hc, -, -, hapart⟩ := h
  rw [List.flatMap_cons, hc]
  exact hapart

theorem Legible.mark (h : Legible tokens) (htoken : token.IsMark) : Legible (token :: tokens) := by
  intro rest hrest
  obtain ⟨c, hc, hspace, hmark, -⟩ := htoken
  rw [List.flatMap_cons, hc, List.append_assoc, List.singleton_append,
    scan_punctuation hspace hmark, h rest hrest, Option.map_map]
  rfl

theorem Legible.append (h : Legible tokens) (hfurther : Legible further)
    (hapart : ∀ rest, Apart (further.flatMap Token.spelling ++ rest)) :
    Legible (tokens ++ further) := by
  intro rest hrest
  rw [List.flatMap_append, List.append_assoc, h _ (hapart rest), hfurther rest hrest,
    Option.map_map]
  congr 1
  funext rest
  exact (List.append_assoc _ _ _).symm

theorem isMark_comma : Token.IsMark .comma := ⟨',', rfl, rfl, rfl, rfl⟩

theorem isMark_colon : Token.IsMark .colon := ⟨':', rfl, rfl, rfl, rfl⟩

theorem legible_nil : Legible [] := fun _ _ => Option.map_id'.symm

theorem legible_string (s : String) : Legible [.string (some s)] := by
  intro rest _
  rw [List.flatMap_cons, List.flatMap_nil, List.append_nil]
  exact scan_quoted s rest

/-- The parts of an array or object behind the first one, and the bracket behind them. -/
theorem legible_parts {parts : List (List Token)} {close : Token}
    (h : ∀ part ∈ parts, Legible part) (hclose : close.IsMark) :
    Legible ((parts.flatMap fun part => .comma :: part) ++ [close]) ∧
      ∀ rest, Apart (((parts.flatMap fun part => .comma :: part) ++ [close]).flatMap
        Token.spelling ++ rest) := by
  induction parts with
  | nil => exact ⟨legible_nil.mark hclose, fun rest => hclose.apart⟩
  | cons part parts ih =>
    obtain ⟨hlegible, hapart⟩ := ih fun part hpart => h part (List.mem_cons_of_mem _ hpart)
    rw [List.flatMap_cons, List.append_assoc, List.cons_append]
    refine ⟨Legible.mark ?_ isMark_comma, fun rest => isMark_comma.apart⟩
    exact (h part List.mem_cons_self).append hlegible hapart

theorem legible_bracketed {first : List Token} {parts : List (List Token)} {start stop : Token}
    (hfirst : Legible first) (h : ∀ part ∈ parts, Legible part) (hstart : start.IsMark)
    (hstop : stop.IsMark) :
    Legible (start :: (first ++ ((parts.flatMap fun part => .comma :: part) ++ [stop]))) := by
  obtain ⟨hparts, hapart⟩ := legible_parts h hstop
  exact (hfirst.append hparts hapart).mark hstart

/-! ### Plain documents -/

/-- A document whose numbers are natural numbers and whose strings denote texts. -/
inductive Plain : Json → Prop
  /-- `null` -/
  | null : Plain .null
  /-- A truth value. -/
  | bool (b : Bool) : Plain (.bool b)
  /-- A number. -/
  | natural (n : Nat) : Plain (.natural n)
  /-- A text. -/
  | string (s : String) : Plain (.string s)
  /-- A list. -/
  | array {items : List Json} (h : ∀ item ∈ items, Plain item) : Plain (.array items)
  /-- A record. -/
  | object {members : List (String × Json)} (h : ∀ member ∈ members, Plain member.2) :
    Plain (.object members)

/-- A plain document is scanned from the way in which it is written. -/
theorem Plain.legible {j : Json} (h : Plain j) : Legible j.tokens := by
  induction h with
  | null =>
    intro rest _
    exact scan_token rfl rfl
  | bool b =>
    intro rest _
    cases b <;> exact scan_token rfl rfl
  | natural n =>
    intro rest hrest
    have hspelling : (Json.natural n).tokens.flatMap Token.spelling = Nat.toDigits 10 n :=
      List.append_nil _
    rw [hspelling]
    exact scan_natural n hrest
  | string s => exact legible_string s
  | @array items _ ih =>
    have hopen : Token.IsMark .openArray := ⟨'[', rfl, rfl, rfl, rfl⟩
    have hclose : Token.IsMark .closeArray := ⟨']', rfl, rfl, rfl, rfl⟩
    cases items with
    | nil => exact (legible_nil.mark hclose).mark hopen
    | cons item items =>
      have hparts : ∀ part ∈ items.map tokens, Legible part := by
        intro part hpart
        obtain ⟨i, hi, rfl⟩ := List.mem_map.1 hpart
        exact ih i (List.mem_cons_of_mem item hi)
      have htokens := tokens_array_cons item items []
      rw [List.append_nil, furtherTokens, ← List.flatMap_map] at htokens
      rw [htokens]
      exact legible_bracketed (ih item List.mem_cons_self) hparts hopen hclose
  | @object members _ ih =>
    have hopen : Token.IsMark .openObject := ⟨'\x7b', rfl, rfl, rfl, rfl⟩
    have hclose : Token.IsMark .closeObject := ⟨'\x7d', rfl, rfl, rfl, rfl⟩
    -- A key is a text, and a colon stands between it and the value.
    have hmember : ∀ member ∈ members,
        Legible (.string (some member.1) :: .colon :: member.2.tokens) := by
      intro member hm
      have hvalue := (ih member hm).mark isMark_colon
      exact (legible_string member.1).append hvalue fun _ => isMark_colon.apart
    cases members with
    | nil => exact (legible_nil.mark hclose).mark hopen
    | cons member members =>
      obtain ⟨key, value⟩ := member
      have hparts : ∀ part ∈ members.map fun m => Token.string (some m.1) :: .colon :: m.2.tokens,
          Legible part := by
        intro part hpart
        obtain ⟨m, hm, rfl⟩ := List.mem_map.1 hpart
        exact hmember m (List.mem_cons_of_mem _ hm)
      have htokens := tokens_object_cons key value members []
      have hfurther : furtherMemberTokens members = (members.map fun m =>
          Token.string (some m.1) :: .colon :: m.2.tokens).flatMap fun part => .comma :: part := by
        rw [List.flatMap_map]
        rfl
      rw [List.append_nil, hfurther] at htokens
      rw [htokens]
      exact legible_bracketed (hmember _ List.mem_cons_self) hparts hopen hclose

/-- A plain document is read from its text without white space. -/
theorem read?_compact {j : Json} (h : Plain j) : read? j.compact = some j := by
  have hscan := h.legible [] rfl
  rw [scan, Option.map_some, List.append_nil, List.append_nil] at hscan
  have hrun := Reader.run_tokens j [] []
  rw [List.append_nil] at hrun
  rw [read?, compact, String.toList_ofList, hscan, Option.bind_some, ofTokens?, hrun]
  rfl

/-! ### Records -/

theorem membersAt_cons (member : String × Json) (members : List (String × Json)) (key : String) :
    membersAt (member :: members) key =
      if member.1 = key then member.2 :: membersAt members key else membersAt members key := by
  rw [membersAt, membersAt, List.filterMap_cons]
  by_cases hkey : member.1 = key <;> simp [hkey]

theorem membersAt_eq_nil {members : List (String × Json)} {key : String}
    (h : key ∉ members.map Prod.fst) : membersAt members key = [] := by
  induction members with
  | nil => rfl
  | cons member members ih =>
    rw [List.map_cons, List.mem_cons, not_or] at h
    rw [membersAt_cons, if_neg (Ne.symm h.1), ih h.2]

theorem membersAt_eq {members : List (String × Json)} (hnodup : (members.map Prod.fst).Nodup)
    {member : String × Json} (hm : member ∈ members) :
    membersAt members member.1 = [member.2] := by
  induction members with
  | nil => cases hm
  | cons first members ih =>
    rw [List.map_cons, List.nodup_cons] at hnodup
    rcases List.mem_cons.1 hm with rfl | hm
    · rw [membersAt_cons, if_pos rfl, membersAt_eq_nil hnodup.1]
    · rw [membersAt_cons, if_neg, ih hnodup.2 hm]
      intro heq
      exact hnodup.1 (heq ▸ List.mem_map_of_mem hm)

/-- The fields of a record with distinct names are read in the order in which they stand. -/
theorem fields?_object {names : List String} {members : List (String × Json)}
    (hnames : members.map Prod.fst = names) (h : names.Nodup) :
    fields? names (.object members) = some (members.map fun member => some member.2) := by
  subst hnames
  rw [fields?, List.mapM_map]
  refine List.mapM_eq_some_map fun member hm => ?_
  simp only [Function.comp_apply, membersAt_eq h hm]

/-- A number is read if it is below the limit. -/
theorem natural?_natural {n limit : Nat} (h : n < limit) :
    (natural n).natural? limit = some n := by
  rw [natural, natural?, Numeral.digits?_toDigits]
  exact Option.filter_eq_some_iff.2 ⟨rfl, decide_eq_true h⟩

theorem lt_of_natural? {j : Json} {n limit : Nat} (h : j.natural? limit = some n) :
    n < limit := by
  unfold natural? at h
  split at h
  · exact of_decide_eq_true (Option.filter_eq_some_iff.1 h).2
  · cases h

theorem exists_of_list? {α : Type} {item? : Json → Option α} {j : Json} {as : List α}
    (h : j.list? item? = some as) {a : α} (ha : a ∈ as) : ∃ item, item? item = some a := by
  unfold list? at h
  split at h
  · obtain ⟨item, -, hitem⟩ := List.exists_of_mem_mapM h ha
    exact ⟨item, hitem⟩
  · cases h

end Json

/-- What is stored as a plain document is read from its text if it is read from the document. -/
theorem Stored.ofText?_text {α : Type} [Stored α] {a : α} (hplain : (Stored.toJson a).Plain)
    (h : Stored.ofJson? (Stored.toJson a) = some a) : Stored.ofText? (Stored.text a) = some a := by
  rw [ofText?, text, Json.read?_compact hplain]
  exact h

end TableTalk
