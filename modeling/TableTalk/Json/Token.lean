import TableTalk.Text.Numeral

/-!
# Tokens of JSON texts

A JSON text is a sequence of tokens with white space between them.  A string token stands
for a text, unless it names half of a surrogate pair without the other half; such a token
is well formed but denotes nothing.

## Main definitions

* `Json.Token` — the tokens; `Json.Token.spelling` — how each is written.
* `Json.quoted` — a text as a string token.
* `Json.scan` — the tokens of a text.

## Main results

* `Json.scanString_length`, `Json.scanNumber_length` — a token is taken off the front of the
  text, so scanning comes to an end.
-/

namespace TableTalk
namespace Json

/-- A token of a JSON text. -/
inductive Token where
  /-- `[` -/
  | openArray
  /-- `]` -/
  | closeArray
  /-- `{` -/
  | openObject
  /-- `}` -/
  | closeObject
  /-- `,` -/
  | comma
  /-- `:` -/
  | colon
  /-- `null` -/
  | null
  /-- `true` or `false` -/
  | bool (b : Bool)
  /-- A number as it is spelt. -/
  | number (spelling : List Char)
  /-- A string and the text it denotes, if any. -/
  | string (text : Option String)
  deriving Repr, DecidableEq

/-! ### Writing -/

/-- A digit of a code point escape. -/
def hexDigit (n : Nat) : Char := Nat.digitChar (n % 16)

/-- A character as it is written in a string: quote, backslash and control characters as
escapes, all others as they are. -/
def escapeChar (c : Char) : List Char :=
  if c == '\x22' || c == '\\' then ['\\', c]
  else if c == '\x08' then ['\\', 'b']
  else if c == '\x0c' then ['\\', 'f']
  else if c == '\n' then ['\\', 'n']
  else if c == '\r' then ['\\', 'r']
  else if c == '\t' then ['\\', 't']
  else if c.toNat < 0x20 then
    ['\\', 'u', '0', '0', hexDigit (c.toNat / 16), hexDigit c.toNat]
  else [c]

/-- A text as a string token. -/
def quoted (s : String) : List Char := '\x22' :: (s.toList.flatMap escapeChar ++ ['\x22'])

/-- How a token is written.  A string that denotes nothing is written as half a surrogate
pair. -/
def Token.spelling : Token → List Char
  | .openArray => ['[']
  | .closeArray => [']']
  | .openObject => ['\x7b']
  | .closeObject => ['\x7d']
  | .comma => [',']
  | .colon => [':']
  | .null => ['n', 'u', 'l', 'l']
  | .bool true => ['t', 'r', 'u', 'e']
  | .bool false => ['f', 'a', 'l', 's', 'e']
  | .number spelling => spelling
  | .string (some s) => quoted s
  | .string none => '\x22' :: ("\\ud800".toList ++ ['\x22'])

/-! ### Scanning strings -/

/-- The value of a hexadecimal digit. -/
def hexValue? (c : Char) : Option Nat :=
  if '0' ≤ c && c ≤ '9' then some (c.toNat - '0'.toNat)
  else if 'a' ≤ c && c ≤ 'f' then some (c.toNat - 'a'.toNat + 10)
  else if 'A' ≤ c && c ≤ 'F' then some (c.toNat - 'A'.toNat + 10)
  else none

/-- The code point named by four hexadecimal digits. -/
def hexValue4? (a b c d : Char) : Option Nat := do
  let a ← hexValue? a
  let b ← hexValue? b
  let c ← hexValue? c
  let d ← hexValue? d
  return ((a * 16 + b) * 16 + c) * 16 + d

/-- The code point of a one-letter escape. -/
def simpleEscape? (c : Char) : Option Nat :=
  if c == '\x22' || c == '\\' || c == '/' then some c.toNat
  else if c == 'b' then some 8
  else if c == 'f' then some 12
  else if c == 'n' then some 10
  else if c == 'r' then some 13
  else if c == 't' then some 9
  else none

/-- The code points up to the closing quote, halves of surrogate pairs among them, and what
follows the quote.  Control characters have to be escaped. -/
def scanString : List Char → Option (List Nat × List Char)
  | [] => none
  | '\x22' :: cs => some ([], cs)
  | '\\' :: 'u' :: a :: b :: c :: d :: cs =>
    match hexValue4? a b c d with
    | some n => (scanString cs).map fun (ns, rest) => (n :: ns, rest)
    | none => none
  | '\\' :: e :: cs =>
    match simpleEscape? e with
    | some n => (scanString cs).map fun (ns, rest) => (n :: ns, rest)
    | none => none
  | c :: cs =>
    if c == '\\' || c.toNat < 0x20 then none
    else (scanString cs).map fun (ns, rest) => (c.toNat :: ns, rest)

theorem scanString_length {cs : List Char} {ns : List Nat} {rest : List Char}
    (h : scanString cs = some (ns, rest)) : rest.length < cs.length := by
  fun_induction scanString cs generalizing ns rest with
  | case1 => simp at h
  | case2 cs => simp only [Option.some.injEq, Prod.mk.injEq] at h; simp [h.2]
  | case3 a b c d cs n hn ih =>
    simp only [Option.map_eq_some_iff, Prod.mk.injEq, Prod.exists] at h
    obtain ⟨_, _, hs, _, rfl⟩ := h
    have := ih hs
    simp only [List.length_cons]; omega
  | case4 => simp at h
  | case5 e cs _ n hn ih =>
    simp only [Option.map_eq_some_iff, Prod.mk.injEq, Prod.exists] at h
    obtain ⟨_, _, hs, _, rfl⟩ := h
    have := ih hs
    simp only [List.length_cons]; omega
  | case6 => simp at h
  | case7 => simp at h
  | case8 c cs _ _ _ _ ih =>
    simp only [Option.map_eq_some_iff, Prod.mk.injEq, Prod.exists] at h
    obtain ⟨_, _, hs, _, rfl⟩ := h
    have := ih hs
    simp only [List.length_cons]; omega

/-- Whether a code point is the first half of a surrogate pair. -/
def isHighSurrogate (n : Nat) : Bool := 0xD800 ≤ n && n ≤ 0xDBFF

/-- Whether a code point is the second half of a surrogate pair. -/
def isLowSurrogate (n : Nat) : Bool := 0xDC00 ≤ n && n ≤ 0xDFFF

/-- The text that code points denote, halves of a surrogate pair side by side standing for
one character.  A half on its own denotes nothing. -/
def textOf? : List Nat → Option (List Char)
  | [] => some []
  | [n] => if isHighSurrogate n || isLowSurrogate n then none else some [Char.ofNat n]
  | n :: m :: ns =>
    if isHighSurrogate n then
      if isLowSurrogate m then
        (textOf? ns).map (Char.ofNat (0x10000 + (n - 0xD800) * 0x400 + (m - 0xDC00)) :: ·)
      else none
    else if isLowSurrogate n then none
    else (textOf? (m :: ns)).map (Char.ofNat n :: ·)

/-! ### Scanning numbers -/

/-- The digits at the front of a text, at least one, and what follows them. -/
def scanDigits (cs : List Char) : Option (List Char × List Char) :=
  let digits := cs.takeWhile Char.isDigit
  if digits.isEmpty then none else some (digits, cs.dropWhile Char.isDigit)

/-- The whole part of a number: a zero, or digits that do not start with one. -/
def scanWhole : List Char → Option (List Char × List Char)
  | '0' :: cs => some (['0'], cs)
  | cs => scanDigits cs

/-- The point and the digits behind the whole part, if there is a point. -/
def scanFraction : List Char → Option (List Char × List Char)
  | '.' :: cs => (scanDigits cs).map fun (digits, rest) => ('.' :: digits, rest)
  | cs => some ([], cs)

/-- The exponent of a number, if there is one. -/
def scanExponent : List Char → Option (List Char × List Char)
  | c :: cs =>
    if c == 'e' || c == 'E' then
      let (sign, digits) := match cs with
        | '+' :: ds => (['+'], ds)
        | '-' :: ds => (['-'], ds)
        | ds => ([], ds)
      (scanDigits digits).map fun (digits, rest) => (c :: sign ++ digits, rest)
    else some ([], c :: cs)
  | [] => some ([], [])

/-- The number at the front of a text as it is spelt, and what follows it. -/
def scanNumber (cs : List Char) : Option (List Char × List Char) := do
  let (sign, cs) := match cs with
    | '-' :: ds => (['-'], ds)
    | ds => ([], ds)
  let (whole, cs) ← scanWhole cs
  let (fraction, cs) ← scanFraction cs
  let (exponent, cs) ← scanExponent cs
  return (sign ++ whole ++ fraction ++ exponent, cs)

theorem scanDigits_length {cs digits rest : List Char}
    (h : scanDigits cs = some (digits, rest)) : rest.length < cs.length := by
  unfold scanDigits at h
  dsimp only at h
  split at h
  · simp at h
  · next hne =>
    simp only [Option.some.injEq, Prod.mk.injEq] at h
    obtain ⟨_, rfl⟩ := h
    have happ : cs.takeWhile Char.isDigit ++ cs.dropWhile Char.isDigit = cs :=
      List.takeWhile_append_dropWhile
    have hlen := congrArg List.length happ
    rw [List.length_append] at hlen
    have hpos : 0 < (cs.takeWhile Char.isDigit).length := by
      simpa [List.length_pos_iff] using hne
    omega

theorem scanWhole_length {cs digits rest : List Char}
    (h : scanWhole cs = some (digits, rest)) : rest.length < cs.length := by
  unfold scanWhole at h
  split at h
  · simp only [Option.some.injEq, Prod.mk.injEq] at h
    simp [h.2]
  · exact scanDigits_length h

theorem scanFraction_length {cs digits rest : List Char}
    (h : scanFraction cs = some (digits, rest)) : rest.length ≤ cs.length := by
  unfold scanFraction at h
  split at h
  · simp only [Option.map_eq_some_iff, Prod.mk.injEq, Prod.exists] at h
    obtain ⟨_, _, hs, _, rfl⟩ := h
    have := scanDigits_length hs
    simp only [List.length_cons]; omega
  · simp only [Option.some.injEq, Prod.mk.injEq] at h
    simp [h.2]

theorem scanExponent_length {cs digits rest : List Char}
    (h : scanExponent cs = some (digits, rest)) : rest.length ≤ cs.length := by
  unfold scanExponent at h
  split at h
  · split at h
    · simp only [Option.map_eq_some_iff, Prod.mk.injEq, Prod.exists] at h
      obtain ⟨_, _, hs, _, rfl⟩ := h
      have hlt := scanDigits_length hs
      split at hlt <;> simp only [List.length_cons] at hlt ⊢ <;> omega
    · simp only [Option.some.injEq, Prod.mk.injEq] at h
      simp [← h.2]
  · simp only [Option.some.injEq, Prod.mk.injEq] at h
    simp [← h.2]

theorem scanNumber_length {cs spelling rest : List Char}
    (h : scanNumber cs = some (spelling, rest)) : rest.length < cs.length := by
  unfold scanNumber at h
  split at h
  next sign ds hsign =>
    have hds : ds.length ≤ cs.length := by
      split at hsign <;> simp only [Prod.mk.injEq] at hsign <;> simp [← hsign.2]
    simp only [Option.bind_eq_bind, Option.bind_eq_some_iff, Option.pure_def, Option.some.injEq,
      Prod.mk.injEq, Prod.exists] at h
    obtain ⟨_, _, hw, _, _, hf, _, _, he, _, rfl⟩ := h
    have := scanWhole_length hw
    have := scanFraction_length hf
    have := scanExponent_length he
    omega

/-! ### Scanning a text -/

/-- The characters that may stand between tokens. -/
def isSpace (c : Char) : Bool := c == ' ' || c == '\n' || c == '\t' || c == '\r'

/-- The token that is a single character. -/
def punctuation? (c : Char) : Option Token :=
  if c == '[' then some .openArray
  else if c == ']' then some .closeArray
  else if c == '\x7b' then some .openObject
  else if c == '\x7d' then some .closeObject
  else if c == ',' then some .comma
  else if c == ':' then some .colon
  else none

/-- The rest of a text behind the given word at its front. -/
def dropWord? (word cs : List Char) : Option (List Char) :=
  if word.isPrefixOf cs then some (cs.drop word.length) else none

/-- The token at the front of a text and what follows it. -/
def scanToken (c : Char) (cs : List Char) : Option (Token × List Char) :=
  match punctuation? c with
  | some token => some (token, cs)
  | none =>
    if c == '\x22' then
      (scanString cs).map fun (ns, rest) => (.string ((textOf? ns).map String.ofList), rest)
    else if c == 'n' then (dropWord? ['u', 'l', 'l'] cs).map fun rest => (.null, rest)
    else if c == 't' then (dropWord? ['r', 'u', 'e'] cs).map fun rest => (.bool true, rest)
    else if c == 'f' then (dropWord? ['a', 'l', 's', 'e'] cs).map fun rest => (.bool false, rest)
    else (scanNumber (c :: cs)).map fun (spelling, rest) => (.number spelling, rest)

theorem scanToken_length {c : Char} {cs : List Char} {token : Token} {rest : List Char}
    (h : scanToken c cs = some (token, rest)) : rest.length < (c :: cs).length := by
  have hword : ∀ word, dropWord? word cs = some rest → rest.length ≤ cs.length := by
    intro word hw
    unfold dropWord? at hw
    split at hw
    · simp only [Option.some.injEq] at hw
      simp [← hw]
    · simp at hw
  unfold scanToken at h
  split at h
  · simp only [Option.some.injEq, Prod.mk.injEq] at h
    simp [h.2]
  · split at h
    · simp only [Option.map_eq_some_iff, Prod.mk.injEq, Prod.exists] at h
      obtain ⟨_, _, hs, _, rfl⟩ := h
      have := scanString_length hs
      simp only [List.length_cons]; omega
    · repeat' split at h
      all_goals simp only [Option.map_eq_some_iff, Prod.mk.injEq, Prod.exists] at h
      case isFalse.isFalse.isFalse.isFalse =>
        obtain ⟨_, _, hs, _, rfl⟩ := h
        exact scanNumber_length hs
      all_goals
        obtain ⟨_, hs, _, rfl⟩ := h
        have := hword _ hs
        simp only [List.length_cons]; omega

/-- The tokens of a text, unless it holds something that is none. -/
def scan : List Char → Option (List Token)
  | [] => some []
  | c :: cs =>
    if isSpace c then scan cs
    else
      match h : scanToken c cs with
      | some (token, rest) =>
        have := scanToken_length h
        (scan rest).map (token :: ·)
      | none => none
  termination_by cs => cs.length
  decreasing_by
    · exact Nat.lt_succ_self _
    · exact this

end Json
end TableTalk
