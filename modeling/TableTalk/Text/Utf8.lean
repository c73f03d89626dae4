/-!
# Reading UTF-8

Bytes are read one character at a time from the front.  A sequence that is not well
formed ends at the first byte that cannot continue it: the bytes already read are one
fault, and reading can go on behind them.

## Main definitions

* `Utf8.front` — the character at the front of some bytes, or the fault there, and its size.
* `Utf8.decode` — all bytes as text, or the number of bytes in front of the first fault.
* `Utf8.decodeLossy` — all bytes as text, each fault as one replacement character.
* `Utf8.encode` — the bytes of a text.
-/

namespace TableTalk
namespace Utf8

/-- The six bits that a continuation byte carries. -/
def payload (b : UInt8) : Nat := b.toNat % 64

/-- Whether a byte continues a character. -/
def isContinuation (b : UInt8) : Bool := 0x80 ≤ b && b ≤ 0xBF

/-- The second bytes of a longer character: those behind the first byte `first` are `low` at the
least, and those behind `last` are `high` at the most. -/
def isSecond (first low last high a b : UInt8) : Bool :=
  if a == first then low ≤ b && b ≤ 0xBF
  else if a == last then 0x80 ≤ b && b ≤ high
  else isContinuation b

/-- The second bytes of a three-byte character: none is written longer than needed, and
surrogates are no characters. -/
def secondOfThree (a b : UInt8) : Bool := isSecond 0xE0 0xA0 0xED 0x9F a b

/-- The second bytes of a four-byte character: none is written longer than needed, and the
last code point is `10FFFF`. -/
def secondOfFour (a b : UInt8) : Bool := isSecond 0xF0 0x90 0xF4 0x8F a b

/-- What stands at the front of the bytes `a :: rest`: a character, or `none` for a fault,
and how many bytes of `rest` belong to it. -/
def front (a : UInt8) (rest : List UInt8) : Option Char × Nat :=
  if a < 0x80 then (some (Char.ofNat a.toNat), 0)
  else if 0xC2 ≤ a && a ≤ 0xDF then
    match rest with
    | b :: _ =>
      if isContinuation b then (some (Char.ofNat (a.toNat % 32 * 64 + payload b)), 1)
      else (none, 0)
    | [] => (none, 0)
  else if 0xE0 ≤ a && a ≤ 0xEF then
    match rest with
    | b :: c :: _ =>
      if !secondOfThree a b then (none, 0)
      else if !isContinuation c then (none, 1)
      else (some (Char.ofNat ((a.toNat % 16 * 64 + payload b) * 64 + payload c)), 2)
    | [b] => (none, if secondOfThree a b then 1 else 0)
    | [] => (none, 0)
  else if 0xF0 ≤ a && a ≤ 0xF4 then
    match rest with
    | b :: c :: d :: _ =>
      if !secondOfFour a b then (none, 0)
      else if !isContinuation c then (none, 1)
      else if !isContinuation d then (none, 2)
      else
        (some (Char.ofNat
          (((a.toNat % 8 * 64 + payload b) * 64 + payload c) * 64 + payload d)), 3)
    | [b, c] => (none, if !secondOfFour a b then 0 else if isContinuation c then 2 else 1)
    | [b] => (none, if secondOfFour a b then 1 else 0)
    | [] => (none, 0)
  else (none, 0)

/-- The bytes as text, `start` bytes having been read before them; if they are not well
formed, the number of bytes in front of the first fault. -/
def decodeFrom (start : Nat) : List UInt8 → Except Nat (List Char)
  | [] => .ok []
  | a :: rest =>
    match front a rest with
    | (some c, n) => (decodeFrom (start + n + 1) (rest.drop n)).map (c :: ·)
    | (none, _) => .error start
  termination_by bytes => bytes.length
  decreasing_by simp only [List.length_drop, List.length_cons]; omega

/-- The bytes as text; if they are not well formed, the number of bytes in front of the
first fault. -/
def decode (bytes : List UInt8) : Except Nat String := (decodeFrom 0 bytes).map String.ofList

/-- The character that stands for a fault. -/
def replacement : Char := '\ufffd'

/-- The bytes as characters, each fault as one replacement character. -/
def decodeLossyChars : List UInt8 → List Char
  | [] => []
  | a :: rest =>
    match front a rest with
    | (c?, n) => c?.getD replacement :: decodeLossyChars (rest.drop n)
  termination_by bytes => bytes.length
  decreasing_by simp only [List.length_drop, List.length_cons]; omega

/-- The bytes as text, each fault as one replacement character. -/
def decodeLossy (bytes : List UInt8) : String := String.ofList (decodeLossyChars bytes)

/-- The bytes of a text. -/
def encode (s : String) : List UInt8 := s.toList.flatMap String.utf8EncodeChar

end Utf8
end TableTalk
