import TableTalk.Text.Blank

/-!
# Control sequences

A text may hold sequences of characters that tell a terminal how to show what follows
instead of being shown.  They fill no columns, and a style that is switched on in one line
of a cell must neither leak out of the cell nor get lost at the line's end.

## Main definitions

* `Styling.shown` — what a terminal shows of a text.
* `Styling.codes` — the style codes in a text.
* `Styling.closed` — lines each of which switches on the styles that are on at its
  beginning and switches off those that are on at its end.
-/

namespace TableTalk
namespace Styling

/-- The character that begins a control sequence. -/
def escape : Char := '\x1b'

/-! ### What is shown -/

/-- Where in a control sequence a terminal is. -/
inductive Reading where
  /-- In the text between sequences. -/
  | text
  /-- Behind the escape. -/
  | escape
  /-- Behind the escape and marks that announce one more character. -/
  | marked
  /-- Among the numbers of a sequence, which ends with a letter. -/
  | numbers
  /-- In a command to the system around the terminal, which ends with a bell. -/
  | command
  /-- In a message, which only the next escape ends. -/
  | message
  deriving Repr, DecidableEq

/-- Where a terminal is behind one more character of a sequence.  Characters that have no
meaning there are skipped. -/
def Reading.next (r : Reading) (c : Char) : Reading :=
  let n := c.toNat
  if n == 0x18 || n == 0x1A then .text
  else match r with
    | .text => .text
    | .escape =>
      if c == '[' then .numbers
      else if c == ']' then .command
      else if c == 'P' || c == 'X' || c == '^' || c == '_' then .message
      else if 0x20 ≤ n && n ≤ 0x2F then .marked
      else if 0x30 ≤ n && n ≤ 0x7E then .text
      else .escape
    | .marked => if 0x30 ≤ n && n ≤ 0x7E then .text else .marked
    | .numbers => if 0x40 ≤ n && n ≤ 0x7E then .text else .numbers
    | .command => if n == 0x07 then .text else .command
    | .message => .message

/-- What a terminal shows of some characters, given where it is and what it has skipped
since the last escape.  A sequence that the text breaks off is shown without its escape. -/
def shownFrom : Reading → List Char → List Char → List Char
  | .text, _, [] => []
  | _, skipped, [] => skipped.reverse
  | r, skipped, c :: cs =>
    if c == escape then shownFrom .escape [] cs
    else if r = .text then c :: shownFrom .text [] cs
    else shownFrom (r.next c) (c :: skipped) cs

/-- What a terminal shows of a text. -/
def shown (s : String) : String := String.ofList (shownFrom .text [] s.toList)

/-! ### Style codes -/

/-- How much of a style code has been read. -/
inductive CodePart where
  /-- The character that begins it. -/
  | start
  /-- One parenthesis, which chooses between sets of characters. -/
  | charset
  /-- Opening marks. -/
  | marks
  /-- So many digits of a number. -/
  | digits (count : Nat)
  /-- A number and the semicolon behind it. -/
  | separator
  /-- All of it. -/
  | whole
  deriving Repr, DecidableEq

namespace CodePart

/-- Whether a character can end a style code. -/
def ends (c : Char) : Bool :=
  ('A' ≤ c && c ≤ 'P') || c == 'R' || c == 'Z' || c == 'c' || ('f' ≤ c && c ≤ 'n') || c == 'q' ||
    c == 'r' || c == 'y' || c == '=' || c == '>' || c == '<' || c == '~'

/-- How much has been read behind one more character, if it can be part of a style code. -/
def next? : CodePart → Char → Option CodePart
  | .whole, _ => none
  | .digits n, c =>
    if c.isDigit then if n < 5 then some (.digits (n + 1)) else none
    else if 5 ≤ n then none
    else if c == ';' then some .separator
    else if ends c then some .whole
    else none
  | .separator, c =>
    if c.isDigit then some (.digits 1)
    else if c == ';' then some .separator
    else if ends c then some .whole
    else none
  | part, c =>
    if c == '(' || c == ')' then some (if part = .start then .charset else .marks)
    else if c == '[' || c == '#' || c == ';' || c == '?' then some .marks
    else if part = .charset && ('0' ≤ c && c ≤ '2') then some .whole
    else if c.isDigit then some (.digits 1)
    else if ends c then some .whole
    else none

/-- Whether a style code may end here. -/
def complete : CodePart → Bool
  | .digits _ | .whole => true
  | _ => false

end CodePart

/-- The length of the longest style code that some characters continue, if they continue
one, given what has been read, how much that is, and the longest code found in it. -/
def codeLength? : CodePart → Nat → Option Nat → List Char → Option Nat
  | _, _, longest, [] => longest
  | part, n, longest, c :: cs =>
    match part.next? c with
    | none => longest
    | some part => codeLength? part (n + 1) (if part.complete then some (n + 1) else longest) cs

/-- Whether a character begins a style code. -/
def introduces (c : Char) : Bool := c == escape || c.toNat == 0x9B

/-- The style codes in some characters behind the given number of characters to be skipped. -/
def codesFrom : Nat → List Char → List String
  | _, [] => []
  | n + 1, _ :: cs => codesFrom n cs
  | 0, c :: cs =>
    if introduces c then
      match codeLength? .start 0 none cs with
      | some n => String.ofList (c :: cs.take n) :: codesFrom n cs
      | none => codesFrom 0 cs
    else codesFrom 0 cs

/-- The style codes in a text. -/
def codes (s : String) : List String := codesFrom 0 s.toList

/-! ### Styles across lines -/

/-- The code that switches all styles off. -/
def reset : String := "\x1b[0m"

/-- The codes of the styles that are on behind a line, given those that are on in front. -/
def behind (active : List String) (line : String) : List String :=
  (codes line).foldl (fun active code => if code == reset then [] else active ++ [code]) active

/-- Lines that each switch on the styles that are on at their beginning and switch off
those that are on at their end, given the codes of the styles that are on in front. -/
def closed : List String → List String → List String
  | _, [] => []
  | active, line :: lines =>
    let rest := behind active line
    (String.join active ++ line ++ if rest.isEmpty then "" else reset) :: closed rest lines

end Styling
end TableTalk
