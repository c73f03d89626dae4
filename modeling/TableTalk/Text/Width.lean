import TableTalk.Text.Property

/-!
# The width of a text

A table lines its columns up by counting the columns of a terminal that a text fills.  That
is the sum over its characters, except that ligatures and pictures of several characters
are as wide as one, and that a selector behind a character chooses its form.  What is
behind a character decides its width, so a text is measured from its end, and a ligature or a
picture is known by what has been seen of it from behind.

## Main definitions

* `Width.ofChar` — the columns of a character on its own.
* `Width.Ligature`, `Width.Picture` — the rear part of a ligature or of a picture, behind the
  character to be measured; `Width.Ligature.step?` and `Width.Picture.step?` say what a
  character in front adds to the width, if it belongs to it.
* `Width.Behind` — what is behind a character, as far as its width depends on it.
* `Width.Behind.step` — the columns that a character adds in front of what is behind it.
* `Width.ofText` — the columns of a text of one line.
-/

namespace TableTalk
namespace Width

/-! ### Characters

Most characters fill one column of a terminal, wide characters two, and characters that
join a neighbour none. -/

/-- Whether a character is a medial or final part of a Hangul syllable. -/
def continuesSyllable (c : Char) : Bool :=
  let n := c.toNat
  (0x1160 ≤ n && n ≤ 0x11FF) || (0xD7B0 ≤ n && n ≤ 0xD7C6) || (0xD7CB ≤ n && n ≤ 0xD7FB)

/-- The Hangul filler, which takes up the room of the letter it stands for. -/
def syllableFiller : Char := '\u115f'

/-- The joiner of Tifinagh consonants, which is seen where it joins nothing. -/
def consonantJoiner : Char := '\u2d7f'

/-- The Devanagari caret, which points between two letters. -/
def caret : Char := '\ua8fa'

/-- Whether a character outside of ASCII fills no column of its own. -/
def joins (c : Char) : Bool :=
  c != syllableFiller && c != consonantJoiner &&
    (Property.holds Property.graphemeExtend c || Property.holds Property.ignorable c ||
      Property.holds Property.preposed c || continuesSyllable c || c == caret)

/-- The columns that a character fills on its own.  The two Khmer characters are drawn as
two and as three letters. -/
def ofChar (c : Char) : Nat :=
  if c.toNat ≤ 0xA0 then 1
  else if joins c then 0
  else if c == '\u17d8' then 3
  else if c == '\u17a4' || Property.holds Property.wide c then 2
  else 1

/-! ### Ligatures

In some scripts two or three letters are drawn as one.  A ligature is known by its rear part, and
whatever completes it is met later. -/

/-- The letters that a ligature can end with. -/
inductive LigatureEnd where
  /-- An Arabic alef, which a lam takes in. -/
  | alef
  /-- A Hebrew lamed, which an alef takes in. -/
  | lamed
  /-- A Buginese ya. -/
  | ya
  /-- A Buginese ya and the vowel sign joined to it. -/
  | vowelAndYa
  /-- A Tifinagh consonant. -/
  | consonant
  /-- A Tifinagh consonant and the joiner in front of it. -/
  | joinedConsonant
  /-- A Lisu tone letter, which stands below the one in front. -/
  | tone
  /-- An Old Turkic letter i, which an ec takes in. -/
  | orkhonI
  /-- A Khmer letter that can hang below the one in front. -/
  | hanging
  /-- A Kirat Rai vowel sign e. -/
  | vowelE
  /-- A Kirat Rai vowel sign ai, in one character or two. -/
  | vowelAi
  deriving Repr, DecidableEq

/-- The rear part of a ligature. -/
structure Ligature where
  /-- The letters seen so far. -/
  rear : LigatureEnd
  /-- Whether a joiner stands in front of them. -/
  joined : Bool := false
  deriving Repr, DecidableEq

namespace Ligature

/-- The character that joins two letters or two pictures into one. -/
def joiner : Char := '\u200d'

/-- Flips of the forms of the Arabic alef. -/
def alefs : List Nat := [
  0x622, 0x624, 0x625, 0x626, 0x627, 0x628, 0x671, 0x674, 0x675, 0x676, 0x773, 0x775, 0x870, 0x883]

/-- Flips of the forms of the Arabic lam. -/
def lams : List Nat := [
  0x644, 0x645, 0x6B5, 0x6B9, 0x76A, 0x76B, 0x8A6, 0x8A7, 0x8C7, 0x8C8]

/-- Flips of the Tifinagh consonants. -/
def consonants : List Nat := [0x2D31, 0x2D66, 0x2D6F, 0x2D70]

/-- Flips of the Khmer letters whose hanging form stays within the column of the letter
above; the hanging forms of the others reach out of it. -/
def hangingLetters : List Nat := [
  0x1780, 0x1783, 0x1784, 0x1788, 0x1789, 0x178D, 0x178E, 0x1794, 0x1795, 0x1799, 0x179B, 0x179E,
  0x17A0, 0x17A1, 0x17A2, 0x17A3, 0x17A7, 0x17A8, 0x17AB, 0x17AD, 0x17AF, 0x17B0]

/-- The ligature that a character may be the end of. -/
def ofChar? (c : Char) : Option Ligature :=
  if Property.holds alefs c then some ⟨.alef, false⟩
  else if c == '\u05dc' then some ⟨.lamed, false⟩
  else if c == '\u1a10' then some ⟨.ya, false⟩
  else if Property.holds consonants c then some ⟨.consonant, false⟩
  else if c == '\ua4fc' || c == '\ua4fd' then some ⟨.tone, false⟩
  else if c.toNat == 0x10C03 then some ⟨.orkhonI, false⟩
  else if Property.holds hangingLetters c then some ⟨.hanging, false⟩
  else if c.toNat == 0x16D67 then some ⟨.vowelE, false⟩
  else if c.toNat == 0x16D68 then some ⟨.vowelAi, false⟩
  else none

/-- What a letter in front of a ligature adds to the width, and the ligature behind the
next character, if the letter belongs to the ligature.  What it adds is negative if it
takes back columns that were counted for the letters behind. -/
def letter? : Ligature → Char → Option (Int × Option Ligature)
  | ⟨.alef, joined⟩, c =>
    if Property.holds lams c then some (0, none)
    else if Property.holds Property.transparent c then some (0, some ⟨.alef, joined⟩)
    else none
  | ⟨.lamed, joined⟩, c => if joined && c == '\u05d0' then some (0, none) else none
  | ⟨.ya, joined⟩, c => if joined && c == '\u1a17' then some (0, some ⟨.vowelAndYa, true⟩) else none
  | ⟨.vowelAndYa, _⟩, c => if c == '\u1a15' then some (0, none) else none
  | ⟨.consonant, joined⟩, c =>
    if c == consonantJoiner then some (1, some ⟨.joinedConsonant, true⟩)
    else if joined && Property.holds consonants c then some (0, none)
    else none
  | ⟨.joinedConsonant, _⟩, c => if Property.holds consonants c then some (-1, none) else none
  | ⟨.tone, _⟩, c => if 0xA4F8 ≤ c.toNat && c.toNat ≤ 0xA4FB then some (0, none) else none
  | ⟨.orkhonI, joined⟩, c => if joined && c.toNat == 0x10C32 then some (0, none) else none
  | ⟨.hanging, _⟩, c => if c == '\u17d2' then some (-1, none) else none
  -- The sign ai is two signs e, and either makes one sign with a sign aa in front.
  | ⟨.vowelE, _⟩, c =>
    if c.toNat == 0x16D63 || c.toNat == 0x16D69 then some (0, none)
    else if c.toNat == 0x16D67 then some (0, some ⟨.vowelAi, false⟩)
    else if c.toNat == 0x16D68 then some (1, some ⟨.vowelE, false⟩)
    else none
  | ⟨.vowelAi, _⟩, c => if c.toNat == 0x16D63 then some (0, none) else none

/-- What a character in front of a ligature adds to the width, and the ligature behind the
next character, if the character belongs to the ligature.  Joiners and ignorable marks may
stand anywhere in a ligature, only that Arabic letters join across other marks. -/
def step? (l : Ligature) (c : Char) : Option (Int × Option Ligature) :=
  if l.rear = .alef then l.letter? c
  else if c == joiner then some (0, some { l with joined := true })
  else if Property.holds Property.ignorableMark c then some (0, some l)
  else l.letter? c

end Ligature

/-! ### Pictures

An emoji is a picture of two columns.  A skin tone colours the picture in front, a joiner
makes one picture of two, and two letters of a region make its flag. -/

/-- The rear part of a picture. -/
inductive Picture where
  /-- A whole picture. -/
  | whole
  /-- A skin tone. -/
  | skinTone
  /-- One letter of a region. -/
  | letter
  /-- Two or more letters of regions. -/
  | letters
  /-- A picture and the joiner in front of it. -/
  | joined
  /-- A joined picture and the frame of a key in front of it. -/
  | joinedKey
  /-- A joined picture and one letter of a region in front of it. -/
  | joinedLetter
  /-- A joined picture and an even number of letters, which make whole flags. -/
  | joinedFlags
  /-- A joined picture and an odd number of letters, more than one. -/
  | joinedFlagsAndLetter
  /-- A joined picture and the end of the name of a region, of so many letters. -/
  | regionLetters (count : Nat)
  /-- A joined picture and the end of the number of a region, of so many digits. -/
  | regionDigits (count : Nat)
  deriving Repr, DecidableEq

namespace Picture

/-- Whether a character is a letter that names a region together with another one. -/
def isLetter (c : Char) : Bool := 0x1F1E6 ≤ c.toNat && c.toNat ≤ 0x1F1FF

/-- Whether a character sets the skin tone of the picture in front. -/
def isSkinTone (c : Char) : Bool := 0x1F3FB ≤ c.toNat && c.toNat ≤ 0x1F3FF

/-- Whether a character is a picture by itself. -/
def isWhole (c : Char) : Bool :=
  Property.holds Property.picture c && !isLetter c && !isSkinTone c

/-- Whether a character is a hidden letter in the name of a region. -/
def isHiddenLetter (c : Char) : Bool := 0xE0061 ≤ c.toNat && c.toNat ≤ 0xE007A

/-- Whether a character is a hidden digit in the number of a region. -/
def isHiddenDigit (c : Char) : Bool := 0xE0030 ≤ c.toNat && c.toNat ≤ 0xE0039

/-- Whether a character is the black flag, which hidden characters turn into another. -/
def isBlackFlag (c : Char) : Bool := c.toNat == 0x1F3F4

/-- The picture that a character may be the end of. -/
def ofChar? (c : Char) : Option Picture :=
  if isLetter c then some .letter
  else if isSkinTone c then some .skinTone
  else if Property.holds Property.picture c then some .whole
  else none

/-- Whether a selector for the picture form may stand in front of a part. -/
def takesSelector : Picture → Bool
  | .joined | .joinedKey => true
  | _ => false

/-- What a character in front of a joined picture adds to the width, and what is then
behind the next character, if the character belongs to the picture. -/
def joinedStep? (c : Char) : Option (Int × Picture) :=
  if c == '\u20e3' then some (0, .joinedKey)
  else if isLetter c then some (1, .joinedLetter)
  else if isSkinTone c then some (0, .skinTone)
  else if c.toNat == 0xE007F then some (0, .regionLetters 0)
  else if isWhole c then some (0, .whole)
  else none

/-- What a character in front of a part adds to the width, and what is then behind the
next character, if the character belongs to the picture. -/
def step? : Picture → Char → Option (Int × Picture)
  | .whole, c => if c == Ligature.joiner then some (0, .joined) else none
  | .skinTone, c =>
    if Property.holds Property.skinned c then some (0, .whole)
    else if c == Ligature.joiner then some (0, .joined)
    else none
  | .letter, c => if isLetter c then some (1, .letters) else none
  | .letters, c =>
    if isLetter c then some (1, .letters)
    else if c == Ligature.joiner then some (0, .joined)
    else none
  | .joined, c => joinedStep? c
  | .joinedKey, _ => none
  -- The second letter makes a flag, which is joined as a whole; the third stands alone again.
  | .joinedLetter, c => if isLetter c then some (-1, .joinedFlags) else none
  | .joinedFlags, c =>
    if isLetter c then some (3, .joinedFlagsAndLetter)
    else if c == Ligature.joiner then some (0, .joined)
    else none
  | .joinedFlagsAndLetter, c =>
    if isLetter c then some (-1, .joinedFlags)
    else if c == Ligature.joiner then some (0, .joined)
    else none
  | .regionLetters n, c =>
    if isHiddenLetter c && n < 6 then some (0, .regionLetters (n + 1))
    else if isHiddenDigit c && n < 5 then some (0, .regionDigits 1)
    else if isBlackFlag c && 3 ≤ n then some (0, .whole)
    else none
  | .regionDigits n, c =>
    if isHiddenDigit c && n < 3 then some (0, .regionDigits (n + 1))
    else if isBlackFlag c && n == 3 then some (0, .whole)
    else none

end Picture

/-! ### Texts -/

/-- The forms that a selector chooses for the character in front of it. -/
inductive Form where
  /-- A picture of two columns. -/
  | picture
  /-- A letter of one column. -/
  | text
  /-- A quotation mark as wide as an ideograph. -/
  | wide
  deriving Repr, DecidableEq

/-- The form that a character selects. -/
def Form.ofSelector? (c : Char) : Option Form :=
  if c == '\ufe0f' then some .picture
  else if c == '\ufe0e' then some .text
  else if c == '\ufe01' then some .wide
  else none

/-- The beginning of what is behind a character. -/
inductive Rear where
  /-- Nothing that matters. -/
  | other
  /-- The rear part of a ligature. -/
  | ligature (l : Ligature)
  /-- The rear part of a picture. -/
  | picture (p : Picture)
  deriving Repr, DecidableEq

/-- What is behind a character, as far as its width depends on it. -/
structure Behind where
  /-- The form that is selected for the character. -/
  form? : Option Form := none
  /-- What is behind the selector. -/
  rear : Rear := .other
  deriving Repr, DecidableEq

namespace Rear

/-- What matters behind a character whose own form has been selected: a ligature goes on
across selectors. -/
def acrossSelector : Rear → Rear
  | .ligature l => .ligature l
  | _ => .other

/-- What a character may be the beginning of. -/
def ofChar (c : Char) : Rear :=
  match Ligature.ofChar? c, Picture.ofChar? c with
  | some l, _ => .ligature l
  | none, some p => .picture p
  | none, none => .other

/-- What a character adds to the width, and what is then behind the next one, if it
belongs to what is behind it. -/
def step? : Rear → Char → Option (Int × Rear)
  | .other, _ => none
  | .ligature l, c => (l.step? c).map fun (w, next) => (w, next.elim .other .ligature)
  | .picture p, c => (p.step? c).map fun (w, next) => (w, .picture next)

end Rear

namespace Behind

/-- What is behind a selector, seen from the character in front of it. -/
def select (b : Behind) : Form → Behind
  | .picture =>
    match b.rear with
    | .picture p => ⟨some .picture, if p.takesSelector then b.rear else .other⟩
    | rear => ⟨some .picture, rear.acrossSelector⟩
  | form => ⟨some form, b.rear.acrossSelector⟩

/-- Whether a character is a quotation mark with a wide form. -/
def isQuotationMark (c : Char) : Bool :=
  c == '\u2018' || c == '\u2019' || c == '\u201c' || c == '\u201d'

/-- The columns of a character in the form selected for it, and what is then behind the next
one, if the character has that form.  A picture that is joined to the one behind adds
nothing to it. -/
def selected? (b : Behind) (c : Char) : Option (Int × Behind) :=
  match b.form? with
  | some .picture =>
    let width := match b.rear with
      | .picture _ => 0
      | _ => 2
    if Property.holds Property.pictureForm c then some (width, ⟨none, .picture .whole⟩) else none
  | some .text => if Property.holds Property.textForm c then some (1, {}) else none
  | some .wide => if isQuotationMark c then some (2, {}) else none
  | none => none

/-- The columns that a character adds in front of what is behind it, and what is then
behind the next one. -/
def step (b : Behind) (c : Char) : Int × Behind :=
  match b.selected? c with
  | some result => result
  | none =>
    -- A selector of a form that the character does not have is as good as absent.
    let rear := if b.form?.isSome then b.rear.acrossSelector else b.rear
    if c.toNat ≤ 0xA0 then (1, {})
    else match Form.ofSelector? c with
      | some form => (0, select ⟨none, rear⟩ form)
      | none =>
        match rear.step? c with
        | some (width, next) => (width, ⟨none, next⟩)
        | none => (ofChar c, ⟨none, .ofChar c⟩)

end Behind

/-- The columns that some characters fill, and what they are to the one in front of them. -/
def ofChars (cs : List Char) : Int × Behind :=
  cs.foldr (fun c (width, behind) =>
    let (more, behind) := behind.step c
    (width + more, behind)) (0, {})

/-- The columns that a text of one line fills. -/
def ofText (s : String) : Nat := (ofChars s.toList).1.toNat

end Width
end TableTalk
