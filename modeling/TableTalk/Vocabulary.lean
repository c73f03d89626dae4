/-!
# Fixed vocabularies

Column types, directions, relations, aggregates, kinds of transformations and the stages of
a dialogue are chosen from short closed lists.  Each member has one canonical label, under
which it is shown and stored, and may have short forms that are read but never written.

## Main definitions

* `Vocabulary` — the members of a type in order of presentation, with their spellings.
* `Vocabulary.ofLabel?`, `Vocabulary.read?` — the member with a canonical label, or with any
  accepted spelling.
* `UpperCase.ofText` — the text with the characters in upper case that labels can meet.
* `UnknownWord` — a text that is no word of a vocabulary.
-/

namespace TableTalk

/-- A closed list of members with their spellings. -/
class Vocabulary (α : Type) where
  /-- The members in order of presentation. -/
  members : List α
  /-- The canonical label, under which a member is shown and stored. -/
  label : α → String
  /-- Further spellings that are read but never written. -/
  shortForms : α → List String := fun _ => []

namespace Vocabulary

/-- The canonical labels in order of presentation. -/
def labels (α : Type) [Vocabulary α] : List String := (members : List α).map label

/-- The member with the given canonical label. -/
def ofLabel? {α : Type} [Vocabulary α] (s : String) : Option α :=
  members.find? fun a => label a == s

/-- The member with the given spelling. -/
def read? {α : Type} [Vocabulary α] (s : String) : Option α :=
  members.find? fun a => label a == s || (shortForms a).contains s

end Vocabulary

/-- A text that is no word of a vocabulary. -/
structure UnknownWord where
  /-- What the word should have been. -/
  noun : String
  /-- The text. -/
  text : String
  deriving Repr, DecidableEq

/-- The sentence that reports an unknown word. -/
def UnknownWord.message (e : UnknownWord) : String := s!"Unknown {e.noun}: {e.text}"

/-- The member with the given spelling, or the report that there is none. -/
def Vocabulary.read {α : Type} [Vocabulary α] (noun s : String) : Except UnknownWord α :=
  match Vocabulary.read? s with
  | some a => .ok a
  | none => .error ⟨noun, s⟩

/-! ### Upper case of labels

Labels of column types may be written in any case.  Only the upper-case forms that consist
of ASCII letters can meet a label, so only the characters with such a form are mapped: the
ASCII letters, the dotless i, the long s, the sharp s and the Latin ligatures. -/

namespace UpperCase

/-- The upper case of a character if it consists of ASCII letters, the character itself
otherwise. -/
def ofChar (c : Char) : List Char :=
  match c with
  | '\u0131' => ['I']
  | '\u017f' => ['S']
  | '\u00df' => ['S', 'S']
  | '\ufb00' => ['F', 'F']
  | '\ufb01' => ['F', 'I']
  | '\ufb02' => ['F', 'L']
  | '\ufb03' => ['F', 'F', 'I']
  | '\ufb04' => ['F', 'F', 'L']
  | '\ufb05' => ['S', 'T']
  | '\ufb06' => ['S', 'T']
  | c => [c.toUpper]

/-- The text with every character in upper case that has an upper case in ASCII letters. -/
def ofText (s : String) : String := String.ofList (s.toList.flatMap ofChar)

end UpperCase

end TableTalk
