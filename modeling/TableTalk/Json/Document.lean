import TableTalk.Json.Basic
import TableTalk.Vocabulary

/-!
# Stored values

A type whose values are stored says how a value is written and which documents it is read
from.  A record is written as an object with all its fields in order.  It is read from an
object, in which each field may stand once and other members are passed over, or from an
array of exactly its fields.  A word of a vocabulary is written as its label and also read
from an object whose only member has the label as its key and nothing as its value.

## Main definitions

* `Stored` — writing and reading a type.
* `Stored.text`, `Stored.ofText?` — values as texts.
* `Json.fields?` — the fields of a record.
* `Json.word?` — a word of a vocabulary.
-/

namespace TableTalk

/-- A type whose values are stored as JSON. -/
class Stored (α : Type) where
  /-- The value as it is written. -/
  toJson : α → Json
  /-- The value read from a document. -/
  ofJson? : Json → Option α

/-- The value as a text without white space. -/
def Stored.text {α : Type} [Stored α] (a : α) : String := (Stored.toJson a).compact

/-- The value that a text stands for. -/
def Stored.ofText? {α : Type} [Stored α] (s : String) : Option α :=
  (Json.read? s).bind Stored.ofJson?

namespace Json

/-- The values of the members with the given key. -/
def membersAt (members : List (String × Json)) (key : String) : List Json :=
  members.filterMap fun (k, v) => if k == key then some v else none

/-- The fields of a record by name: `none` for a field that an object lacks.  An object may
not hold a field twice, and an array has to hold each of them. -/
def fields? (names : List String) : Json → Option (List (Option Json))
  | .object members => names.mapM fun name => match membersAt members name with
    | [] => some none
    | [value] => some (some value)
    | _ => none
  | .array items => if items.length == names.length then some (items.map some) else none
  | _ => none

/-- The natural number that a value is, if it is written in digits only and below the given
limit. -/
def natural? (limit : Nat) : Json → Option Nat
  | .number spelling => (Numeral.digits? spelling).filter (· < limit)
  | _ => none

/-- The text that a value is. -/
def string? : Json → Option String
  | .string s => some s
  | _ => none

/-- The truth value that a value is. -/
def bool? : Json → Option Bool
  | .bool b => some b
  | _ => none

/-- The list that a value is, each item read. -/
def list? {α : Type} (item? : Json → Option α) : Json → Option (List α)
  | .array items => items.mapM item?
  | _ => none

/-- The value that an optional field holds: a missing field and `null` hold none. -/
def optional? {α : Type} (value? : Json → Option α) : Option Json → Option (Option α)
  | none | some .null => some none
  | some j => (value? j).map some

/-- The word that a value is. -/
def word? {α : Type} [Vocabulary α] : Json → Option α
  | .string s => Vocabulary.ofLabel? s
  | .object [(key, .null)] => Vocabulary.ofLabel? key
  | _ => none

end Json

/-- Words are stored under their labels. -/
instance Vocabulary.stored {α : Type} [Vocabulary α] : Stored α where
  toJson a := .string (Vocabulary.label a)
  ofJson? := Json.word?

end TableTalk
