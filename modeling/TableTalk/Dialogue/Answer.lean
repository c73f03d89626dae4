import TableTalk.Json.Document
import TableTalk.Text.Blank
import TableTalk.Text.Numeral

/-!
# Answers

An answer to a round with options names one of them, by its label or by its number from
zero.  A label counts before a number, so an option whose label is a number is reached by
its label.  An answer to a round without options is any text that is not blank.

## Main definitions

* `Invalid` — why an answer is refused.
* `Matching` — whether labels count or numbers only.
* `Choice`, `choose` — the choice that an answer makes among options.
* `freeText` — the text that an answer gives.
-/

namespace TableTalk

/-- Why an answer is refused. -/
inductive Invalid where
  /-- It is blank where a value is required. -/
  | empty
  /-- It is no number where only numbers count. -/
  | notNumber
  /-- It is a number and no option has it. -/
  | outOfRange
  /-- It is neither a label nor a number. -/
  | notOffered
  deriving Repr, DecidableEq

instance : Vocabulary Invalid where
  members := [.empty, .notNumber, .outOfRange, .notOffered]
  label
    | .empty => "Empty"
    | .notNumber => "NonInteger"
    | .outOfRange => "OutOfRange"
    | .notOffered => "NotInOptions"

/-- The sentence that reports why an answer is refused. -/
def Invalid.message : Invalid → String
  | .empty => "an answer is required"
  | .notNumber => "the answer must be an option number"
  | .outOfRange => "the option number is out of range"
  | .notOffered => "the answer matches none of the options"

/-- How answers are matched against options. -/
inductive Matching where
  /-- By label or by number. -/
  | labelOrIndex
  /-- By number only. -/
  | indexOnly
  deriving Repr, DecidableEq

instance : Vocabulary Matching where
  members := [.labelOrIndex, .indexOnly]
  label
    | .labelOrIndex => "LabelOrIndex"
    | .indexOnly => "IndexOnly"

/-- The choice that an answer makes. -/
inductive Choice where
  /-- To stop. -/
  | stop
  /-- One of the options. -/
  | option (index : Nat) (label : String)
  deriving Repr, DecidableEq

/-- The label of the option that is chosen, if one is. -/
def Choice.label? : Choice → Option String
  | .stop => none
  | .option _ label => some label

/-- The position of the option that a trimmed answer names by its label. -/
def labelIndex? (matching : Matching) (options : List String) (answer : String) : Option Nat :=
  match matching with
  | .labelOrIndex => options.findIdx? (· == answer)
  | .indexOnly => none

/-- The option with the given number. -/
def optionAt (options : List String) (number : Int) : Except Invalid Choice :=
  if number < 0 then .error .outOfRange
  else match options[number.toNat]? with
    | some label => .ok (.option number.toNat label)
    | none => .error .outOfRange

/-- Why a text that is neither a label nor a number is refused. -/
def Matching.refusal : Matching → Invalid
  | .labelOrIndex => .notOffered
  | .indexOnly => .notNumber

/-- The choice that an answer makes among options.  A blank answer stops, where that is
allowed. -/
def choose (answer : String) (options : List String) (matching : Matching) (allowStop : Bool) :
    Except Invalid Choice :=
  let answer := Text.trim answer
  if answer.isEmpty then if allowStop then .ok .stop else .error .empty
  else match labelIndex? matching options answer with
    | some i => .ok (.option i ((options[i]?).getD answer))
    | none => match Numeral.integer? answer with
      | some number => optionAt options number
      | none => .error matching.refusal

/-- The text that an answer gives. -/
def freeText (answer : String) : Except Invalid String :=
  let answer := Text.trim answer
  if answer.isEmpty then .error .empty else .ok answer

end TableTalk
