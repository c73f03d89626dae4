/-!
# White space

Answers, cells, column names and labels are compared after the white space around
them has been removed.  White space is the Unicode property `White_Space`, so the
no-break space and the ideographic space count, and the zero-width space and the
byte-order mark do not.

## Main definitions

* `isBlankChar` — the property.
* `stripWhile` — a list without its longest run of unwanted elements at either end.
* `trim`, `isBlank`, `collapse` — removing it around a text, testing for nothing
  else, and reducing every run of it to one space.
* `stripMarks` — removing byte-order marks around a text.
-/

namespace TableTalk
namespace Text

/-- The characters with the Unicode property `White_Space`. -/
def isBlankChar (c : Char) : Bool :=
  let n := c.toNat
  (9 ≤ n && n ≤ 13) || n == 0x20 || n == 0x85 || n == 0xA0 || n == 0x1680 ||
    (0x2000 ≤ n && n ≤ 0x200A) || n == 0x2028 || n == 0x2029 || n == 0x202F ||
    n == 0x205F || n == 0x3000

/-- The byte-order mark, which is no white space. -/
def byteOrderMark : Char := '\ufeff'

/-! ### Removing the ends of a list -/

/-- The list without the longest run at its end that satisfies `p`. -/
def dropEndWhile {α : Type} (p : α → Bool) (as : List α) : List α :=
  (as.reverse.dropWhile p).reverse

/-- The list without the longest runs at its two ends that satisfy `p`. -/
def stripWhile {α : Type} (p : α → Bool) (as : List α) : List α :=
  dropEndWhile p (as.dropWhile p)

/-- Pieces of a list between the elements that satisfy `p`, which are dropped.  There is
always one piece more than such elements. -/
def cutAt {α : Type} (p : α → Bool) : List α → List (List α)
  | [] => [[]]
  | a :: as => if p a then [] :: cutAt p as else (cutAt p as).modifyHead (a :: ·)

theorem cutAt_ne_nil {α : Type} (p : α → Bool) (as : List α) : cutAt p as ≠ [] := by
  induction as with
  | nil => simp [cutAt]
  | cons a as ih =>
    unfold cutAt
    split
    · simp
    · simpa [List.modifyHead_eq_nil_iff] using ih

/-! ### White space around and inside a text -/

/-- The text without the white space around it. -/
def trim (s : String) : String := String.ofList (stripWhile isBlankChar s.toList)

/-- Whether the text holds nothing but white space. -/
def isBlank (s : String) : Bool := s.toList.all isBlankChar

/-- The text without the byte-order marks around it. -/
def stripMarks (s : String) : String := String.ofList (stripWhile (· == byteOrderMark) s.toList)

/-- The words of a text: its longest stretches without white space. -/
def words (s : String) : List String :=
  ((cutAt isBlankChar s.toList).filter (fun w => !w.isEmpty)).map String.ofList

/-- The words of the text, one space between two of them. -/
def collapse (s : String) : String := " ".intercalate (words s)

@[simp] theorem toList_trim (s : String) :
    (trim s).toList = stripWhile isBlankChar s.toList := by
  simp [trim]

/-- The pieces of a text between commas. -/
def commaPieces (s : String) : List String := (cutAt (· == ',') s.toList).map String.ofList

end Text
end TableTalk
