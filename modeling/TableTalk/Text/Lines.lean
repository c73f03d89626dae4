/-!
# Lines

A line ends at a line feed or at the end of the text.  What else counts as part of
the line end depends on where the line comes from: a stored text drops one carriage
return in front of the line feed, a line typed at a terminal drops every carriage
return and line feed at its end.

## Main definitions

* `segments` — a list cut behind every terminator, terminators kept.
* `takeSegment` — the first of those and what follows it.
* `lines` — the lines of a stored text.
* `dropLineEnd` — a typed line without its end.
-/

namespace TableTalk
namespace Text

/-- The list cut behind every element that satisfies `p`; each of them stays at the end of
its segment, and no segment is empty. -/
def segments {α : Type} (p : α → Bool) : List α → List (List α)
  | [] => []
  | a :: as =>
    if p a then [a] :: segments p as
    else match segments p as with
      | [] => [[a]]
      | s :: ss => (a :: s) :: ss

/-- The first segment of a list and the rest of the list. -/
def takeSegment {α : Type} (p : α → Bool) : List α → List α × List α
  | [] => ([], [])
  | a :: as =>
    if p a then ([a], as)
    else
      let (s, rest) := takeSegment p as
      (a :: s, rest)

theorem takeSegment_rest_lt {α : Type} (p : α → Bool) {as : List α} (h : as ≠ []) :
    (takeSegment p as).2.length < as.length := by
  induction as with
  | nil => exact absurd rfl h
  | cons a as ih =>
    unfold takeSegment
    split
    · simp
    · by_cases has : as = []
      · subst has; simp [takeSegment]
      · have := ih has
        simp only [List.length_cons]
        omega

/-- A segment of a stored text as a line: without its line feed, and without the carriage
return in front of the line feed. -/
def storedLine (segment : List Char) : List Char :=
  match segment.reverse with
  | '\n' :: '\r' :: rest => rest.reverse
  | '\n' :: rest => rest.reverse
  | _ => segment

/-- The lines of a stored text.  A line feed at the end opens no further line. -/
def lines (s : String) : List String :=
  (segments (· == '\n') s.toList).map fun segment => String.ofList (storedLine segment)

/-- A typed line without the carriage returns and line feeds at its end. -/
def dropLineEnd (s : String) : String :=
  let cs := s.toList.reverse.dropWhile fun c => c == '\r' || c == '\n'
  String.ofList cs.reverse

end Text
end TableTalk
