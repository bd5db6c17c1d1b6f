/-!
# Texts in parts

A text is split at every occurrence of a mark (`splitOn`), and parts are put together with a mark
between them (`joinWith`).
-/

namespace Gatehouse.Text

/-- The parts of a text between the occurrences of a mark. -/
def splitOn (mark : Char) : List Char → List (List Char)
  | [] => [[]]
  | c :: cs =>
    if c = mark then [] :: splitOn mark cs
    else
      match splitOn mark cs with
      | [] => [[c]]
      | part :: parts => (c :: part) :: parts

/-- The number of characters in front of the last occurrence of a character. -/
def lastPosition? (c : Char) (cs : List Char) : Option Nat :=
  match cs.reverse.dropWhile (· ≠ c) with
  | [] => none
  | _ :: front => some front.length

/-- Parts with a mark between them. -/
def joinWith (mark : Char) : List (List Char) → List Char
  | [] => []
  | [part] => part
  | part :: other :: parts => part ++ mark :: joinWith mark (other :: parts)

end Gatehouse.Text
