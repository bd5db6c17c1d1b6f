import Gatehouse.Text.Ascii
import Gatehouse.Text.Split

/-!
# Tables of code points

A table says for runs of code points, in rising order, what their characters have in common;
`Table.find?` finds the run of a code point. Tables are written as lines of items, an item as
`first-last=value` with both numbers in hexadecimal digits, where `-last` is left out for a single
code point and `=value` where nothing but the run counts.
-/

namespace Gatehouse.Unicode

/-- A run of code points with what their characters have in common. -/
structure Run (α : Type) where
  first : Nat
  last : Nat
  /-- What the characters have in common. -/
  value : α
  deriving Repr

/-- Runs of code points, apart from each other and in rising order. -/
abbrev Table (α : Type) := Array (Run α)

namespace Table

variable {α : Type}

/-- The run of a code point among those with the numbers from `low` to below `high`. -/
def findBetween? (t : Table α) (n low high : Nat) : Option (Run α) :=
  if _h : low < high then
    let middle := (low + high) / 2
    match t[middle]? with
    | none => none
    | some run =>
      if n < run.first then t.findBetween? n low middle
      else if run.last < n then t.findBetween? n (middle + 1) high
      else some run
  else none
termination_by high - low
decreasing_by all_goals omega

/-- The run of a code point. -/
def find? (t : Table α) (n : Nat) : Option (Run α) :=
  t.findBetween? n 0 t.size

/-- What a table says of a character. -/
def value? (t : Table α) (c : Char) : Option α :=
  (t.find? c.toNat).map (·.value)

/-- Whether a character is in a table. -/
def contains (t : Table α) (c : Char) : Bool :=
  (t.find? c.toNat).isSome

end Table

/-- The number of hexadecimal digits; other characters count as zero. -/
def hexNumber (cs : List Char) : Nat :=
  cs.foldl (fun n c => 16 * n + ((Ascii.hexValue? c).map Fin.val).getD 0) 0

/-- The code points of a list in which commas stand between them. -/
def codePoints (cs : List Char) : List Nat :=
  if cs = [] then [] else (Text.splitOn ',' cs).map hexNumber

/-- Reads an item of a table. -/
def Run.ofItem {α : Type} (value : List Char → α) (item : List Char) : Run α :=
  let span := item.takeWhile (· ≠ '=')
  let first := span.takeWhile (· ≠ '-')
  let last := span.drop (first.length + 1)
  ⟨hexNumber first, hexNumber (if last = [] then first else last),
    value (item.drop (span.length + 1))⟩

/-- Reads a table of lines, with a reader for the values. -/
def Table.ofLines {α : Type} (value : List Char → α) (lines : List String) : Table α :=
  ((lines.flatMap fun line => Text.splitOn ' ' line.toList).map (Run.ofItem value)).toArray

end Gatehouse.Unicode
