import Gatehouse.Text.Ascii

/-!
# Addresses of hosts

The texts of the two kinds of Internet address. Of version 4: four numbers below 256 without leading
zeros. Of version 6: eight groups of up to four hexadecimal digits, where one run of groups may be
left out as `::` and the last two groups may be written as an address of version 4.
-/

namespace Gatehouse.Net

/-- A number below 256 of one to three digits without a leading zero, and the text after it. -/
def readOctet? (cs : List Char) : Option (List Char) :=
  let ds := cs.takeWhile Ascii.isDigit
  if ds = [] ∨ 3 < ds.length ∨ (ds.head? = some '0' ∧ 1 < ds.length) ∨
    255 < Ascii.decimalValue ds then none
  else some (cs.drop ds.length)

/-- The text after a mark. -/
def readMark? (c : Char) : List Char → Option (List Char)
  | d :: cs => if d = c then some cs else none
  | [] => none

/-- The text after an address of version 4. -/
def readAddress4? (cs : List Char) : Option (List Char) :=
  readOctet? cs >>= readMark? '.' >>= readOctet? >>= readMark? '.' >>= readOctet? >>=
    readMark? '.' >>= readOctet?

/-- The text after a group of one to four hexadecimal digits. -/
def readGroup? (cs : List Char) : Option (List Char) :=
  let ds := cs.takeWhile fun c => (Ascii.hexValue? c).isSome
  if ds = [] ∨ 4 < ds.length then none else some (cs.drop ds.length)

/-- The text after a colon, which stands before every group but the first. -/
def readSeparator? (first : Bool) (cs : List Char) : Option (List Char) :=
  if first then some cs else readMark? ':' cs

/-- What a run of groups is: how many, whether the last two are an address of version 4, and the
text after it. -/
structure Groups where
  count : Nat
  /-- Whether it ends with an address of version 4. -/
  ended : Bool
  rest : List Char

/-- Reads at most `limit` groups, as many as there are, after `count` others. -/
def readGroups : (limit : Nat) → (count : Nat) → List Char → Groups
  | 0, count, cs => ⟨count, false, cs⟩
  | limit + 1, count, cs =>
    match (if 0 < limit then readSeparator? (count = 0) cs >>= readAddress4? else none) with
    | some rest => ⟨count + 2, true, rest⟩
    | none =>
      match readSeparator? (count = 0) cs >>= readGroup? with
      | some rest => readGroups limit (count + 1) rest
      | none => ⟨count, false, cs⟩

/-- Whether a text is an address of version 6. -/
def isAddress6 (cs : List Char) : Bool :=
  let head := readGroups 8 0 cs
  if head.count = 8 then head.rest.isEmpty
  else if head.ended then false
  else
    match readMark? ':' head.rest >>= readMark? ':' with
    | none => false
    | some rest => (readGroups (7 - head.count) 0 rest).rest.isEmpty

/-- Whether a text is an address of either version. -/
def isHostAddress (cs : List Char) : Bool :=
  match readAddress4? cs with
  | some rest => rest.isEmpty
  | none => isAddress6 cs

end Gatehouse.Net
