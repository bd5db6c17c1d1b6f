import Gatehouse.Text.Ascii

/-!
# JSON values

The tree of a JSON text. Besides the six kinds of value it holds two marks that only reading makes:
`garbled`, a string literal that denotes no text, which may stand where a value is skipped, and
`cut`, the place where a text stops being JSON. A value without either is what a program writes.
-/

namespace Gatehouse

namespace Json

/-- A number as it is spelled. The fraction is empty when there is no point. -/
structure Number where
  negative : Bool
  whole : Nat
  fraction : List (Fin 10)
  /-- The power of ten after `e`. -/
  exponent : Option Int
  deriving DecidableEq, Repr, Inhabited

namespace Number

/-- The spelling of an integer. -/
def ofInt (i : Int) : Number := ⟨i < 0, i.natAbs, [], none⟩

/-- The integer that a number spells. A point or a power of ten makes it no integer, and so does a
minus sign before zero. -/
def toInt? (n : Number) : Option Int :=
  if n.fraction = [] ∧ n.exponent = none ∧ ¬(n.negative ∧ n.whole = 0) then
    some (if n.negative then -n.whole else n.whole)
  else none

@[simp] theorem toInt?_ofInt (i : Int) : (ofInt i).toInt? = some i := by
  by_cases h : i < 0
  · have hne : i.natAbs ≠ 0 := by omega
    have hi : -(i.natAbs : Int) = i := by omega
    simp only [toInt?, ofInt, h, hne, hi, and_false, not_false_eq_true, and_self, if_true,
      decide_true]
  · have hi : (i.natAbs : Int) = i := by omega
    simp only [toInt?, ofInt, h, hi, decide_false, Bool.false_eq_true, false_and,
      not_false_eq_true, and_self, if_true, if_false]

end Number

/-- Where it shows that a value cannot be read. -/
inductive Fault where
  /-- At its end: what follows it can still be read. -/
  | atEnd
  /-- Inside it: the rest of it stands where something else should follow. -/
  | inside
  deriving DecidableEq, Repr, Inhabited

end Json

/-- The tree of a JSON text. -/
inductive Json where
  /-- `null`. -/
  | null
  /-- `true` or `false`. -/
  | bool (b : Bool)
  | num (n : Json.Number)
  | str (s : String)
  /-- A string literal with an unpaired surrogate, or with octets that are no text. -/
  | garbled (fault : Json.Fault)
  | arr (items : List Json)
  /-- An object: its members in order, repeated keys included. A key is missing when its literal is
  garbled or cut. -/
  | obj (members : List (Option String × Json))
  /-- Here the text stops being JSON. -/
  | cut
  deriving Repr, Inhabited

namespace Json

/-- An integer value. -/
def int (i : Int) : Json := .num (.ofInt i)

/-- A non-negative integer value. -/
def nat (n : Nat) : Json := .int n

/-- An object with the given members. -/
def record (members : List (String × Json)) : Json :=
  .obj (members.map fun (k, v) => (some k, v))

mutual

/-- No place inside is cut. -/
def isWhole : Json → Bool
  | .arr items => itemsWhole items
  | .obj members => membersWhole members
  | .cut => false
  | .null | .bool _ | .num _ | .str _ | .garbled _ => true

/-- No item is cut. -/
def itemsWhole : List Json → Bool
  | [] => true
  | j :: js => isWhole j && itemsWhole js

/-- No member is cut. -/
def membersWhole : List (Option String × Json) → Bool
  | [] => true
  | (_, j) :: ms => isWhole j && membersWhole ms

end

mutual

/-- Nothing inside is cut or garbled: what a program can write. -/
def isClean : Json → Bool
  | .arr items => itemsClean items
  | .obj members => membersClean members
  | .cut | .garbled _ => false
  | .null | .bool _ | .num _ | .str _ => true

/-- Every item is clean. -/
def itemsClean : List Json → Bool
  | [] => true
  | j :: js => isClean j && itemsClean js

/-- Every member is clean and has a key. -/
def membersClean : List (Option String × Json) → Bool
  | [] => true
  | (k, j) :: ms => k.isSome && isClean j && membersClean ms

end

mutual

/-- How deep arrays and objects are nested. -/
def depth : Json → Nat
  | .arr items => itemsDepth items + 1
  | .obj members => membersDepth members + 1
  | .null | .bool _ | .num _ | .str _ | .garbled _ | .cut => 0

/-- The depth of the deepest item. -/
def itemsDepth : List Json → Nat
  | [] => 0
  | j :: js => max (depth j) (itemsDepth js)

/-- The depth of the deepest member. -/
def membersDepth : List (Option String × Json) → Nat
  | [] => 0
  | (_, j) :: ms => max (depth j) (membersDepth ms)

end

end Json

end Gatehouse
