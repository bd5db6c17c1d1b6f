import Gatehouse.Text.Ascii

/-!
# Integers in decimal digits

An integer of 64 bits is spelled by an optional sign and decimal digits, of which there is at least
one (`readInt64?`).
-/

namespace Gatehouse.Decimal

/-- A sign in front of a number, and the text after it. -/
def takeSign : List Char → Bool × List Char
  | '+' :: cs => (false, cs)
  | '-' :: cs => (true, cs)
  | cs => (false, cs)

/-- Whether an integer fits in 64 bits with a sign. -/
def isInt64 (i : Int) : Bool :=
  -9223372036854775808 ≤ i && i ≤ 9223372036854775807

/-- A signed integer of 64 bits in decimal digits. -/
def readInt64? (cs : List Char) : Option Int :=
  let (negative, ds) := takeSign cs
  let i : Int := if negative then -(Ascii.decimalValue ds) else Ascii.decimalValue ds
  if ds ≠ [] ∧ ds.all Ascii.isDigit ∧ isInt64 i then some i else none

end Gatehouse.Decimal
