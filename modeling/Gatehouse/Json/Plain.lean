import Gatehouse.Decimal.Shortest
import Gatehouse.Json.Reader

/-!
# Values of any shape

A text may be read as a value without asking for a shape. Then numbers are integers of 64 bits or
double-precision numbers, arrays and objects are nested less than 128 deep, and of the members of
an object that share a key the last one counts; members stand in the order of their keys
(`Json.plain?`). A value that cannot be read so breaks off at its end or inside it (`Json.fault?`).
-/

namespace Gatehouse.Json

/-- Arrays and objects are nested at most this deep in a value of any shape. -/
def maxDepth : Nat := 127

namespace Number

/-- The double-precision number nearest to what a spelling denotes. -/
def toBinary64 (n : Number) : Decimal.Binary64 :=
  .ofDecimal n.negative (n.fraction.foldl (fun v d => 10 * v + d.val) n.whole)
    (n.exponent.getD 0 - n.fraction.length)

/-- The greatest number of 64 bits. -/
def maxWord : Nat := 18446744073709551615

/-- The leading digits of a number as far as they fit 64 bits, and how many digits follow. -/
def leading (n : Nat) : Nat × Nat :=
  let extra := (Nat.toDigits 10 n).length - 20
  let top := n / Decimal.tenPow extra
  if top ≤ maxWord then (top, extra) else (top / 10, extra + 1)

/-- A significand with its power of ten, and digits of a fraction after it as far as it fits
64 bits. -/
def addFraction (significand : Nat) (power : Int) : List (Fin 10) → Nat × Int
  | [] => (significand, power)
  | d :: ds =>
    let next := 10 * significand + d.val
    if next ≤ maxWord then addFraction next (power - 1) ds else (significand, power)

/-- The greatest power of ten that is used in one step. -/
def maxTen : Nat := 308

/-- A number times a power of ten, step by step, with a rounding after each. The result of a
significand of 64 bits is zero after three steps down, if it is not reached before. -/
def scaleTen (x : Decimal.Binary64) (power : Int) : (steps : Nat) → Decimal.Binary64
  | 0 => x
  | steps + 1 =>
    if power.natAbs ≤ maxTen then
      let ten := .ofDecimal false 1 power.natAbs
      if 0 ≤ power then x.mul ten else x.div ten
    else if x.isZero then x
    else if 0 ≤ power then .infinite x.isNegative
    else scaleTen (x.div (.ofDecimal false 1 maxTen)) (power + maxTen) steps

/-- The double-precision number that is read from a spelling: a significand of 64 bits, from which
digits that do not fit are left out, is rounded and then scaled by its power of ten. -/
def read (n : Number) : Decimal.Binary64 :=
  let (top, extra) := leading n.whole
  let (significand, power) := addFraction top extra n.fraction
  scaleTen (.ofQuotient n.negative significand 1) (power + n.exponent.getD 0) 3

/-- The spelling in which a number is kept: an integer of 64 bits as it is, any other as the
shortest spelling of the double-precision number that is read. `none` if it is too great. -/
def normal? (n : Number) : Option Number :=
  match n.toInt?.filter fun i => -9223372036854775808 ≤ i ∧ i ≤ 18446744073709551615 with
  | some i => some (.ofInt i)
  | none =>
    let x := n.read
    if x.isFinite then (scanNumber? x.scientific.toList).map (·.1) else none

/-- The greatest power of ten whose digits are all read. -/
def maxPower : Int := 2147483647

/-- Where a number that is too great breaks off: after the digit of its power of ten that leads
beyond the greatest, or at its end. -/
def fault? (n : Number) : Option Fault :=
  if n.normal?.isSome then none
  else some (if maxPower < n.exponent.getD 0 / 10 then .inside else .atEnd)

end Number

/-- Puts a member in the place of its key, instead of one that has the same key. -/
def insertMember (k : String) (j : Json) :
    List (Option String × Json) → List (Option String × Json)
  | [] => [(some k, j)]
  | (key, old) :: ms =>
    let name := key.getD ""
    if k < name then (some k, j) :: (key, old) :: ms
    else if k = name then (some k, j) :: ms
    else (key, old) :: insertMember k j ms

mutual

/-- The value as it is kept, numbers and members normal. `none` if it holds a garbled string, a cut
or a number that is too great. -/
def normal? : Json → Option Json
  | .null => some .null
  | .bool b => some (.bool b)
  | .num n => n.normal?.map .num
  | .str s => some (.str s)
  | .arr items => (normalItems? items).map .arr
  | .obj members => (normalMembers? [] members).map .obj
  | .garbled _ | .cut => none

/-- The items as they are kept. -/
def normalItems? : List Json → Option (List Json)
  | [] => some []
  | j :: js => do
    let j ← normal? j
    let js ← normalItems? js
    return j :: js

/-- The members as they are kept, added to those before them. -/
def normalMembers? (sofar : List (Option String × Json)) :
    List (Option String × Json) → Option (List (Option String × Json))
  | [] => some sofar
  | (key, j) :: ms => do
    let k ← key
    let j ← normal? j
    normalMembers? (insertMember k j sofar) ms

end

mutual

/-- Where a value breaks off, if it cannot be read. An array or an object goes on to its end only
after a fault at the end of its last part. -/
def fault? : Json → Option Fault
  | .num n => n.fault?
  | .garbled fault => some fault
  | .cut => some .inside
  | .arr items => itemsFault? items
  | .obj members => membersFault? members
  | .null | .bool _ | .str _ => none

/-- Where the items of an array break off. -/
def itemsFault? : List Json → Option Fault
  | [] => none
  | j :: js =>
    match fault? j with
    | none => itemsFault? js
    | some fault => some (if js.isEmpty then fault else .inside)

/-- Where the members of an object break off. -/
def membersFault? : List (Option String × Json) → Option Fault
  | [] => none
  | (none, _) :: _ => some .inside
  | (some _, j) :: ms =>
    match fault? j with
    | none => membersFault? ms
    | some fault => some (if ms.isEmpty then fault else .inside)

end

/-- Reads a value of any shape from a text. -/
def plain? (s : String) : Option Json := do
  let j ← parse? s
  if j.depth ≤ maxDepth then normal? j else none

end Gatehouse.Json
