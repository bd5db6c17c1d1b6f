/-!
# Double-precision numbers

A number with a significand of 53 bits, as an exact value: `finite s m q` is `± m * 2 ^ q`. Reading
a decimal rounds to the nearest such number, a tie to the one with the even significand
(`Binary64.ofDecimal`); the arithmetic is exact throughout, on natural numbers.
-/

namespace Gatehouse.Decimal

/-- A power of two. -/
def twoPow (n : Nat) : Nat := Nat.pow 2 n

/-- A power of ten. -/
def tenPow (n : Nat) : Nat := Nat.pow 10 n

/-- The least significand of 53 bits. -/
def minSignificand : Nat := 4503599627370496

/-- A double-precision number. -/
inductive Binary64 where
  | nan
  | infinite (negative : Bool)
  /-- The number `± mantissa * 2 ^ power`. -/
  | finite (negative : Bool) (mantissa : Nat) (power : Int)
  deriving DecidableEq, Repr, Inhabited

namespace Binary64

/-- The least power of two of a finite number. -/
def minPower : Int := -1074

/-- The greatest power of two of a finite number. -/
def maxPower : Int := 971

/-- The quotient rounded to the nearest integer, a tie to the even one. -/
def roundDiv (num den : Nat) : Nat :=
  let q := num / den
  let r := num % den
  if 2 * r < den then q else if den < 2 * r then q + 1 else q + q % 2

/-- The quotient `num / den` over `2 ^ power`, as a fraction of naturals. -/
def scaled (num den : Nat) (power : Int) : Nat × Nat :=
  if power < 0 then (num * twoPow power.natAbs, den) else (num, den * twoPow power.natAbs)

/-- The power of two for which a quotient has a significand of 53 bits, or the least power. -/
def powerFor (num den : Nat) : Int :=
  let guess : Int := (num.log2 : Int) - den.log2 - 52
  let guess := if guess < minPower then minPower else guess
  let (n, d) := scaled num den guess
  if guess > minPower ∧ n < d * minSignificand then guess - 1 else guess

/-- The number nearest to `± num / den`. -/
def ofQuotient (negative : Bool) (num den : Nat) : Binary64 :=
  if num = 0 then .finite negative 0 0
  else
    let power := powerFor num den
    let (n, d) := scaled num den power
    let m := roundDiv n d
    let (m, power) := if m = 2 * minSignificand then (minSignificand, power + 1) else (m, power)
    if power > maxPower then .infinite negative else .finite negative m power

/-- The number nearest to `± digits * 10 ^ exponent`. -/
def ofDecimal (negative : Bool) (digits : Nat) (exponent : Int) : Binary64 :=
  let size : Int := (Nat.toDigits 10 digits).length
  if digits = 0 then .finite negative 0 0
  else if size + exponent > 310 then .infinite negative
  else if size + exponent < -330 then .finite negative 0 0
  else if exponent < 0 then ofQuotient negative digits (tenPow exponent.natAbs)
  else ofQuotient negative (digits * tenPow exponent.natAbs) 1

/-- Whether the number is finite. -/
def isFinite : Binary64 → Bool
  | finite _ _ _ => true
  | _ => false

/-- Whether the number is zero, of either sign. -/
def isZero : Binary64 → Bool
  | finite _ m _ => m == 0
  | _ => false

/-- Whether the number has a minus sign. -/
def isNegative : Binary64 → Bool
  | finite negative _ _ | infinite negative => negative
  | nan => false

/-- The magnitude as a fraction of naturals. -/
def fraction (mantissa : Nat) (power : Int) : Nat × Nat :=
  scaled mantissa 1 (-power)

/-- The number nearest to the product of two finite numbers. -/
def mul : Binary64 → Binary64 → Binary64
  | finite s m q, finite t n r =>
    let (num, den) := fraction (m * n) (q + r)
    ofQuotient (s != t) num den
  | _, _ => nan

/-- The number nearest to the quotient of two finite numbers, the second of which is not zero. -/
def div : Binary64 → Binary64 → Binary64
  | finite s m q, finite t n r =>
    let (num, den) := fraction m q
    let (num', den') := fraction n r
    ofQuotient (s != t) (num * den') (den * num')
  | _, _ => nan

/-- The nearest integer to the magnitude, a half away from zero. -/
def roundMagnitude (mantissa : Nat) (power : Int) : Nat :=
  let (n, d) := fraction mantissa power
  (2 * n + d) / (2 * d)

/-- The nearest natural number below a bound: no number and all negative ones become zero, those
too great become the bound less one. -/
def toNatBelow (bound : Nat) : Binary64 → Nat
  | nan => 0
  | infinite negative => if negative then 0 else bound - 1
  | finite negative m q => if negative then 0 else min (roundMagnitude m q) (bound - 1)

end Binary64

end Gatehouse.Decimal
