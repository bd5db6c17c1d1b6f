import Gatehouse.Decimal.Binary64

/-!
# The shortest decimal of a double-precision number

`shortest tie m q` is the decimal with the fewest digits that reads back as `m * 2 ^ q`, and of
those the nearest; `tie` says which one if two are equally near. Two spellings of it are in use:
`positional`, which never has an exponent, and `scientific`, which has one outside a middle range
and always shows that it is no integer.
-/

namespace Gatehouse.Decimal

/-- Significant digits with a power of ten: the decimal `digits * 10 ^ exponent`. -/
structure Digits where
  /-- The significant digits as a number. -/
  digits : Nat
  exponent : Int
  deriving DecidableEq, Repr

/-- Which of two decimals that are equally near is taken. -/
inductive Tie where
  /-- The one with the even last digit. -/
  | toEven
  | upward
  deriving DecidableEq, Repr

/-- Of `d` and `d + 1` the one that a tie goes to. -/
def Tie.choose (d : Nat) : Tie → Nat
  | toEven => d + d % 2
  | upward => d + 1

/-- The numbers that round to `m * 2 ^ q` lie between two bounds, given here in units of
`2 ^ (q - 2)`; the lower half-gap is smaller where the significand is the least of its power. -/
def bounds (m : Nat) (q : Int) : Nat × Nat :=
  (if m = minSignificand ∧ q > Binary64.minPower then 4 * m - 1 else 4 * m - 2, 4 * m + 2)

/-- `a * 2 ^ q` compared with `b * 10 ^ e`, by cross multiplication in naturals. -/
def compareScaled (a : Nat) (q : Int) (b : Nat) (e : Int) : Ordering :=
  let left := a * twoPow q.toNat * tenPow (-e).toNat
  let right := b * tenPow e.toNat * twoPow (-q).toNat
  compare left right

/-- Whether `d * 10 ^ e` rounds to `m * 2 ^ q`: between the bounds, which count if `m` is even. -/
def readsBack (m : Nat) (q : Int) (d : Nat) (e : Int) : Bool :=
  let (low, high) := bounds m q
  let below := compareScaled low (q - 2) d e
  let above := compareScaled high (q - 2) d e
  if m % 2 = 0 then below != .gt && above != .lt else below == .lt && above == .gt

/-- The whole part of `m * 2 ^ q / 10 ^ e`. -/
def wholePart (m : Nat) (q e : Int) : Nat :=
  (m * twoPow q.toNat * tenPow (-e).toNat) / (tenPow e.toNat * twoPow (-q).toNat)

/-- Of the two neighbours of `m * 2 ^ q` on the grid of `10 ^ e`, the nearest that reads back. -/
def onGrid? (tie : Tie) (m : Nat) (q e : Int) : Option Nat :=
  let d := wholePart m q e
  let low := readsBack m q d e && d != 0
  let high := readsBack m q (d + 1) e
  match low, high with
  | false, false => none
  | true, false => some d
  | false, true => some (d + 1)
  | true, true =>
    match compareScaled (2 * m) q (2 * d + 1) e with
    | .lt => some d
    | .gt => some (d + 1)
    | .eq => some (tie.choose d)

/-- The number of decimal digits before the point of `m * 2 ^ q`, less one; negative for numbers
below one. -/
def decimalOrder (m : Nat) (q : Int) : Int :=
  if 0 ≤ q then (Nat.toDigits 10 (m * twoPow q.toNat)).length - 1
  else
    let den := twoPow (-q).toNat
    if den ≤ m then (Nat.toDigits 10 (m / den)).length - 1
    else
      let k := (Nat.toDigits 10 (den / m)).length
      if m * tenPow (k - 1) ≥ den then -((k : Int) - 1) else -(k : Int)

/-- The first grid, from coarse to fine, that holds a number that reads back. -/
def searchGrids (tie : Tie) (m : Nat) (q order : Int) : (tries : Nat) → (places : Nat) → Digits
  | 0, _ => ⟨m, q⟩
  | tries + 1, places =>
    let e := order + 1 - places
    match onGrid? tie m q e with
    | some d => ⟨d, e⟩
    | none => searchGrids tie m q order tries (places + 1)

/-- A decimal without zeros at its end. -/
def stripZeros : (tries : Nat) → Digits → Digits
  | 0, d => d
  | tries + 1, d =>
    if d.digits ≠ 0 ∧ d.digits % 10 = 0 then stripZeros tries ⟨d.digits / 10, d.exponent + 1⟩ else d

/-- The shortest decimal that reads back as `m * 2 ^ q`. -/
def shortest (tie : Tie) (m : Nat) (q : Int) : Digits :=
  if m = 0 then ⟨0, 0⟩ else stripZeros 20 (searchGrids tie m q (decimalOrder m q) 18 1)

/-- Digits with a point so that `exponent` of them stand after it, or zeros in their place. -/
def pointed (d : Digits) : String :=
  let ds := Nat.toDigits 10 d.digits
  if 0 ≤ d.exponent then String.ofList (ds ++ List.replicate d.exponent.toNat '0')
  else
    let places := d.exponent.natAbs
    let ds := List.replicate (places + 1 - ds.length) '0' ++ ds
    String.ofList (ds.take (ds.length - places)) ++ "." ++
      String.ofList (ds.drop (ds.length - places))

namespace Binary64

/-- The spelling without an exponent; an integer has no point, and a tie goes upward. -/
def positional : Binary64 → String
  | nan => "NaN"
  | infinite negative => if negative then "-inf" else "inf"
  | finite negative m q => (if negative then "-" else "") ++ pointed (shortest .upward m q)

/-- The spelling of a JSON number: with a signed exponent below `10 ^ -5` and from `10 ^ 16` on, and
with `.0` if it is an integer without exponent; a tie goes to the even digit. A number that is not
finite has none. -/
def scientific : Binary64 → String
  | finite negative m q =>
    let d := shortest .toEven m q
    let ds := Nat.toDigits 10 d.digits
    let order := d.exponent + ds.length
    let magnitude :=
      if m = 0 then "0.0"
      else if 0 ≤ d.exponent ∧ order ≤ 16 then pointed d ++ ".0"
      else if 0 < order ∧ order ≤ 16 ∨ -5 < order ∧ order ≤ 0 then pointed d
      else
        let tail := ds.drop 1
        String.ofList (ds.take 1) ++
          (if tail = [] then "" else "." ++ String.ofList tail) ++
          (if 0 < order then "e+" else "e") ++ toString (order - 1)
    (if negative then "-" else "") ++ magnitude
  | _ => "null"

end Binary64

end Gatehouse.Decimal
