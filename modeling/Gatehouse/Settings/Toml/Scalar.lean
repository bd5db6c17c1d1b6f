import Gatehouse.Settings.Variables
import Gatehouse.Time.Calendar

/-!
# Numbers, dates and truth values of a document

A value without quotes and brackets is a truth value, an integer of 64 bits, a double-precision
number, or a date, a time or both, which stay texts in their canonical spelling (`bareValue?`).
-/

namespace Gatehouse.Settings

namespace Toml

/-! ## Numbers -/

/-- The digits of a number, in which single underscores may stand between digits. -/
def plainDigits? (isDigit : Char → Bool) : List Char → Option (List Char)
  | [] => none
  | [c] => if isDigit c then some [c] else none
  | c :: '_' :: cs => if isDigit c then (plainDigits? isDigit cs).map (c :: ·) else none
  | c :: cs => if isDigit c then (plainDigits? isDigit cs).map (c :: ·) else none

/-- The decimal digits of a number: more than one digit begin with none that is zero. -/
def wholeDigits? (cs : List Char) : Option (List Char) :=
  (plainDigits? Ascii.isDigit cs).filter fun ds => ds.length = 1 ∨ ds.head? ≠ some '0'

/-- The number of digits of a base. -/
def baseNumber? (base : Nat) (cs : List Char) : Option Nat := do
  let ds ← plainDigits? (fun c => (Ascii.hexValue? c).any (·.val < base)) cs
  let vs ← ds.mapM Ascii.hexValue?
  return vs.foldl (fun n d => base * n + d.val) 0

/-- An integer of 64 bits. -/
def readInt? (cs : List Char) : Option Int :=
  let magnitude := match cs with
    | '0' :: 'x' :: ds => (baseNumber? 16 ds).map Int.ofNat
    | '0' :: 'o' :: ds => (baseNumber? 8 ds).map Int.ofNat
    | '0' :: 'b' :: ds => (baseNumber? 2 ds).map Int.ofNat
    | cs =>
      let (negative, ds) := Decimal.takeSign cs
      (wholeDigits? ds).map fun ds =>
        if negative then -(Ascii.decimalValue ds : Int) else Ascii.decimalValue ds
  magnitude.filter Decimal.isInt64

/-- A digit, or an underscore between digits. -/
def isDigitPart (c : Char) : Bool :=
  Ascii.isDigit c || c == '_'

/-- The digits after the point, if there is a point; then there is a digit. -/
def readDecimals? : List Char → Option (List Char × List Char)
  | '.' :: cs =>
    (plainDigits? Ascii.isDigit (cs.takeWhile isDigitPart)).map (·, cs.dropWhile isDigitPart)
  | cs => some ([], cs)

/-- The power of ten that the whole text is, if there is any text. -/
def readPowerPart? : List Char → Option (Option Int)
  | [] => some none
  | c :: cs =>
    let (negative, ds) := Decimal.takeSign cs
    if c = 'e' ∨ c = 'E' then
      (plainDigits? Ascii.isDigit ds).map fun ds =>
        some (if negative then -(Ascii.decimalValue ds : Int) else Ascii.decimalValue ds)
    else none

/-- A double-precision number: a fraction or a power of ten makes it one, and so do `inf` and
`nan`. -/
def readFloat? (cs : List Char) : Option Decimal.Binary64 :=
  let (negative, cs) := Decimal.takeSign cs
  if cs = ['i', 'n', 'f'] then some (.infinite negative)
  else if cs = ['n', 'a', 'n'] then some .nan
  else do
    let whole ← wholeDigits? (cs.takeWhile isDigitPart)
    let (fraction, rest) ← readDecimals? (cs.dropWhile isDigitPart)
    let power ← readPowerPart? rest
    let x := Decimal.Binary64.ofDecimal negative (Ascii.decimalValue (whole ++ fraction))
      (power.getD 0 - fraction.length)
    if (fraction = [] ∧ power = none) ∨ ¬x.isFinite then none else some x

/-! ## Dates and times -/

/-- Exactly `width` digits in front of a text. -/
def fixedDigits? (width : Nat) (cs : List Char) : Option (Nat × List Char) :=
  let ds := cs.take width
  if ds.length = width ∧ ds.all Ascii.isDigit then some (Ascii.decimalValue ds, cs.drop width)
  else none

/-- The text after a mark. -/
def mark? (c : Char) : List Char → Option (List Char)
  | d :: cs => if c = d then some cs else none
  | [] => none

/-- A date, and the text after it. -/
def scanDate? (cs : List Char) : Option (List Char × List Char) := do
  let (year, rest) ← fixedDigits? 4 cs
  let (month, rest) ← mark? '-' rest >>= fixedDigits? 2
  let (day, rest) ← mark? '-' rest >>= fixedDigits? 2
  if 1 ≤ month ∧ month ≤ 12 ∧ 1 ≤ day ∧ day ≤ Time.daysInMonth year month then
    some (cs.take 10, rest)
  else none

/-- The fraction of a second as it is kept: up to nine digits, without zeros at the end; one zero if
there are no others. -/
def fractionText (ds : List Char) : List Char :=
  match ((ds.take 9).reverse.dropWhile (· == '0')).reverse with
  | [] => ['.', '0']
  | kept => '.' :: kept

/-- A time of day, and the text after it; the seconds may be missing. -/
def scanTime? (cs : List Char) : Option (List Char × List Char) := do
  let (hour, rest) ← fixedDigits? 2 cs
  let (minute, rest) ← mark? ':' rest >>= fixedDigits? 2
  if 23 < hour ∨ 59 < minute then none
  else
    match rest with
    | ':' :: rest => do
      let (second, rest) ← fixedDigits? 2 rest
      if 60 < second then none
      else
        match rest with
        | '.' :: rest =>
          match rest.takeWhile Ascii.isDigit with
          | [] => none
          | ds => some (cs.take 8 ++ fractionText ds, rest.drop ds.length)
        | rest => some (cs.take 8, rest)
    | rest => some (cs.take 5, rest)

/-- An offset from UTC, which the whole text is; none for no text. An offset of no minutes has a
plus sign. -/
def readOffset? (cs : List Char) : Option (List Char) :=
  match cs with
  | [] => some []
  | ['Z'] | ['z'] => some ['Z']
  | sign :: rest =>
    if sign = '+' ∨ sign = '-' then do
      let (hour, after) ← fixedDigits? 2 rest
      let (minute, after) ← mark? ':' after >>= fixedDigits? 2
      if hour ≤ 23 ∧ minute ≤ 59 ∧ after = [] then
        some ((if hour = 0 ∧ minute = 0 then '+' else sign) :: rest)
      else none
    else none

/-- The text of a date, a time, or both with or without an offset. -/
def readMoment? (cs : List Char) : Option String :=
  match scanDate? cs with
  | some (date, []) => some (String.ofList date)
  | some (date, c :: rest) =>
    if c = 'T' ∨ c = 't' ∨ c = ' ' then do
      let (time, rest) ← scanTime? rest
      let offset ← readOffset? rest
      return String.ofList (date ++ 'T' :: time ++ offset)
    else none
  | none => do
    let (time, rest) ← scanTime? cs
    if rest = [] then some (String.ofList time) else none

/-! ## Values without quotes -/

/-- A character that a value without quotes or brackets is made of. -/
def isBare (c : Char) : Bool :=
  Ascii.isAlphanumeric c || c == '_' || c == '-' || c == '+' || c == '.' || c == ':'

/-- The characters of a bare value; a blank between a date and a time is one of them. -/
def takeBare (cs : List Char) : List Char :=
  let word := cs.takeWhile isBare
  match (scanDate? word).filter (·.2 = []), cs.drop word.length with
  | some _, ' ' :: c :: rest =>
    if Ascii.isDigit c then word ++ ' ' :: (c :: rest).takeWhile isBare else word
  | _, _ => word

/-- The value that bare characters spell. -/
def bareValue? (cs : List Char) : Option Value :=
  if cs = "true".toList then some (.flag true)
  else if cs = "false".toList then some (.flag false)
  else
    match readInt? cs with
    | some i => some (.int i)
    | none =>
      match readFloat? cs with
      | some x => some (.real x)
      | none => (readMoment? cs).map .text

end Toml

end Gatehouse.Settings
