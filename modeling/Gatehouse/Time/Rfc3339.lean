import Gatehouse.Text.Ascii
import Gatehouse.Time.Instant

/-!
# Date-times as text

Instants are written as date, `T`, time of day and `Z`, with the fewest of no, three, six or nine
digits of fraction that are exact. Reading follows RFC 3339 with some freedom: numbers may have
fewer digits, blanks may stand around the parts, a space may replace the `T`, and the offset may
lack its colon or be `UTC`.
-/

namespace Gatehouse.Time

/-- Decimal digits, filled with zeros on the left. -/
def padded (width n : Nat) : List Char :=
  let ds := Nat.toDigits 10 n
  List.replicate (width - ds.length) '0' ++ ds

/-- A year: four digits from 0 to 9999, else a sign and at least four digits. -/
def yearChars (y : Int) : List Char :=
  if 0 ≤ y ∧ y ≤ 9999 then padded 4 y.toNat
  else (if y < 0 then '-' else '+') :: padded 4 y.natAbs

/-- The fraction of a second with its point, empty for none. -/
def fractionChars (nanos : Nat) : List Char :=
  if nanos = 0 then []
  else if nanos % 1000000 = 0 then '.' :: padded 3 (nanos / 1000000)
  else if nanos % 1000 = 0 then '.' :: padded 6 (nanos / 1000)
  else '.' :: padded 9 nanos

namespace Instant

/-- The date-time of an instant, in UTC. -/
def chars (t : Instant) : List Char :=
  let date := civil (t.seconds / secondsPerDay)
  let time := t.secondOfDay.toNat
  let leap := nanosPerSecond ≤ t.nanos
  let second := time % 60 + (if leap then 1 else 0)
  let nanos := if leap then t.nanos - nanosPerSecond else t.nanos
  yearChars date.year ++ '-' :: padded 2 date.month ++ '-' :: padded 2 date.day ++
    'T' :: padded 2 (time / 3600) ++ ':' :: padded 2 (time / 60 % 60) ++ ':' :: padded 2 second ++
    fractionChars nanos ++ ['Z']

/-- The date-time of an instant, in UTC. -/
def text (t : Instant) : String :=
  String.ofList t.chars

end Instant

/-! ## Reading -/

/-- The text after leading blanks. -/
def skipBlank (cs : List Char) : List Char :=
  cs.dropWhile Ascii.isBlank

/-- A number of one up to `width` digits. -/
def readNumber? (width : Nat) (cs : List Char) : Option (Nat × List Char) :=
  match (cs.take width).takeWhile Ascii.isDigit with
  | [] => none
  | ds => some (Ascii.decimalValue ds, cs.drop ds.length)

/-- A number of any number of digits. -/
def readLong? (cs : List Char) : Option (Nat × List Char) :=
  readNumber? cs.length cs

/-- A year: after a sign any number of digits, else up to four. -/
def readYear? (cs : List Char) : Option (Int × List Char) :=
  match skipBlank cs with
  | '-' :: cs => (readLong? cs).map fun (n, cs) => (-(n : Int), cs)
  | '+' :: cs => (readLong? cs).map fun (n, cs) => ((n : Int), cs)
  | cs => (readNumber? 4 cs).map fun (n, cs) => ((n : Int), cs)

/-- A number of up to two digits after blanks, within bounds. -/
def readPart? (low high : Nat) (cs : List Char) : Option (Nat × List Char) :=
  (readNumber? 2 (skipBlank cs)).filter fun (n, _) => low ≤ n ∧ n ≤ high

/-- A mark after blanks. -/
def readMark? (mark : Char) (cs : List Char) : Option (List Char) :=
  match skipBlank cs with
  | c :: cs => if c = mark then some cs else none
  | [] => none

/-- The nanoseconds of a fraction, of which digits past the ninth are ignored; zero without a
point. -/
def readFraction? : List Char → Option (Nat × List Char)
  | '.' :: cs =>
    match cs.takeWhile Ascii.isDigit with
    | [] => none
    | ds =>
      let kept := ds.take 9
      some (Ascii.decimalValue kept * Nat.pow 10 (9 - kept.length), cs.drop ds.length)
  | cs => some (0, cs)

/-- Two digits of which the first is at most `top`. -/
def readPair? (top : Char) : List Char → Option (Nat × List Char)
  | c :: d :: cs =>
    if Ascii.isDigit c ∧ Ascii.isDigit d ∧ c ≤ top then
      some (Ascii.decimalValue [c, d], cs)
    else none
  | _ => none

/-- The hours and minutes of an offset, in seconds. -/
def readOffsetDigits? (cs : List Char) : Option (Nat × List Char) := do
  let (hours, cs) ← readPair? '9' cs
  let cs := cs.dropWhile fun c => c == ':' || Ascii.isBlank c
  let (minutes, cs) ← readPair? '5' cs
  if hours < 24 then some (hours * 3600 + minutes * 60, cs) else none

/-- The offset from UTC in seconds: `Z`, `UTC`, or a sign with hours and minutes. -/
def readOffset? (cs : List Char) : Option (Int × List Char) :=
  if (cs.take 3).map Ascii.lower = ['u', 't', 'c'] then some (0, cs.drop 3)
  else
    match cs with
    | c :: cs =>
      if c = 'Z' ∨ c = 'z' then some (0, cs)
      else if c = '+' then (readOffsetDigits? cs).map fun (n, cs) => ((n : Int), cs)
      else if c = '-' ∨ c = '−' then (readOffsetDigits? cs).map fun (n, cs) => (-(n : Int), cs)
      else none
    | [] => none

/-- The date in front of a date-time. -/
def readDate? (cs : List Char) : Option (Date × List Char) := do
  let (year, cs) ← readYear? cs
  let cs ← readMark? '-' cs
  let (month, cs) ← readPart? 1 12 cs
  let cs ← readMark? '-' cs
  let (day, cs) ← readPart? 1 31 cs
  if day ≤ daysInMonth year month then some (⟨year, month, day⟩, cs) else none

/-- The time of day of a date-time: seconds of the day and nanoseconds. Second 60 is a leap
second. -/
def readTime? (cs : List Char) : Option (Nat × Nat × List Char) := do
  let (hour, cs) ← readPart? 0 23 cs
  let cs ← readMark? ':' cs
  let (minute, cs) ← readPart? 0 59 cs
  let cs ← readMark? ':' cs
  let (second, cs) ← readPart? 0 60 cs
  let (fraction, cs) ← readFraction? cs
  let minutes := hour * 3600 + minute * 60
  if second = 60 then some (minutes + 59, nanosPerSecond + fraction, cs)
  else some (minutes + second, fraction, cs)

namespace Instant

/-- Reads a date-time. -/
def ofChars? (cs : List Char) : Option Instant := do
  let (date, cs) ← readDate? cs
  let cs ← match cs with
    | c :: cs => if c = 'T' ∨ c = 't' ∨ c = ' ' then some cs else none
    | [] => none
  let (second, nanos, cs) ← readTime? cs
  let (offset, cs) ← readOffset? (skipBlank cs)
  let seconds := dayNumber date * secondsPerDay + second - offset
  if skipBlank cs = [] ∧ inRange (dayNumber date * secondsPerDay) ∧ inRange seconds then
    some ⟨seconds, nanos⟩
  else none

/-- Reads a date-time. -/
def parse? (s : String) : Option Instant :=
  ofChars? s.toList

end Instant

end Gatehouse.Time
