/-!
# ASCII letters and digits

Classes and case of the 128 ASCII characters, and hexadecimal digits. Characters beyond ASCII belong
to none of the classes and have no other case here.
-/

namespace Gatehouse.Ascii

/-- `a` to `z`, `A` to `Z`. -/
def isLetter (c : Char) : Bool :=
  ('a' ≤ c && c ≤ 'z') || ('A' ≤ c && c ≤ 'Z')

/-- `0` to `9`. -/
def isDigit (c : Char) : Bool :=
  '0' ≤ c && c ≤ '9'

/-- A letter or a digit. -/
def isAlphanumeric (c : Char) : Bool :=
  isLetter c || isDigit c

/-- The capital letters become small, all else stays. -/
def lower (c : Char) : Char :=
  if 'A' ≤ c ∧ c ≤ 'Z' then Char.ofNat (c.toNat + 32) else c

/-- Letter by letter `lower`. -/
def lowerString (s : String) : String :=
  String.ofList (s.toList.map lower)

/-- Two texts that differ at most in the case of ASCII letters. -/
def equalFold (s t : String) : Bool :=
  s.toList.map lower == t.toList.map lower

/-- The value of a decimal digit. -/
def digitValue? (c : Char) : Option Nat :=
  if isDigit c then some (c.toNat - '0'.toNat) else none

/-- The value of the last hexadecimal digit of a number. -/
def nibble (n : Nat) : Fin 16 := Fin.ofNat 16 n

/-- The value of a hexadecimal digit of either case. -/
def hexValue? (c : Char) : Option (Fin 16) :=
  if '0' ≤ c ∧ c ≤ '9' then some (nibble (c.toNat - 48))
  else if 'a' ≤ c ∧ c ≤ 'f' then some (nibble (c.toNat - 87))
  else if 'A' ≤ c ∧ c ≤ 'F' then some (nibble (c.toNat - 55))
  else none

/-- The small hexadecimal digit of a value. -/
def hexDigit (d : Fin 16) : Char :=
  if d.val < 10 then Char.ofNat (48 + d.val) else Char.ofNat (87 + d.val)

@[simp] theorem hexValue?_hexDigit (d : Fin 16) : hexValue? (hexDigit d) = some d := by
  revert d; decide

/-- The number that a run of decimal digits denotes, most significant first. -/
def decimalValue (ds : List Char) : Nat :=
  ds.foldl (fun n c => 10 * n + (c.toNat - '0'.toNat)) 0

/-- A blank of the classes that a header value or a bearer token is trimmed of: the white space of
Unicode. -/
def isBlank (c : Char) : Bool :=
  c == ' ' || ('\t' ≤ c && c ≤ '\r') || c == '\u0085' || c == '\u00a0' || c == '\u1680' ||
    ('\u2000' ≤ c && c ≤ '\u200a') || c == '\u2028' || c == '\u2029' || c == '\u202f' ||
    c == '\u205f' || c == '\u3000'

/-- The text without blanks at either end. -/
def trim (cs : List Char) : List Char :=
  (((cs.dropWhile isBlank).reverse).dropWhile isBlank).reverse

end Gatehouse.Ascii
