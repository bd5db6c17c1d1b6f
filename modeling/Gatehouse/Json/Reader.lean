import Gatehouse.Json.Basic
import Gatehouse.Text.Bytes

/-!
# Reading JSON

`Json.scan` reads one value and returns the rest of the text; it never fails, but marks the place
where the text stops being JSON (`Json.cut`) and reads nothing after it. So whoever takes a value
apart in the order of the text meets a wrong shape and a broken text in the order in which they
stand. `Json.parse?` reads a whole text strictly, and `Json.parseOctets?` reads octets, of which
only those of string literals need to be a text, and only where the string is wanted.
-/

namespace Gatehouse.Json

/-- The blanks between tokens. -/
def isSpace (c : Char) : Bool :=
  c == ' ' || c == '\t' || c == '\n' || c == '\r'

/-- The text after leading blanks. -/
def skipSpace : List Char → List Char
  | [] => []
  | c :: cs => if isSpace c then skipSpace cs else c :: cs

/-! ## Strings -/

/-- A part of a string literal: a character, or a unit of sixteen bits spelled `\u` and four
digits. -/
inductive Piece where
  /-- A character that stands for itself or has a short escape. -/
  | char (c : Char)
  | unit (n : Nat)
  deriving DecidableEq, Repr

/-- The character of a short escape. -/
def unescape? : Char → Option Char
  | '"' => some '"'
  | '\\' => some '\\'
  | '/' => some '/'
  | 'b' => some '\x08'
  | 'f' => some '\x0c'
  | 'n' => some '\n'
  | 'r' => some '\r'
  | 't' => some '\t'
  | _ => none

/-- The value of four hexadecimal digits. -/
def hexUnit? (a b c d : Char) : Option Nat := do
  let a ← Ascii.hexValue? a
  let b ← Ascii.hexValue? b
  let c ← Ascii.hexValue? c
  let d ← Ascii.hexValue? d
  return ((a.val * 16 + b.val) * 16 + c.val) * 16 + d.val

/-- The parts of a string literal up to its closing quote, latest first in front of `seen`; and the
text after it. `none` if there is no closing quote, an escape is unknown, or a control character
stands bare. -/
def scanPieces (seen : List Piece) : List Char → Option (List Piece × List Char)
  | [] => none
  | '"' :: rest => some (seen, rest)
  | '\\' :: 'u' :: a :: b :: c :: d :: rest =>
    match hexUnit? a b c d with
    | some n => scanPieces (.unit n :: seen) rest
    | none => none
  | '\\' :: e :: rest =>
    match unescape? e with
    | some c => scanPieces (.char c :: seen) rest
    | none => none
  | c :: rest => if c.toNat < 32 ∨ c = '\\' then none else scanPieces (.char c :: seen) rest

/-- A unit that opens a surrogate pair. -/
def isHighSurrogate (n : Nat) : Bool := 0xD800 ≤ n && n < 0xDC00

/-- A unit that closes a surrogate pair. -/
def isLowSurrogate (n : Nat) : Bool := 0xDC00 ≤ n && n < 0xE000

/-- The parts of a literal, given latest first, in front of `after`: a closing unit is joined with
the opening unit before it. `raw` takes a character as it stands and `coded` one that units spell.
`none` if a surrogate stands alone. -/
def joinPieces {β : Type} (raw coded : Char → β) (after : List β) : List Piece → Option (List β)
  | [] => some after
  | .char c :: before => joinPieces raw coded (raw c :: after) before
  | .unit low :: .unit high :: before =>
    if isLowSurrogate low then
      if isHighSurrogate high then
        let c := Char.ofNat (0x10000 + (high - 0xD800) * 0x400 + (low - 0xDC00))
        joinPieces raw coded (coded c :: after) before
      else none
    else if isHighSurrogate low then none
    else joinPieces raw coded (coded (Char.ofNat low) :: after) (.unit high :: before)
  | .unit n :: before =>
    if isLowSurrogate n || isHighSurrogate n then none
    else joinPieces raw coded (coded (Char.ofNat n) :: after) before

/-- Where the first fault of a literal shows, given its parts in order. A surrogate that opens a
pair is missed by what follows it, which may be the closing quote; octets that are no text show at
the end. -/
def faultOf : List Piece → Fault
  | [] => .atEnd
  | .char _ :: after => faultOf after
  | .unit n :: after =>
    if isLowSurrogate n then .inside
    else if isHighSurrogate n then
      match after with
      | [] => .atEnd
      | .unit low :: after => if isLowSurrogate low then faultOf after else .inside
      | .char _ :: _ => .inside
    else faultOf after

/-- The text of a literal, given its parts latest first. -/
def charText (pieces : List Piece) : Except Fault String :=
  match joinPieces id id [] pieces with
  | some cs => .ok (String.ofList cs)
  | none => .error (faultOf pieces.reverse)

/-- The text of a literal whose bare characters are octets, given its parts latest first. -/
def octetText (pieces : List Piece) : Except Fault String :=
  let octets? := joinPieces (fun c => [UInt8.ofNat c.toNat]) (Bytes.ofString ·.toString) [] pieces
  match octets?.bind fun parts => Bytes.toString? parts.flatten with
  | some s => .ok s
  | none => .error (faultOf pieces.reverse)

/-! ## Numbers -/

/-- The value of a decimal digit. -/
def digit? (c : Char) : Option (Fin 10) :=
  if Ascii.isDigit c then some (Fin.ofNat 10 (c.toNat - 48)) else none

/-- The leading digits and the text after them. -/
def takeDigits (cs : List Char) : List Char × List Char :=
  (cs.takeWhile Ascii.isDigit, cs.dropWhile Ascii.isDigit)

/-- The digits before the point: a zero alone, or digits of which the first is not zero. -/
def scanWhole? (cs : List Char) : Option (Nat × List Char) :=
  match takeDigits cs with
  | ([], _) => none
  | ('0' :: _ :: _, _) => none
  | (ds, rest) => some (Ascii.decimalValue ds, rest)

/-- The point and the digits after it, if there is a point; then there is a digit. -/
def scanFraction? : List Char → Option (List (Fin 10) × List Char)
  | '.' :: cs =>
    match takeDigits cs with
    | ([], _) => none
    | (ds, rest) => some (ds.filterMap digit?, rest)
  | cs => some ([], cs)

/-- The digits of an exponent; there is at least one. -/
def scanPower? (negative : Bool) (cs : List Char) : Option (Option Int × List Char) :=
  match takeDigits cs with
  | ([], _) => none
  | (ds, rest) =>
    let n : Int := Ascii.decimalValue ds
    some (some (if negative then -n else n), rest)

/-- The mark `e` with its sign and digits, if there is one. -/
def scanExponent? : List Char → Option (Option Int × List Char)
  | c :: cs =>
    if c = 'e' ∨ c = 'E' then
      match cs with
      | '+' :: ds => scanPower? false ds
      | '-' :: ds => scanPower? true ds
      | ds => scanPower? false ds
    else some (none, c :: cs)
  | [] => some (none, [])

/-- A number without its sign. -/
def scanUnsigned? (negative : Bool) (cs : List Char) : Option (Number × List Char) := do
  let (whole, cs) ← scanWhole? cs
  let (fraction, cs) ← scanFraction? cs
  let (exponent, cs) ← scanExponent? cs
  return (⟨negative, whole, fraction, exponent⟩, cs)

/-- A number. -/
def scanNumber? : List Char → Option (Number × List Char)
  | '-' :: cs => scanUnsigned? true cs
  | cs => scanUnsigned? false cs

/-! ## Values -/

section

/-! `text` makes the text of a literal from its parts. -/

variable (text : List Piece → Except Fault String)

mutual

/-- Reads a value after blanks; `fuel` bounds the number of values and members that are read. -/
def scanValue : (fuel : Nat) → List Char → Json × List Char
  | 0, _ => (.cut, [])
  | fuel + 1, cs =>
    match skipSpace cs with
    | 'n' :: 'u' :: 'l' :: 'l' :: rest => (.null, rest)
    | 't' :: 'r' :: 'u' :: 'e' :: rest => (.bool true, rest)
    | 'f' :: 'a' :: 'l' :: 's' :: 'e' :: rest => (.bool false, rest)
    | '"' :: rest =>
      match scanPieces [] rest with
      | none => (.cut, [])
      | some (pieces, rest) =>
        match text pieces with
        | .ok s => (.str s, rest)
        | .error fault => (.garbled fault, rest)
    | '[' :: rest =>
      match skipSpace rest with
      | ']' :: rest => (.arr [], rest)
      | rest => let (items, rest) := scanItems fuel rest; (.arr items, rest)
    | '{' :: rest =>
      match skipSpace rest with
      | '}' :: rest => (.obj [], rest)
      | rest => let (members, rest) := scanMembers fuel rest; (.obj members, rest)
    | cs =>
      match scanNumber? cs with
      | some (n, rest) => (.num n, rest)
      | none => (.cut, [])

/-- Reads items up to the closing bracket. -/
def scanItems : (fuel : Nat) → List Char → List Json × List Char
  | 0, _ => ([.cut], [])
  | fuel + 1, cs =>
    let (j, rest) := scanValue fuel cs
    match skipSpace rest with
    | ',' :: rest => let (js, rest) := scanItems fuel rest; (j :: js, rest)
    | ']' :: rest => ([j], rest)
    | _ => ([j, .cut], [])

/-- Reads members up to the closing brace. -/
def scanMembers : (fuel : Nat) → List Char → List (Option String × Json) × List Char
  | 0, _ => ([(none, .cut)], [])
  | fuel + 1, cs =>
    match skipSpace cs with
    | '"' :: rest =>
      match scanPieces [] rest with
      | none => ([(none, .cut)], [])
      | some (pieces, rest) =>
        let key := (text pieces).toOption
        match skipSpace rest with
        | ':' :: rest =>
          let (j, rest) := scanValue fuel rest
          match skipSpace rest with
          | ',' :: rest => let (ms, rest) := scanMembers fuel rest; ((key, j) :: ms, rest)
          | '}' :: rest => ([(key, j)], rest)
          | _ => ([(key, j), (none, .cut)], [])
        | _ => ([(key, .cut)], [])
    | _ => ([(none, .cut)], [])

end

/-- Reads a text that is one value and blanks. -/
def parseBy? (cs : List Char) : Option Json :=
  let (j, rest) := scanValue text (2 * cs.length + 2) cs
  if j.isWhole ∧ skipSpace rest = [] then some j else none

end

/-- Reads one value; the text after it is the second part, empty if the value is cut. -/
def scan (cs : List Char) : Json × List Char :=
  scanValue charText (2 * cs.length + 2) cs

/-- Reads a text that is one value and blanks. -/
def parse? (s : String) : Option Json :=
  parseBy? charText s.toList

/-- Reads octets that are one value and blanks. -/
def parseOctets? (octets : Bytes) : Option Json :=
  parseBy? octetText (octets.map fun o => Char.ofNat o.toNat)

end Gatehouse.Json
