import Gatehouse.Text.Bytes

/-!
# Base64

Octets as text of 64 symbols, in the standard alphabet with padding and in the URL-safe alphabet
without. Reading is strict: the padding must be the canonical one and the unused bits of the last
symbol zero, so each byte string has exactly one text.
-/

namespace Gatehouse.Base64

/-- A set of 64 symbols: letters and digits, then two more, and whether texts are padded. -/
structure Alphabet where
  plus : Char
  slash : Char
  /-- Whether `=` fills the last group of four. -/
  padded : Bool
  deriving DecidableEq, Repr

/-- The standard alphabet, padded. -/
def standard : Alphabet := ⟨'+', '/', true⟩

/-- The alphabet for URLs, without padding. -/
def urlSafe : Alphabet := ⟨'-', '_', false⟩

/-- Why a text is not the text of a byte string. -/
inductive DecodeError where
  /-- An octet that may not stand at this offset. -/
  | symbol (octet : UInt8) (offset : Nat)
  /-- Too few symbols to make an octet. -/
  | length (symbols : Nat)
  /-- The last symbol carries bits that no octet takes. -/
  | lastSymbol (octet : UInt8) (offset : Nat)
  /-- The padding is not the canonical one. -/
  | padding
  deriving DecidableEq, Repr

/-- The text of a decoding error. -/
def DecodeError.message : DecodeError → String
  | symbol octet offset => s!"Invalid symbol {octet.toNat}, offset {offset}."
  | length symbols => s!"Invalid input length: {symbols}"
  | lastSymbol octet offset => s!"Invalid last symbol {octet.toNat}, offset {offset}."
  | padding => "Invalid padding"

/-- The padding octet, `=`. -/
def pad : UInt8 := 61

namespace Alphabet

/-- The octet of the symbol of a value below 64. -/
def symbol (a : Alphabet) (v : Nat) : UInt8 :=
  if v < 26 then UInt8.ofNat (65 + v)
  else if v < 52 then UInt8.ofNat (71 + v)
  else if v < 62 then UInt8.ofNat (v - 4)
  else if v = 62 then UInt8.ofNat a.plus.toNat
  else UInt8.ofNat a.slash.toNat

/-- The value of a symbol; `none` for an octet outside the alphabet. -/
def value? (a : Alphabet) (octet : UInt8) : Option Nat :=
  let n := octet.toNat
  if 65 ≤ n ∧ n ≤ 90 then some (n - 65)
  else if 97 ≤ n ∧ n ≤ 122 then some (n - 71)
  else if 48 ≤ n ∧ n ≤ 57 then some (n + 4)
  else if n = a.plus.toNat then some 62
  else if n = a.slash.toNat then some 63
  else none

end Alphabet

/-! ## Writing -/

/-- The octets of the text of a byte string. -/
def encodeOctets (a : Alphabet) : Bytes → Bytes
  | [] => []
  | [x] =>
    [a.symbol (x.toNat / 4), a.symbol (x.toNat % 4 * 16)] ++ (if a.padded then [pad, pad] else [])
  | [x, y] =>
    [a.symbol (x.toNat / 4), a.symbol (x.toNat % 4 * 16 + y.toNat / 16),
      a.symbol (y.toNat % 16 * 4)] ++ (if a.padded then [pad] else [])
  | x :: y :: z :: rest =>
    a.symbol (x.toNat / 4) :: a.symbol (x.toNat % 4 * 16 + y.toNat / 16) ::
      a.symbol (y.toNat % 16 * 4 + z.toNat / 64) :: a.symbol (z.toNat % 64) :: encodeOctets a rest

/-- The text of a byte string. -/
def encode (a : Alphabet) (b : Bytes) : String :=
  String.ofList ((encodeOctets a b).map fun o => Char.ofNat o.toNat)

/-! ## Reading -/

/-- The value of the symbol at an offset. -/
def valueAt (a : Alphabet) (offset : Nat) (octet : UInt8) : Except DecodeError Nat :=
  match a.value? octet with
  | some v => .ok v
  | none => .error (.symbol octet offset)

/-- The three octets of four symbol values. -/
def joinQuad (s t u v : Nat) : Bytes :=
  [UInt8.ofNat (s * 4 + t / 16), UInt8.ofNat (t % 16 * 16 + u / 4), UInt8.ofNat (u % 4 * 64 + v)]

/-- What the last group of up to four octets holds: the values of its symbols, in order, and the
number of `=` after them. The first two places take no `=`, and no symbol follows one. -/
def lastGroup (a : Alphabet) (start : Nat) :
    (place : Nat) → (symbols : List (UInt8 × Nat)) → (pads : Nat) → Bytes →
      Except DecodeError (List (UInt8 × Nat) × Nat)
  | _, symbols, pads, [] => .ok (symbols, pads)
  | place, symbols, pads, o :: rest =>
    if o = pad then
      if place < 2 then .error (.symbol o (start + place))
      else lastGroup a start (place + 1) symbols (pads + 1) rest
    else if 0 < pads then .error (.symbol pad (start + symbols.length))
    else
      match a.value? o with
      | none => .error (.symbol o (start + place))
      | some v => lastGroup a start (place + 1) (symbols ++ [(o, v)]) 0 rest

/-- The octets of the symbols of the last group, with the checks of length, padding and unused
bits. -/
def finish (a : Alphabet) (start : Nat) (symbols : List (UInt8 × Nat)) (pads : Nat) :
    Except DecodeError Bytes :=
  if symbols.length < 2 then .error (.length (start + symbols.length))
  else if (if a.padded then symbols.length + pads ≠ 4 else pads ≠ 0) then .error .padding
  else
    match symbols with
    | [(_, s), (o, t)] =>
      if t % 16 ≠ 0 then .error (.lastSymbol o (start + 1))
      else .ok [UInt8.ofNat (s * 4 + t / 16)]
    | [(_, s), (_, t), (o, u)] =>
      if u % 4 ≠ 0 then .error (.lastSymbol o (start + 2))
      else .ok [UInt8.ofNat (s * 4 + t / 16), UInt8.ofNat (t % 16 * 16 + u / 4)]
    | [(_, s), (_, t), (_, u), (_, v)] => .ok (joinQuad s t u v)
    | _ => .error (.length (start + symbols.length))

/-- Reads the groups of four from the given offset on; the last one or more octets are the last
group. -/
def decodeGroups (a : Alphabet) : Nat → Bytes → Except DecodeError Bytes
  | _, [] => .ok []
  | start, o₀ :: o₁ :: o₂ :: o₃ :: o₄ :: rest => do
    let s ← valueAt a start o₀
    let t ← valueAt a (start + 1) o₁
    let u ← valueAt a (start + 2) o₂
    let v ← valueAt a (start + 3) o₃
    let others ← decodeGroups a (start + 4) (o₄ :: rest)
    return joinQuad s t u v ++ others
  | start, last => do
    let (symbols, pads) ← lastGroup a start 0 [] 0 last
    finish a start symbols pads

/-- Reads a byte string from the octets of its text. A last octet that stands alone and is no symbol
is reported before anything else. -/
def decodeOctets (a : Alphabet) (text : Bytes) : Except DecodeError Bytes :=
  match text.getLast? with
  | none => .ok []
  | some last =>
    if text.length % 4 = 1 ∧ last ≠ pad ∧ a.value? last = none then
      .error (.symbol last (text.length - 1))
    else decodeGroups a 0 text

/-- Reads a byte string from its text. -/
def decode (a : Alphabet) (text : String) : Except DecodeError Bytes :=
  decodeOctets a (Bytes.ofString text)

end Gatehouse.Base64
