import Gatehouse.Json.Basic

/-!
# Writing JSON

The compact form: no blanks, members in order, and of the characters of a string only the quote, the
backslash and those below U+0020 escaped.
-/

namespace Gatehouse.Json

/-- The escape of a character inside a string literal: two letters where there is a short form, four
hexadecimal digits for the other control characters, the character itself otherwise. -/
def escapeChar (c : Char) : List Char :=
  if c = '"' then ['\\', '"']
  else if c = '\\' then ['\\', '\\']
  else if c = '\x08' then ['\\', 'b']
  else if c = '\x0c' then ['\\', 'f']
  else if c = '\n' then ['\\', 'n']
  else if c = '\r' then ['\\', 'r']
  else if c = '\t' then ['\\', 't']
  else if c.toNat < 32 then
    ['\\', 'u', '0', '0', Ascii.hexDigit (Ascii.nibble (c.toNat / 16)),
      Ascii.hexDigit (Ascii.nibble c.toNat)]
  else [c]

/-- A string literal. -/
def quote (s : String) : List Char :=
  '"' :: s.toList.flatMap escapeChar ++ ['"']

/-- The decimal digit of a value. -/
def decimalDigit (d : Fin 10) : Char :=
  Char.ofNat (48 + d.val)

/-- The spelling of a number. A power of ten always has a sign. -/
def Number.render (n : Number) : List Char :=
  (if n.negative then ['-'] else []) ++ Nat.toDigits 10 n.whole ++
    (if n.fraction = [] then [] else '.' :: n.fraction.map decimalDigit) ++
    (match n.exponent with
      | none => []
      | some e => 'e' :: (if e < 0 then '-' else '+') :: Nat.toDigits 10 e.natAbs)

mutual

/-- The compact form of a value. The marks of reading have none. -/
def render : Json → List Char
  | .null => ['n', 'u', 'l', 'l']
  | .bool true => ['t', 'r', 'u', 'e']
  | .bool false => ['f', 'a', 'l', 's', 'e']
  | .num n => n.render
  | .str s => quote s
  | .arr items => '[' :: renderItems items ++ [']']
  | .obj members => '{' :: renderMembers members ++ ['}']
  | .garbled _ | .cut => []

/-- Items separated by commas. -/
def renderItems : List Json → List Char
  | [] => []
  | [j] => render j
  | j :: k :: js => render j ++ ',' :: renderItems (k :: js)

/-- Members separated by commas. -/
def renderMembers : List (Option String × Json) → List Char
  | [] => []
  | [(k, j)] => quote (k.getD "") ++ ':' :: render j
  | (k, j) :: m :: ms => quote (k.getD "") ++ ':' :: render j ++ ',' :: renderMembers (m :: ms)

end

/-- The compact form as a text. -/
def compact (j : Json) : String :=
  String.ofList j.render

end Gatehouse.Json
