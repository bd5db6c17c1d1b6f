import Gatehouse.Unicode.Table.Unseen

/-!
# Quoted text for diagnostics

A text between double quotes in which every character that cannot be seen is spelled by its number,
but for a few controls that have a short form.
-/

namespace Gatehouse.Text

/-- A number in small hexadecimal digits. -/
def hexText (n : Nat) : List Char := Nat.toDigits 16 n

/-- A character as it stands between the quotes. -/
def quoteChar (c : Char) : List Char :=
  if c = '"' ∨ c = '\\' then ['\\', c]
  else if c = '\n' then ['\\', 'n']
  else if c = '\r' then ['\\', 'r']
  else if c = '\t' then ['\\', 't']
  else if c = '\x00' then ['\\', '0']
  else if Unicode.unseen.contains c then '\\' :: 'u' :: '{' :: hexText c.toNat ++ ['}']
  else [c]

/-- A text between double quotes. -/
def quoted (s : String) : String :=
  String.ofList ('"' :: s.toList.flatMap quoteChar ++ ['"'])

end Gatehouse.Text
