import Gatehouse.Text.Split

/-!
# Addresses for the log

An address of a server may carry a password between a colon and an `@`. In the log four stars stand
in its place.
-/

namespace Gatehouse.Text

/-- The number of characters in front of the first occurrence of a text. -/
def positionOf? (pattern : List Char) : List Char → Option Nat
  | [] => if pattern = [] then some 0 else none
  | c :: cs =>
    if pattern.isPrefixOf (c :: cs) then some 0 else (positionOf? pattern cs).map (· + 1)

/-- What is put in the place of a password. -/
def stars : List Char := ['*', '*', '*', '*']

/-- An address without its password: what stands between the last colon before the first `@` and
that `@`, if that colon comes after the `://` of the scheme. -/
def maskChars (url : List Char) : List Char :=
  match positionOf? ['@'] url with
  | none => url
  | some sign =>
    match lastPosition? ':' (url.take sign) with
    | none => url
    | some colon =>
      let start := (positionOf? [':', '/', '/'] url).elim 0 (· + 3)
      if start < colon then url.take colon ++ ':' :: stars ++ '@' :: url.drop (sign + 1) else url

/-- An address without its password. -/
def maskedUrl (url : String) : String :=
  String.ofList (maskChars url.toList)

end Gatehouse.Text
