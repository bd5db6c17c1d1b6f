import Gatehouse.Email.DomainName

/-!
# E-mail addresses

An address is split at its last `@` into a local part of up to 64 characters and a domain of up to
255.
-/

namespace Gatehouse.Email

/-- The marks that may stand in a local part. -/
def localMarks : List Char :=
  ".!#$%&'*+/=?^_`\x7b|\x7d~-".toList

/-- A character of the local part. -/
def isLocalChar (c : Char) : Bool :=
  Ascii.isAlphanumeric c || localMarks.contains c

/-- The greatest length of a local part. -/
def maxLocalLength : Nat := 64

/-- The greatest length of a domain. -/
def maxDomainLength : Nat := 255

/-- Whether a text is an address. -/
def isAddress (s : String) : Bool :=
  let back := s.toList.reverse
  match back.dropWhile (· ≠ '@') with
  | [] => false
  | _ :: front =>
    let domain := (back.takeWhile (· ≠ '@')).reverse
    front.length ≤ maxLocalLength && domain.length ≤ maxDomainLength && !front.isEmpty &&
      front.all isLocalChar && isDomain domain

end Gatehouse.Email
