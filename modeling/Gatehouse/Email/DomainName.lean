import Gatehouse.Email.DomainLabel
import Gatehouse.Net.HostAddress

/-!
# Names of domains

A domain is a name, labels of letters, digits and hyphens joined by points, or ends with a host
address in brackets. A name that is neither is brought into its ASCII form: its characters are
mapped to those fit for a name and composed, and labels beyond ASCII are written in Punycode.
-/

namespace Gatehouse.Email

/-- A letter or digit of a name. -/
def isNameChar (c : Char) : Bool :=
  Ascii.isAlphanumeric c

/-- One to 63 letters, digits and hyphens, with no hyphen at either end. -/
def isLabel (label : List Char) : Bool :=
  label.length ≤ 63 && label.all (fun c => isNameChar c || c == '-') &&
    label.head?.any isNameChar && label.getLast?.any isNameChar

/-- Whether a text is a name of ASCII labels. -/
def isAsciiName (cs : List Char) : Bool :=
  (Text.splitOn '.' cs).all isLabel

/-- Whether a text ends with a host address in brackets. -/
def endsInAddress (cs : List Char) : Bool :=
  match cs.reverse with
  | ']' :: back =>
    let address := (back.takeWhile (· ≠ '[')).reverse
    address.length < back.length && Net.isHostAddress address
  | _ => false

/-- Whether a text is a domain without being changed. -/
def isAsciiDomain (cs : List Char) : Bool :=
  isAsciiName cs || endsInAddress cs

/-- The labels of a name after mapping, if each can be read and, where some run from right to left,
the directions of all fit. -/
def nameLabels? (cs : List Char) : Option (List Label) := do
  let forms ← cs.mapM Unicode.nameForm?
  let labels ← (Text.splitOn '.' (Unicode.normalForm forms.flatten)).mapM Label.read?
  if labels.any (fun label => label.own.any (Unicode.direction · ∈ turning)) then
    if labels.all (fitsDirections ·.own) then some labels else none
  else some labels

/-- The ASCII form of a name. -/
def asciiName? (cs : List Char) : Option (List Char) :=
  (nameLabels? cs).map fun labels => Text.joinWith '.' (labels.map (·.ascii))

/-- Whether a text is a domain, as it is or in its ASCII form. -/
def isDomain (cs : List Char) : Bool :=
  isAsciiDomain cs || (asciiName? cs).any isAsciiDomain

end Gatehouse.Email
