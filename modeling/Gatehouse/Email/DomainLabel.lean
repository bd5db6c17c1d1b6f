import Gatehouse.Email.Punycode
import Gatehouse.Unicode.NormalForm
import Gatehouse.Unicode.Table.Direction
import Gatehouse.Unicode.Table.Joining
import Gatehouse.Unicode.Table.Mark
import Gatehouse.Unicode.Table.NameMapping

/-!
# Labels of names of domains

A label is given in its own characters or, after the mark `xn--`, in Punycode. `Label.read?` checks
that its characters are fit for a name, and knows both forms; whether the directions of writing fit
is a question of the whole name, and `fitsDirections` answers it for one label.
-/

namespace Gatehouse.Email

open Unicode (Direction Joining)

/-- Whether a text is ASCII. -/
def isAscii (cs : List Char) : Bool :=
  cs.all (·.toNat < 128)

/-- What a label in Punycode begins with. -/
def punycodeMark : List Char := "xn--".toList

/-! ## Joiners -/

/-- The character that keeps its neighbours from joining. -/
def nonJoiner : Char := '\u200c'

/-- The character that makes its neighbours join. -/
def joiner : Char := '\u200d'

/-- Whether the first character that is not transparent joins on one of the sides. -/
def joinsOn (sides : List Joining) (cs : List Char) : Bool :=
  match (cs.map Unicode.joinings.value?).dropWhile (· = some .transparent) with
  | some side :: _ => side ∈ sides
  | _ => false

/-- Whether a joiner or non-joiner has its place between what stands before it, latest first, and
what stands after it: after the sign that takes a vowel away, or, to keep them apart, between
letters that would join. -/
def fitsBetween (before : List Char) (c : Char) (after : List Char) : Bool :=
  match before with
  | [] => false
  | d :: _ =>
    Unicode.combiningClass d = Unicode.viramaClass ||
      (c = nonJoiner && joinsOn [.left, .both] before && joinsOn [.right, .both] after)

/-- Whether every joiner and non-joiner in a text has its place, after `before`, latest first. -/
def fitsJoiners (before : List Char) : List Char → Bool
  | [] => true
  | c :: cs =>
    ((c ≠ nonJoiner && c ≠ joiner) || fitsBetween before c cs) && fitsJoiners (c :: before) cs

/-! ## Directions -/

/-- The classes that may stand in a label from left to right. -/
def leftToRight : List Direction :=
  [.left, .europeanNumber, .europeanSeparator, .commonSeparator, .europeanTerminator, .neutral,
    .boundary, .nonspacing]

/-- The classes that may stand in a label from right to left. -/
def rightToLeft : List Direction :=
  [.right, .arabicLetter, .arabicNumber, .europeanNumber, .europeanSeparator, .commonSeparator,
    .europeanTerminator, .neutral, .boundary, .nonspacing]

/-- The classes that make the directions of a name a question. -/
def turning : List Direction := [.right, .arabicLetter, .arabicNumber]

/-- Whether a label runs in one direction: a letter comes first and tells it, a letter or a digit is
the last before marks, and digits are of one kind. -/
def fitsDirections (label : List Char) : Bool :=
  match label.map Unicode.direction with
  | [] => true
  | d :: ds =>
    let last := ((d :: ds).reverse.dropWhile (· = .nonspacing)).head?
    match d with
    | .left =>
      ds.all (· ∈ leftToRight) && last.all (· ∈ [Direction.left, .europeanNumber])
    | .right | .arabicLetter =>
      ds.all (· ∈ rightToLeft) &&
        last.all (· ∈ [Direction.right, .arabicLetter, .europeanNumber, .arabicNumber]) &&
        !(ds.contains .europeanNumber && ds.contains .arabicNumber)
    | _ => false

/-! ## Labels -/

/-- Whether a text beyond ASCII is a label in its own characters: they are fit for a name and in
normal form, no mark comes first, joiners have their places, and it does not look like Punycode. -/
def isProper (label : List Char) : Bool :=
  !isAscii label && label.all Unicode.nameCharacters.contains &&
    Unicode.normalForm label = label && !label.head?.any Unicode.marks.contains &&
    fitsJoiners [] label && !punycodeMark.isPrefixOf label

/-- A label in its two forms. -/
structure Label where
  ascii : List Char
  own : List Char
  deriving DecidableEq, Repr

/-- Reads a label whose characters have been mapped. -/
def Label.read? (cs : List Char) : Option Label :=
  if isAscii cs then
    if punycodeMark.isPrefixOf cs then
      ((Punycode.decode? (cs.drop punycodeMark.length)).filter isProper).map fun own => ⟨cs, own⟩
    else some ⟨cs, cs⟩
  else if isProper cs then some ⟨punycodeMark ++ Punycode.encode cs, cs⟩
  else none

end Gatehouse.Email
