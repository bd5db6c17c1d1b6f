import Gatehouse.Unicode.Table.CombiningClass
import Gatehouse.Unicode.Table.Composite

/-!
# The composed normal form of a text

Different sequences of characters may stand for the same text: a letter with a mark, or one
character for both, and marks in different places in any order. `normalForm` takes the composite
characters apart, puts the marks in the order of their classes, and composes what can be composed.
-/

namespace Gatehouse.Unicode

/-! ## The syllables of Hangul -/

namespace Hangul

/-- The first syllable. -/
def firstSyllable : Nat := 0xAC00

/-- The number of syllables. -/
def syllableCount : Nat := 11172

/-- The first leading consonant, and how many there are. -/
def leading : Nat × Nat := (0x1100, 19)

/-- The first vowel, and how many there are. -/
def vowel : Nat × Nat := (0x1161, 21)

/-- The code point before the first trailing consonant, and one more than how many there are. -/
def trailing : Nat × Nat := (0x11A7, 28)

/-- The parts of a syllable. -/
def parts? (c : Char) : Option (List Char) :=
  let i := c.toNat - firstSyllable
  if firstSyllable ≤ c.toNat ∧ i < syllableCount then
    let last := i % trailing.2
    some ([Char.ofNat (leading.1 + i / (vowel.2 * trailing.2)),
      Char.ofNat (vowel.1 + i / trailing.2 % vowel.2)] ++
      if last = 0 then [] else [Char.ofNat (trailing.1 + last)])
  else none

/-- The syllable of two parts: a leading consonant and a vowel, or a syllable without a trailing
consonant and one. -/
def compose? (a b : Char) : Option Char :=
  let l := a.toNat - leading.1
  let v := b.toNat - vowel.1
  let i := a.toNat - firstSyllable
  let t := b.toNat - trailing.1
  if leading.1 ≤ a.toNat ∧ l < leading.2 ∧ vowel.1 ≤ b.toNat ∧ v < vowel.2 then
    some (Char.ofNat (firstSyllable + (l * vowel.2 + v) * trailing.2))
  else if firstSyllable ≤ a.toNat ∧ i < syllableCount ∧ i % trailing.2 = 0 ∧
      trailing.1 < b.toNat ∧ t < trailing.2 then
    some (Char.ofNat (a.toNat + t))
  else none

end Hangul

/-! ## Taking apart and putting in order -/

/-- How often the first part of a composite character is taken apart again. -/
def compositeDepth : Nat := 4

/-- A composite character in its parts, another character alone. -/
def decompose : (depth : Nat) → Char → List Char
  | 0, c => [c]
  | depth + 1, c =>
    match Hangul.parts? c, composites.value? c with
    | some parts, _ => parts
    | none, some parts => parts.flatMap fun n => decompose depth (Char.ofNat n)
    | none, none => [c]

/-- Puts a character after others, given latest first: a mark goes in front of the marks of higher
classes. -/
def place (c : Char) : List Char → List Char
  | [] => [c]
  | d :: ds =>
    if 0 < combiningClass c ∧ combiningClass c < combiningClass d then d :: place c ds
    else c :: d :: ds

/-- A text with its marks in order. -/
def ordered (cs : List Char) : List Char :=
  (cs.foldl (fun seen c => place c seen) []).reverse

/-! ## Composing -/

/-- The composite character of two parts. -/
def compose? (a b : Char) : Option Char :=
  match Hangul.compose? a b with
  | some c => some c
  | none =>
    (Array.find? (fun run => run.value = [a.toNat, b.toNat]) composites).map fun run =>
      Char.ofNat run.first

/-- A text while it is composed. -/
structure Composing where
  done : List Char
  /-- The last character of class zero. -/
  base : Option Char
  /-- The marks after it that have not been composed with it, latest first. -/
  after : List Char

/-- What has been composed, latest first. -/
def Composing.all (s : Composing) : List Char :=
  s.after ++ s.base.toList ++ s.done

/-- Takes the next character: it is composed with the base if no mark between keeps them apart. -/
def Composing.next (s : Composing) (c : Char) : Composing :=
  let isFree := s.after.head?.all fun mark => combiningClass mark < combiningClass c
  match (if isFree then s.base.bind (compose? · c) else none) with
  | some composite => { s with base := some composite }
  | none =>
    if combiningClass c = 0 then ⟨s.all, some c, []⟩ else { s with after := c :: s.after }

/-- A text of ordered parts with all composed that can be. -/
def composed (cs : List Char) : List Char :=
  (cs.foldl Composing.next ⟨[], none, []⟩).all.reverse

/-- The composed normal form of a text. -/
def normalForm (cs : List Char) : List Char :=
  composed (ordered (cs.flatMap (decompose compositeDepth)))

end Gatehouse.Unicode
