/-!
# Octets and text

A byte string is a list of octets. `Bytes.ofString` is the UTF-8 form of a text and
`Bytes.toString?` reads it back: `Bytes.toString?_ofString` says that nothing is lost.
-/

namespace Gatehouse

/-- A string of octets. -/
abbrev Bytes := List UInt8

namespace Bytes

/-- The UTF-8 form of a text. -/
def ofString (s : String) : Bytes :=
  s.toUTF8.data.toList

/-- The text whose UTF-8 form is given; `none` if the octets are no such form. -/
def toString? (b : Bytes) : Option String :=
  String.fromUTF8? ⟨b.toArray⟩

theorem toString?_ofString (s : String) : toString? (ofString s) = some s := by
  simpa [toString?, ofString, String.fromUTF8?] using ⟨s.isValidUTF8, rfl⟩

theorem ofString_injective {s t : String} (h : ofString s = ofString t) : s = t := by
  have := toString?_ofString s
  rw [h, toString?_ofString] at this
  exact (Option.some.inj this).symm

end Bytes

end Gatehouse
