import Gatehouse.Json.Shape
import Gatehouse.Uuid

/-!
# Permissions

A permission is a name such as `Delete-User`; checks compare names exactly.
-/

namespace Gatehouse

/-- A named permission. -/
structure Permission where
  id : Uuid
  name : String
  deriving DecidableEq, Repr, Inhabited

/-- An identifier in a JSON string. -/
def Json.uuid? (j : Json) : Option Uuid :=
  j.text?.bind Uuid.parse?

/-- The JSON string of an identifier. -/
def Uuid.toJson (u : Uuid) : Json :=
  .str u.text

namespace Permission

/-- The JSON form. -/
def toJson (p : Permission) : Json :=
  .record [("id", p.id.toJson), ("name", .str p.name)]

/-- Reads the JSON form. -/
def ofJson? (j : Json) : Option Permission := do
  let fs ← j.fields? ["id", "name"]
  let id ← Json.required fs "id" Json.uuid?
  let name ← Json.required fs "name" Json.text?
  return ⟨id, name⟩

end Permission

end Gatehouse
