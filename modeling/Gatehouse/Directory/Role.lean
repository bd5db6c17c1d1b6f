import Gatehouse.Directory.Permission
import Gatehouse.Time.Rfc3339

/-!
# Roles

A role groups permissions and is assigned to users. `RoleRef` is what a session keeps of a role: its
identifier and the name it had when the session began.
-/

namespace Gatehouse

open Time (Instant)

/-- An instant in a JSON string. -/
def Json.instant? (j : Json) : Option Instant :=
  j.text?.bind Instant.parse?

/-- A role. -/
structure Role where
  id : Uuid
  name : String
  /-- A role that is not active is resolved for nobody. -/
  active : Bool
  createdAt : Instant
  updatedAt : Instant
  deriving DecidableEq, Repr, Inhabited

/-- A role as a session keeps it. -/
structure RoleRef where
  id : Uuid
  name : String
  deriving DecidableEq, Repr, Inhabited

namespace RoleRef

/-- The JSON form. -/
def toJson (r : RoleRef) : Json :=
  .record [("id", r.id.toJson), ("name", .str r.name)]

/-- Reads the JSON form. -/
def ofJson? (j : Json) : Option RoleRef := do
  let fs ← j.fields? ["id", "name"]
  let id ← Json.required fs "id" Json.uuid?
  let name ← Json.required fs "name" Json.text?
  return ⟨id, name⟩

end RoleRef

namespace Role

/-- What a session keeps of the role. -/
def ref (r : Role) : RoleRef := ⟨r.id, r.name⟩

/-- The JSON form. -/
def toJson (r : Role) : Json :=
  .record [("id", r.id.toJson), ("name", .str r.name), ("active", .bool r.active),
    ("created_at", .str r.createdAt.text), ("updated_at", .str r.updatedAt.text)]

/-- Reads the JSON form. -/
def ofJson? (j : Json) : Option Role := do
  let fs ← j.fields? ["id", "name", "active", "created_at", "updated_at"]
  let id ← Json.required fs "id" Json.uuid?
  let name ← Json.required fs "name" Json.text?
  let active ← Json.required fs "active" Json.flag?
  let createdAt ← Json.required fs "created_at" Json.instant?
  let updatedAt ← Json.required fs "updated_at" Json.instant?
  return ⟨id, name, active, createdAt, updatedAt⟩

end Role

end Gatehouse
