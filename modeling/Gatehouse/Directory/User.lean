import Gatehouse.Directory.Role

/-!
# Users

A registered user with the stored form of its password. The JSON form leaves the password out, so a
user does not read back from it.
-/

namespace Gatehouse

open Time (Instant)

/-- A registered user. -/
structure User where
  id : Uuid
  name : String
  /-- The address used to log in. -/
  email : String
  /-- A user that is not active cannot log in. -/
  active : Bool
  /-- The salt of the password, in Base64. -/
  salt : String
  /-- The derived password, in Base64. -/
  password : String
  createdAt : Instant
  updatedAt : Instant
  deriving DecidableEq, Repr, Inhabited

namespace User

/-- Whether the user may log in now. -/
def canLogIn (u : User) : Bool := u.active

/-- The JSON form, without salt and password. -/
def toJson (u : User) : Json :=
  .record [("id", u.id.toJson), ("name", .str u.name), ("email", .str u.email),
    ("active", .bool u.active), ("created_at", .str u.createdAt.text),
    ("updated_at", .str u.updatedAt.text)]

/-- Reads a user with salt and password. -/
def ofJson? (j : Json) : Option User := do
  let fs ← j.fields?
    ["id", "name", "email", "active", "salt", "password", "created_at", "updated_at"]
  let id ← Json.required fs "id" Json.uuid?
  let name ← Json.required fs "name" Json.text?
  let email ← Json.required fs "email" Json.text?
  let active ← Json.required fs "active" Json.flag?
  let salt ← Json.required fs "salt" Json.text?
  let password ← Json.required fs "password" Json.text?
  let createdAt ← Json.required fs "created_at" Json.instant?
  let updatedAt ← Json.required fs "updated_at" Json.instant?
  return ⟨id, name, email, active, salt, password, createdAt, updatedAt⟩

end User

end Gatehouse
