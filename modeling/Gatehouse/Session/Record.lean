import Gatehouse.Directory.Role
import Gatehouse.Session.Attributes

/-!
# Session records

What the credential store keeps for one issued token: whose session it is, the roles resolved when
it began, free-form attributes, and the session of the other token of its pair. A record is never
changed; a session ends by removing it.
-/

namespace Gatehouse

/-- The stored state of one issued token. -/
structure SessionRecord where
  /-- The user the session belongs to. -/
  subject : Uuid
  /-- The roles resolved when it began, in the order of their assignment. -/
  roles : List RoleRef
  extra : Attributes
  /-- The session of the other token of the pair. -/
  pairedWith : Option Uuid
  deriving DecidableEq, Repr, Inhabited

namespace SessionRecord

/-- A record without attributes and without a pair. -/
def fresh (subject : Uuid) (roles : List RoleRef) : SessionRecord :=
  ⟨subject, roles, .empty, none⟩

/-- The record bound to the other session of its pair. -/
def bind (r : SessionRecord) (session : Uuid) : SessionRecord :=
  { r with pairedWith := some session }

/-- The JSON form; a missing pair is left out. -/
def toJson (r : SessionRecord) : Json :=
  .record ([("subject_id", r.subject.toJson), ("roles", .arr (r.roles.map RoleRef.toJson)),
    ("extra", r.extra.toJson)] ++
    (match r.pairedWith with
      | none => []
      | some s => [("paired_session_id", s.toJson)]))

/-- Reads the JSON form; attributes and pair may be missing. -/
def ofJson? (j : Json) : Option SessionRecord := do
  let fs ← j.fields? ["subject_id", "roles", "extra", "paired_session_id"]
  let subject ← Json.required fs "subject_id" Json.uuid?
  let roles ← Json.required fs "roles" (Json.list? RoleRef.ofJson?)
  let extra ← Json.withDefault fs "extra" .empty Attributes.ofJson?
  let pairedWith ← Json.withDefault fs "paired_session_id" none (Json.option? Json.uuid?)
  return ⟨subject, roles, extra, pairedWith⟩

end SessionRecord

end Gatehouse
