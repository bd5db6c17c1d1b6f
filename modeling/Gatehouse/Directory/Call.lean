import Gatehouse.Directory.User

/-!
# Calls to the directory

The directory holds users, roles and permissions, which roles a user has and which permissions a
role grants. Requests only look things up; the calls that write are for seeding.
-/

namespace Gatehouse.Directory

/-- A call to the directory. -/
inductive Call where
  /-- The user with an address, letters compared without case. -/
  | byEmail (email : String)
  /-- The active roles of a user, in the order of assignment. -/
  | rolesOf (user : Uuid)
  /-- The permissions that a role grants, by name. -/
  | permissionsOf (role : Uuid)
  /-- The role of a name, which is made if there is none. -/
  | ensureRole (name : String)
  /-- The permission of a name, which is made if there is none. -/
  | ensurePermission (name : String)
  /-- Lets a role grant a permission. -/
  | grant (role permission : Uuid)
  /-- Adds a user unless its address is taken. -/
  | createUser (user : User)
  /-- Gives a role to a user. -/
  | assign (user role : Uuid)
  deriving DecidableEq, Repr

/-- What a call is answered with. -/
abbrev Call.Reply : Call → Type
  | byEmail _ => Option User
  | rolesOf _ => List RoleRef
  | permissionsOf _ => List Permission
  | ensureRole _ => Uuid
  | ensurePermission _ => Uuid
  | grant _ _ => Unit
  | createUser _ => Bool
  | assign _ _ => Unit

/-- The name of a call in logs. -/
def Call.name : Call → String
  | byEmail _ => "by_email"
  | rolesOf _ => "roles_of"
  | permissionsOf _ => "permissions_of"
  | ensureRole _ => "ensure_role"
  | ensurePermission _ => "ensure_permission"
  | grant _ _ => "grant"
  | createUser _ => "create_user"
  | assign _ _ => "assign"

/-- What a call is about, if that is one thing. -/
def Call.subject? : Call → Option String
  | byEmail email => some email
  | rolesOf id | permissionsOf id => some id.text
  | ensureRole name | ensurePermission name => some name
  | createUser user => some user.email
  | grant _ _ | assign _ _ => none

end Gatehouse.Directory
