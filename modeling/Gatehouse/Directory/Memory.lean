import Gatehouse.Directory.Call
import Gatehouse.Failure

/-!
# A directory in memory

Users, roles and permissions by identifier, the roles assigned to each user in the order of
assignment, and the permissions granted to each role. `Directory.answer` is the answer to a call and
the directory after it; a call that fails changes nothing.
-/

namespace Gatehouse

open Time (Instant)

/-- Users, roles and permissions with their relations. -/
structure Directory where
  users : List User
  roles : List Role
  permissions : List Permission
  /-- User and role, for each role that was assigned, the oldest first. -/
  assignments : List (Uuid × Uuid)
  /-- Role and permission, for each permission that was granted, the oldest first. -/
  grants : List (Uuid × Uuid)
  deriving DecidableEq, Repr

namespace Directory

/-- No users, roles and permissions. -/
def empty : Directory := ⟨[], [], [], [], []⟩

instance : Inhabited Directory := ⟨empty⟩

/-- The list with an element in the place of the one with the same key, or at the end. -/
def replaceOrAdd {α : Type} (key : α → Uuid) (x : α) : List α → List α
  | [] => [x]
  | y :: ys => if key y = key x then x :: ys else y :: replaceOrAdd key x ys

/-- The list with an element at the end, unless it is in the list. -/
def addOnce (x : Uuid × Uuid) (xs : List (Uuid × Uuid)) : List (Uuid × Uuid) :=
  if x ∈ xs then xs else xs ++ [x]

/-! ## Lookups -/

/-- The user of an identifier. -/
def user? (d : Directory) (id : Uuid) : Option User :=
  d.users.find? (·.id = id)

/-- The role of an identifier. -/
def role? (d : Directory) (id : Uuid) : Option Role :=
  d.roles.find? (·.id = id)

/-- The permission of an identifier. -/
def permission? (d : Directory) (id : Uuid) : Option Permission :=
  d.permissions.find? (·.id = id)

/-- The user of an address, letters compared without case. -/
def byEmail (d : Directory) (email : String) : Option User :=
  d.users.find? fun u => Ascii.equalFold u.email email

/-- The roles assigned to a user that are active, in the order of assignment. -/
def rolesOf (d : Directory) (user : Uuid) : List RoleRef :=
  (((d.assignments.filter (·.1 = user)).filterMap fun a => d.role? a.2).filter (·.active)).map
    Role.ref

/-- The permissions granted to a role, by name. -/
def permissionsOf (d : Directory) (role : Uuid) : List Permission :=
  ((d.grants.filter (·.1 = role)).filterMap fun g => d.permission? g.2).mergeSort
    fun p q => decide (p.name ≤ q.name)

/-! ## Changes -/

/-- Adds a user, or replaces the one with the same identifier. -/
def insertUser (d : Directory) (u : User) : Directory :=
  { d with users := replaceOrAdd User.id u d.users }

/-- Adds a role, or replaces the one with the same identifier. -/
def insertRole (d : Directory) (r : Role) : Directory :=
  { d with roles := replaceOrAdd Role.id r d.roles }

/-- Adds a permission, or replaces the one with the same identifier. -/
def insertPermission (d : Directory) (p : Permission) : Directory :=
  { d with permissions := replaceOrAdd Permission.id p d.permissions }

/-- The failure for a user that does not exist. -/
def noUser (id : Uuid) : Failure := .missing ("User " ++ id.text ++ " not found")

/-- The failure for a role that does not exist. -/
def noRole (id : Uuid) : Failure := .missing ("Role " ++ id.text ++ " not found")

/-- The failure for a permission that does not exist. -/
def noPermission (id : Uuid) : Failure := .missing ("Permission " ++ id.text ++ " not found")

/-- Makes a user active or not. -/
def setActive (d : Directory) (user : Uuid) (active : Bool) : Except Failure Directory :=
  match d.user? user with
  | none => .error (noUser user)
  | some u => .ok (d.insertUser { u with active })

/-- Assigns a role to a user; assigned twice it is assigned once. -/
def assign (d : Directory) (user role : Uuid) : Except Failure Directory :=
  if (d.user? user).isNone then .error (noUser user)
  else if (d.role? role).isNone then .error (noRole role)
  else .ok { d with assignments := addOnce (user, role) d.assignments }

/-- Grants a permission to a role; granted twice it is granted once. -/
def grant (d : Directory) (role permission : Uuid) : Except Failure Directory :=
  if (d.role? role).isNone then .error (noRole role)
  else if (d.permission? permission).isNone then .error (noPermission permission)
  else .ok { d with grants := addOnce (role, permission) d.grants }

/-- Takes a permission from a role. -/
def revoke (d : Directory) (role permission : Uuid) : Directory :=
  { d with grants := d.grants.filter (· ≠ (role, permission)) }

/-- The role of a name, made active with the given identifier and time if there is none. -/
def ensureRole (d : Directory) (now : Instant) (fresh : Uuid) (name : String) : Uuid × Directory :=
  match d.roles.find? (·.name = name) with
  | some r => (r.id, d)
  | none => (fresh, d.insertRole ⟨fresh, name, true, now, now⟩)

/-- The permission of a name, made with the given identifier if there is none. -/
def ensurePermission (d : Directory) (fresh : Uuid) (name : String) : Uuid × Directory :=
  match d.permissions.find? (·.name = name) with
  | some p => (p.id, d)
  | none => (fresh, d.insertPermission ⟨fresh, name⟩)

/-- Adds a user unless its address is taken; says whether it was added. -/
def createUser (d : Directory) (u : User) : Bool × Directory :=
  if (d.byEmail u.email).isSome then (false, d) else (true, d.insertUser u)

/-- The directory after a change, or the one before it if the change failed. -/
def keep (d : Directory) (changed : Except Failure Directory) :
    Except Failure Unit × Directory :=
  match changed with
  | .ok d => (.ok (), d)
  | .error e => (.error e, d)

/-- The answer to a call and the directory after it, at a time and with an identifier for what is
made. -/
def answer (now : Instant) (fresh : Uuid) (call : Call) (d : Directory) :
    Except Failure call.Reply × Directory :=
  match call with
  | .byEmail email => (.ok (d.byEmail email), d)
  | .rolesOf user => (.ok (d.rolesOf user), d)
  | .permissionsOf role => (.ok (d.permissionsOf role), d)
  | .ensureRole name =>
    let (id, d) := d.ensureRole now fresh name
    (.ok id, d)
  | .ensurePermission name =>
    let (id, d) := d.ensurePermission fresh name
    (.ok id, d)
  | .grant role permission => d.keep (d.grant role permission)
  | .createUser u =>
    let (created, d) := d.createUser u
    (.ok created, d)
  | .assign user role => d.keep (d.assign user role)

end Directory

end Gatehouse
