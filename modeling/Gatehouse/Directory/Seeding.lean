import Gatehouse.Directory.AdminAccount
import Gatehouse.Directory.Catalog
import Gatehouse.Password.Hasher

/-!
# Seeding the directory

Makes what is missing of the catalog, and on request an administrator. Whatever exists stays as it
is: a user whose address is that of the administrator keeps its password and only gets the role.
-/

namespace Gatehouse.Seeding

/-- What became of the administrator. -/
inductive AdminOutcome where
  | created (user : Uuid)
  /-- There was a user with this address. -/
  | existing (user : Uuid)
  deriving DecidableEq, Repr

/-- What seeding did. -/
structure Report where
  /-- The number of roles in the catalog. -/
  roles : Nat
  /-- The number of permissions in the catalog. -/
  permissions : Nat
  /-- The number of grants made sure of. -/
  grants : Nat
  /-- What became of the administrator, if one was asked for. -/
  admin : Option AdminOutcome
  deriving DecidableEq, Repr

/-- Makes sure of permissions. -/
def ensurePermissions : List String → Action Unit
  | [] => return ()
  | name :: names => do
    let _ ← Action.callDirectory (.ensurePermission name)
    ensurePermissions names

/-- Makes sure that a role grants permissions, and counts them. -/
def ensureGrants (role : Uuid) : List String → Action Nat
  | [] => return 0
  | name :: names => do
    let permission ← Action.callDirectory (.ensurePermission name)
    Action.callDirectory (.grant role permission)
    let others ← ensureGrants role names
    return 1 + others

/-- Makes sure of roles with their grants, and counts the grants. -/
def ensureRoles : List (String × List String) → Action Nat
  | [] => return 0
  | (name, permissions) :: others => do
    let role ← Action.callDirectory (.ensureRole name)
    let n ← ensureGrants role permissions
    let m ← ensureRoles others
    return n + m

/-- The failure for an address that was taken between looking it up and using it. -/
def takenMeanwhile (email : String) : Failure :=
  .invalid ("Email '" ++ email ++ "' was registered concurrently")

/-- Makes sure of an administrator. -/
def ensureAdmin (hasher : PasswordHasher) (account : AdminAccount) : Action AdminOutcome := do
  let role ← Action.callDirectory (.ensureRole Catalog.adminRole)
  match ← Action.callDirectory (.byEmail account.email) with
  | some user =>
    Action.callDirectory (.assign user.id role)
    return .existing user.id
  | none =>
    let stored ← hasher.hash account.password
    let now ← Action.now
    let id ← Action.freshId
    let user : User :=
      ⟨id, account.name, account.email, true, stored.salt, stored.hash, now, now⟩
    if ← Action.callDirectory (.createUser user) then
      Action.callDirectory (.assign id role)
      return .created id
    else Action.fail (takenMeanwhile account.email)

/-- Makes sure of the administrator that was asked for. -/
def ensureAdmin? (hasher : PasswordHasher) : Option AdminAccount → Action (Option AdminOutcome)
  | none => return none
  | some account => do
    let outcome ← ensureAdmin hasher account
    return some outcome

/-- Seeds the directory. An account that breaks a rule is reported before anything is made. -/
def seed (hasher : PasswordHasher) (account : Option AdminAccount) : Action Report := do
  Action.ofExcept (FieldFault.check (account.elim [] AdminAccount.faults))
  ensurePermissions Catalog.permissions
  let grants ← ensureRoles Catalog.roles
  let admin ← ensureAdmin? hasher account
  return ⟨Catalog.roles.length, Catalog.permissions.length, grants, admin⟩

end Gatehouse.Seeding
