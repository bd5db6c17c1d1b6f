/-!
# The catalog of roles and permissions

The permissions that the service knows, and the roles that exist from the start with the permissions
each one grants.
-/

namespace Gatehouse.Catalog

/-- The role of administrators. -/
def adminRole : String := "Admin"

/-- The permission to end the session of another user. -/
def revokeSession : String := "Revoke-Session"

/-- Every permission. -/
def permissions : List String :=
  ["List-User", "View-User", "Create-User", "Update-User", "Delete-User",
    "List-Role", "View-Role", "Create-Role", "Update-Role", "Delete-Role",
    "List-Permission", "View-Permission", "Create-Permission", "Update-Permission",
    "Delete-Permission", revokeSession]

/-- The roles that exist from the start, each with the permissions it grants. -/
def roles : List (String × List String) :=
  [(adminRole, permissions),
    ("Manager", ["List-User", "View-User", "Create-User", "Update-User", "List-Role", "View-Role",
      "Create-Role", "Update-Role", "List-Permission", "View-Permission"]),
    ("User", ["List-User", "View-User", "Create-User", "Update-User"]),
    ("Guest", ["View-User", "View-Role", "View-Permission"])]

theorem mem_permissions_of_mem_roles :
    ∀ r ∈ roles, ∀ p ∈ r.2, p ∈ permissions := by
  decide

end Gatehouse.Catalog
