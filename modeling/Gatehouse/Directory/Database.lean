import Gatehouse.Directory.Call
import Gatehouse.Failure

/-!
# A directory in a database

What is reported when the database that holds the directory cannot be reached, or its address cannot
be read. Each call has a message of its own, and the cause is attached.
-/

namespace Gatehouse.Database

/-- The failure of a call that the database did not answer. -/
def failure : Directory.Call → Failure
  | .byEmail _ => .caused .database "Failed to find user by email"
  | .rolesOf _ => .caused .database "Failed to find roles of user"
  | .permissionsOf _ => .caused .database "Failed to find permissions of role"
  | .ensureRole _ => .caused .database "Failed to ensure role"
  | .ensurePermission _ => .caused .database "Failed to ensure permission"
  | .grant _ _ => .caused .database "Failed to grant permission"
  | .createUser _ => .caused .database "Failed to create user"
  | .assign _ _ => .caused .database "Failed to assign role"

/-- The failure of a check whether the database works. -/
def healthFailure : Failure :=
  .caused .database "Health check failed"

/-- The failure for an address that cannot be read. -/
def badUrl : Failure :=
  .caused .configuration "Invalid database URL"

end Gatehouse.Database
