import Gatehouse.Email.Address
import Gatehouse.Text.Quoted
import Gatehouse.Validation

/-!
# The account of an administrator

The account that seeding makes on request, with its rules.
-/

namespace Gatehouse

/-- The account of an administrator. -/
structure AdminAccount where
  name : String
  /-- The address used to log in. -/
  email : String
  password : String
  deriving DecidableEq, Repr

namespace AdminAccount

/-- The rules that the account breaks. -/
def faults (a : AdminAccount) : List FieldFault :=
  FieldFault.rule (Email.isAddress a.email) "email" "A valid admin email is required" ++
    FieldFault.rule (!a.name.isEmpty) "name" "Admin name is required" ++
    FieldFault.rule (!a.password.isEmpty) "password" "Admin password is required"

/-- The text for diagnostics, without the password. -/
def describe (a : AdminAccount) : String :=
  "AdminAccount \x7b name: " ++ Text.quoted a.name ++ ", email: " ++ Text.quoted a.email ++
    ", .. \x7d"

end AdminAccount

end Gatehouse
