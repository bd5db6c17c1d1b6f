import Gatehouse.Session.Lifecycle

/-!
# Access of a request

A request shows an access token. It is authenticated if the token verifies and its session is live,
and authorized for a permission if moreover one of the roles of the session grants a permission of
exactly that name. The roles are asked in the order of the record, up to the first that grants it.
-/

namespace Gatehouse

/-- Who makes an authenticated request. -/
structure AuthenticatedSession where
  session : Uuid
  claims : Claims
  deriving DecidableEq, Repr

/-- Who makes an authorized request. -/
structure Principal where
  subject : Uuid
  session : Uuid
  deriving DecidableEq, Repr

/-- The failure of a request that lacks a permission. -/
def lacksPermission (permission : String) : Failure :=
  .forbidden ("Missing required permission '" ++ permission ++ "'")

/-- Whether one of the roles grants a permission; the roles are asked in order, up to the first that
grants it. -/
def isGrantedBy (permission : String) : List RoleRef → Action Bool
  | [] => return false
  | role :: roles => do
    let granted ← (Action.callDirectory (.permissionsOf role.id)).surfacing
      "Failed to resolve role permissions"
    if granted.any fun p => p.name == permission then return true
    else isGrantedBy permission roles

/-- The user of a live session whose roles grant a permission. -/
def evaluate (session : Uuid) (permission : String) : Action Uuid := do
  let r ← Session.describe session
  if ← isGrantedBy permission r.roles then return r.subject
  else Action.fail (lacksPermission permission)

namespace Services

/-- Authenticates a request by its access token. -/
def authenticate (v : Services) (token : String) : Action AuthenticatedSession := do
  let claims ← v.verifier.check .access token
  let live ← (Session.isLive claims.session).surfacing "Failed to check session"
  if live then return ⟨claims.session, claims⟩ else Action.fail Session.notLive

/-- Authorizes a request for a permission by its access token. -/
def authorize (v : Services) (token permission : String) : Action Principal := do
  let caller ← v.authenticate token
  let subject ← evaluate caller.session permission
  return ⟨subject, caller.session⟩

end Services

end Gatehouse
