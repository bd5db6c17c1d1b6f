import Gatehouse.Password.Hasher
import Gatehouse.Session.Store
import Gatehouse.Token.Issuer
import Gatehouse.Token.Verifier

/-!
# The life of a session

Logging in makes a pair of sessions, one for each of two tokens; a refresh token is exchanged for a
new pair, after which the old one is removed; logging out removes a session, or a session and its
pair. A pair is handed out only after both of its records are kept, and an old pair is removed only
after that.
-/

namespace Gatehouse

namespace Session

/-- The one failure of every login that is rejected, so that it does not tell why. -/
def badCredentials : Failure :=
  .unauthorized "Invalid email or password"

/-- Removes a session. -/
def logout (session : Uuid) : Action Unit :=
  (revoke session).surfacing "Failed to revoke session"

/-- Removes a session, and the other session of its pair if the record of the first names it. -/
def logoutPair (session : Uuid) : Action Unit := do
  let found ← (load session).surfacing "Failed to load session"
  logout session
  match found.bind (·.pairedWith) with
  | some paired => logout paired
  | none => return ()

/-- The record of a live session. -/
def describe (session : Uuid) : Action SessionRecord := do
  let found ← (load session).surfacing "Failed to load session"
  Action.orFail notLive found

/-- Removes both sessions of a pair that is not handed out, whether or not that succeeds. -/
def discard (pair : TokenPair) : Action Unit := do
  let _ ← Action.bothStore (revokeCall pair.access.session) (revokeCall pair.refresh.session)
  return ()

/-- Issues a pair of tokens for a record and keeps the record for both, each bound to the other. If
one cannot be kept, the one that was kept is removed and there is no pair. -/
def issuePair (issuer : TokenIssuer) (r : SessionRecord) : Action TokenPair := do
  let access ← issuer.issueAccess r.subject
  let refresh ← issuer.issueRefresh r.subject access.issuedAt
  let (keptAccess, keptRefresh) ← Action.bothStore
    (saveCall access.session (r.bind refresh.session) (issuer.sessionTtl .access))
    (saveCall refresh.session (r.bind access.session) (issuer.sessionTtl .refresh))
  match keptAccess, keptRefresh with
  | .ok _, .ok _ => return ⟨access, refresh, issuer.accessTtl, issuer.refreshTtl⟩
  | .ok _, .error _ =>
    tryRevoke access.session
    Action.fail (.internal "Failed to persist session")
  | .error _, .ok _ =>
    tryRevoke refresh.session
    Action.fail (.internal "Failed to persist session")
  | .error _, .error _ => Action.fail (.internal "Failed to persist session")

end Session

/-- What every service works with: how tokens are issued and verified, and how passwords are
derived. -/
structure Services where
  issuer : TokenIssuer
  verifier : TokenVerifier
  hasher : PasswordHasher

namespace Services

open Session

/-- The services for settings, if these satisfy their rule and the cost of passwords can be used. -/
def ofSettings (s : Settings.AuthSettings) : Except Failure Services := do
  let issuer ← TokenIssuer.ofSettings s
  let verifier ← TokenVerifier.ofSettings s
  let hasher ← PasswordHasher.ofSettings s
  return ⟨issuer, verifier, hasher⟩

/-- Whether a password is that of a user. -/
def checkPassword (v : Services) (password : String) (user : User) : Except Failure Bool :=
  (v.hasher.verify password ⟨user.password, user.salt⟩).mapError StoredPasswordFault.failure

/-- Logs a user in: an active user with this address and this password gets a pair of tokens with
the roles that it has now. -/
def logIn (v : Services) (email password : String) : Action TokenPair := do
  let found ← (Action.callDirectory (.byEmail email)).surfacing "Failed to look up user"
  let user ← Action.orFail badCredentials found
  if ¬user.canLogIn then Action.fail badCredentials
  else
    let matched ← (Action.ofExcept (v.checkPassword password user)).surfacing
      "Failed to verify password"
    if ¬matched then Action.fail badCredentials
    else
      let roles ← (Action.callDirectory (.rolesOf user.id)).surfacing "Failed to resolve roles"
      issuePair v.issuer (.fresh user.id roles)

/-- Exchanges a refresh token for a new pair with the roles that the user has now. The attributes of
the old session are kept. -/
def refresh (v : Services) (token : String) : Action TokenPair := do
  let claims ← v.verifier.check .refresh token
  let found ← (load claims.session).surfacing "Failed to load session"
  let old ← Action.orFail notLive found
  let roles ← (Action.callDirectory (.rolesOf old.subject)).surfacing "Failed to resolve roles"
  let pair ← issuePair v.issuer { SessionRecord.fresh old.subject roles with extra := old.extra }
  match ← (revoke claims.session).attempt with
  | .error _ =>
    discard pair
    Action.fail (.internal "Failed to rotate session")
  | .ok _ =>
    match old.pairedWith with
    | some access => tryRevoke access
    | none => pure ()
    return pair

end Services

end Gatehouse
