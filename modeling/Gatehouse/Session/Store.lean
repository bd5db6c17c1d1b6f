import Gatehouse.Session.Record
import Gatehouse.Store.Values

/-!
# Sessions in the credential store

A session record is kept as JSON text under a key made from the identifier of its session. Nothing
is remembered here: every question goes to the store, which alone decides whether a session is
live.
-/

namespace Gatehouse.Session

open Time (Duration)

/-- The key of a session in the store. -/
def storeKey (session : Uuid) : String :=
  "session:" ++ session.text

/-- The text of a record in the store. -/
def recordText (r : SessionRecord) : String :=
  r.toJson.compact

/-- Reads the text of a record. -/
def readRecord? (text : String) : Option SessionRecord :=
  Json.parse? text >>= SessionRecord.ofJson?

/-- The call that keeps a record for some time. -/
def saveCall (session : Uuid) (r : SessionRecord) (ttl : Duration) : Store.Call :=
  .set (storeKey session) (recordText r) ttl

/-- The call that removes a record. -/
def revokeCall (session : Uuid) : Store.Call :=
  .delete (storeKey session)

/-- The record of a session, if it is live. -/
def load (session : Uuid) : Action (Option SessionRecord) :=
  Store.readValue readRecord? (storeKey session)

/-- Whether a session is live. -/
def isLive (session : Uuid) : Action Bool :=
  Action.callStore (.isPresent (storeKey session))

/-- Removes the record of a session; the session may be over already. -/
def revoke (session : Uuid) : Action Unit :=
  Action.callStore (revokeCall session)

/-- Removes the record of a session, whether or not that succeeds. -/
def tryRevoke (session : Uuid) : Action Unit := do
  let _ ← (revoke session).attempt
  return ()

/-- The failure of a request whose session is not live. -/
def notLive : Failure :=
  .unauthorized "Session has been revoked or has expired"

theorem storeKey_injective {s t : Uuid} (h : storeKey s = storeKey t) : s = t :=
  Uuid.text_injective (by simpa [storeKey] using h)

end Gatehouse.Session
