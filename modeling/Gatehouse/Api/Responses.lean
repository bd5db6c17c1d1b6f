import Gatehouse.Failure
import Gatehouse.Http.Message
import Gatehouse.Session.Access

/-!
# What requests are answered with

The JSON of every answer. A failure on this side of the wire is answered in the same words whatever
it was.
-/

namespace Gatehouse.Api

open Http (Response)

/-- The status of a request that failed. -/
def statusOf : Failure.Kind → Nat
  | .validation => 400
  | .unauthorized => 401
  | .forbidden => 403
  | .notFound => 404
  | .internal | .database | .cache | .serialization | .configuration => 500

/-- The code of a failure for programs. -/
def codeOf : Failure.Kind → String
  | .validation => "VALIDATION_ERROR"
  | .unauthorized => "UNAUTHORIZED"
  | .forbidden => "FORBIDDEN"
  | .notFound => "NOT_FOUND"
  | .internal | .database | .cache | .serialization | .configuration => "INTERNAL_ERROR"

/-- The text of a failure for callers. -/
def publicMessage (e : Failure) : String :=
  if e.kind.isServerSide then "Internal server error" else e.message

/-- The response to a request that failed. -/
def failed (e : Failure) : Response :=
  ⟨statusOf e.kind,
    some (.record [("error", .str (codeOf e.kind)), ("message", .str (publicMessage e))])⟩

/-- A response with data. -/
def answered (status : Nat) (data : Json) : Response :=
  ⟨status, some (.record [("success", .bool true), ("data", data)])⟩

/-- The JSON of a pair of tokens. -/
def pairJson (p : TokenPair) : Json :=
  .record [("access_token", .str p.access.text), ("refresh_token", .str p.refresh.text),
    ("token_type", .str "Bearer"), ("access_expires_in", .nat p.accessTtl),
    ("refresh_expires_in", .nat p.refreshTtl), ("issued_at", .str p.access.issuedAt.text),
    ("access_expires_at", .str p.access.expiresAt.text),
    ("refresh_expires_at", .str p.refresh.expiresAt.text)]

/-- The JSON of the caller's own session. -/
def ownSessionJson (caller : AuthenticatedSession) (r : SessionRecord) : Json :=
  .record [("user_id", r.subject.toJson), ("session_id", caller.session.toJson),
    ("roles", .arr (r.roles.map RoleRef.toJson)),
    ("expires_at", caller.claims.expiry?.elim .null fun t => .str t.text)]

/-- The JSON of a message. -/
def messageJson (text : String) : Json :=
  .record [("message", .str text)]

/-- The version of the service. -/
def version : String := "0.1.0"

/-- What is known of the database. -/
inductive DatabaseState where
  | connected
  | unreachable
  | notConfigured
  deriving DecidableEq, Repr

/-- The word for the state of the database. -/
def DatabaseState.word : DatabaseState → String
  | connected => "connected"
  | unreachable => "unreachable"
  | notConfigured => "not_configured"

/-- The response to a question after the state of the service. -/
def health (store : Bool) (database : DatabaseState) : Response :=
  let healthy := store && database ≠ .unreachable
  answered (if healthy then 200 else 503)
    (.record [("status", .str (if healthy then "ok" else "degraded")), ("version", .str version),
      ("cache", .str (if store then "connected" else "unreachable")),
      ("database", .str database.word)])

end Gatehouse.Api
