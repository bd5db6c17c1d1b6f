import Gatehouse.Action
import Gatehouse.Settings.Auth
import Gatehouse.Token.Claims
import Gatehouse.Token.Compact
import Gatehouse.Token.Header

/-!
# Issuing tokens

`TokenIssuer.issue` makes a signed token for a user with a session of its own. A lifetime too long
to be counted in milliseconds is a failure; one that leads out of the calendar makes the action
break off.
-/

namespace Gatehouse

open Time (Duration Instant)

/-- The keys and lifetimes of tokens. -/
structure TokenIssuer where
  accessKey : Bytes
  refreshKey : Bytes
  /-- The lifetime of access tokens in seconds. -/
  accessTtl : Nat
  /-- The lifetime of refresh tokens in seconds. -/
  refreshTtl : Nat
  deriving DecidableEq, Repr

/-- A token and its session. -/
structure IssuedToken where
  session : Uuid
  text : String
  issuedAt : Instant
  expiresAt : Instant
  deriving DecidableEq, Repr

namespace TokenIssuer

/-- The issuer for settings that satisfy their rule. -/
def ofSettings (s : Settings.AuthSettings) : Except Failure TokenIssuer :=
  s.validate.map fun _ =>
    ⟨Bytes.ofString s.accessSecret, Bytes.ofString s.refreshSecret, s.accessTtl, s.refreshTtl⟩

/-- The key of a kind of token. -/
def key (i : TokenIssuer) : TokenKind → Bytes
  | .access => i.accessKey
  | .refresh => i.refreshKey

/-- The lifetime of a kind of token in seconds. -/
def ttl (i : TokenIssuer) : TokenKind → Nat
  | .access => i.accessTtl
  | .refresh => i.refreshTtl

/-- How long the session of a kind of token is kept. -/
def sessionTtl (i : TokenIssuer) (kind : TokenKind) : Duration :=
  .ofSeconds (i.ttl kind)

/-- The text for diagnostics, without the keys. -/
def describe (i : TokenIssuer) : String :=
  "JwtEncoder \x7b access_ttl: " ++ toString i.accessTtl ++ "s, refresh_ttl: " ++
    toString i.refreshTtl ++ "s, .. \x7d"

/-- The greatest number of seconds whose milliseconds are a signed integer of 64 bits. -/
def maxLifetime : Nat := 9223372036854775

/-- The failure for a lifetime beyond `maxLifetime`. -/
def lifetimeOutOfRange : Failure :=
  .internal "Token lifetime out of range: Source duration value is out of range for the target type"

/-- The text of the token with the given claims. -/
def encode (i : TokenIssuer) (claims : Claims) : String :=
  let octets := Token.sign (i.key claims.kind) (Bytes.ofString Token.ownHeader)
    (Bytes.ofString claims.toJson.compact)
  String.ofList (octets.map fun o => Char.ofNat o.toNat)

/-- Issues a token of a kind for a user, with a new session. -/
def issue (i : TokenIssuer) (kind : TokenKind) (subject : Uuid) (issuedAt : Instant) :
    Action IssuedToken :=
  if maxLifetime < i.ttl kind then .fail lifetimeOutOfRange
  else
    match issuedAt.addSeconds? (i.ttl kind) with
    | none => .crash
    | some expiresAt => do
      let session ← Action.freshId
      return {
        session
        text := i.encode ⟨subject, session, kind, issuedAt.seconds, expiresAt.seconds⟩
        issuedAt
        expiresAt
      }

/-- Issues an access token now. -/
def issueAccess (i : TokenIssuer) (subject : Uuid) : Action IssuedToken := do
  let now ← Action.now
  i.issue .access subject now

/-- Issues a refresh token at the time of the access token of its pair. -/
def issueRefresh (i : TokenIssuer) (subject : Uuid) (issuedAt : Instant) : Action IssuedToken :=
  i.issue .refresh subject issuedAt

end TokenIssuer

/-- The two tokens of a pair with their lifetimes in seconds. -/
structure TokenPair where
  access : IssuedToken
  refresh : IssuedToken
  /-- The lifetime of the access token. -/
  accessTtl : Nat
  /-- The lifetime of the refresh token. -/
  refreshTtl : Nat
  deriving DecidableEq, Repr

end Gatehouse
