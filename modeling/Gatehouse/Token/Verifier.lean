import Gatehouse.Action
import Gatehouse.Settings.Auth
import Gatehouse.Token.Compact
import Gatehouse.Token.Header
import Gatehouse.Token.Registered

/-!
# Verifying tokens

`TokenVerifier.verify` says what a token claims, or why it is rejected. The checks come in a fixed
order, and the first that fails is reported: form, header, algorithm, signature, payload, expiry,
audience, kind.
-/

namespace Gatehouse

open Time (Instant)

namespace Token

/-- Why a token is rejected. -/
inductive Rejection where
  /-- It has fewer than two points. -/
  | format
  /-- A part is not Base64. -/
  | base64 (cause : Base64.DecodeError)
  /-- A part is not the JSON it should be. -/
  | json
  | algorithm
  /-- The signature is of another key or another text. -/
  | signature
  /-- It does not say when it expires. -/
  | noExpiry
  | expired
  /-- It is meant for a certain audience. -/
  | audience
  /-- It is of another kind than the one expected. -/
  | kind (expected : TokenKind)
  deriving DecidableEq, Repr

namespace Rejection

/-- The text of a rejection. -/
def message : Rejection → String
  | format => "Invalid token format"
  | base64 cause => "Token validation failed: Base64 error: " ++ cause.message
  | json => "Token validation failed: JSON error"
  | algorithm => "Token validation failed: InvalidAlgorithm"
  | signature => "Invalid token signature"
  | noExpiry => "Token validation failed: Missing required claim: exp"
  | expired => "Token has expired"
  | audience => "Token validation failed: InvalidAudience"
  | kind expected => "Invalid token type: expected " ++ expected.name ++ " token"

/-- The failure of a request with a rejected token. -/
def failure (r : Rejection) : Failure := .unauthorized r.message

end Rejection

/-- The octets of a Base64 part. -/
def octets (part : Bytes) : Except Rejection Bytes :=
  (Base64.decodeOctets Base64.urlSafe part).mapError .base64

/-- The second before which tokens have expired. The difference of clock and leeway is taken in 64
bits, so a leeway beyond the clock makes every token expired. -/
def expiryBound (leeway : Nat) (now : Instant) : Int :=
  (now.seconds - leeway) % 18446744073709551616

end Token

open Token

/-- The keys and the leeway by which tokens are verified. -/
structure TokenVerifier where
  accessKey : Bytes
  refreshKey : Bytes
  /-- The seconds for which an expired token is still taken. -/
  leeway : Nat
  deriving DecidableEq, Repr

namespace TokenVerifier

/-- The verifier for settings that satisfy their rule. -/
def ofSettings (s : Settings.AuthSettings) : Except Failure TokenVerifier :=
  s.validate.map fun _ => ⟨Bytes.ofString s.accessSecret, Bytes.ofString s.refreshSecret, s.leeway⟩

/-- The key of a kind of token. -/
def key (v : TokenVerifier) : TokenKind → Bytes
  | .access => v.accessKey
  | .refresh => v.refreshKey

/-- Checks header and signature. -/
def checkSignature (v : TokenVerifier) (kind : TokenKind) (parts : Parts) :
    Except Rejection Unit := do
  let header ← octets parts.header
  match Json.parseOctets? header >>= algorithm? with
  | none => throw .json
  | some algorithm =>
    if algorithm ≠ ownAlgorithm then throw .algorithm
    let given ← octets parts.signature
    if given ≠ signature (v.key kind) parts.signed then throw .signature

/-- The claims of a payload that can be used at a time. -/
def readClaims (v : TokenVerifier) (now : Instant) (payload : Json) : Except Rejection Claims :=
  match Claims.ofJson? payload with
  | none => .error .json
  | some claims =>
    if ¬hasReadableClaims payload then .error .json
    else if ¬hasExpiry payload claims then .error .noExpiry
    else if claims.expiresAt < expiryBound v.leeway now then .error .expired
    else if namesAudience payload then .error .audience
    else .ok claims

/-- What a token of an expected kind claims, or why it is rejected. -/
def verify (v : TokenVerifier) (kind : TokenKind) (now : Instant) (token : String) :
    Except Rejection Claims :=
  match Parts.split? token with
  | none => .error .format
  | some parts => do
    v.checkSignature kind parts
    let payload ← octets parts.payload
    match Json.parseOctets? payload with
    | none => throw .json
    | some payload =>
      let claims ← v.readClaims now payload
      if claims.kind ≠ kind then throw (.kind kind)
      return claims

/-- Verifies a token now. -/
def check (v : TokenVerifier) (kind : TokenKind) (token : String) : Action Claims := do
  let now ← Action.now
  Action.ofExcept ((v.verify kind now token).mapError Rejection.failure)

end TokenVerifier

end Gatehouse
