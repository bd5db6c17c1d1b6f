import Gatehouse.Base64
import Gatehouse.Digest.Hmac
import Gatehouse.Json.Printer
import Gatehouse.Json.Reader

/-!
# Signed tokens in compact form

A signed token is three Base64 texts joined by points: header, payload and signature. The signature
is the keyed digest of all that stands before the last point (`sign`). `Parts.split?` takes a token
apart at its last two points.
-/

namespace Gatehouse.Token

/-- The octet of a point. -/
def point : UInt8 := 46

/-- A token without its signature: header and payload. -/
def signedPart (header payload : Bytes) : Bytes :=
  Base64.encodeOctets Base64.urlSafe header ++ point :: Base64.encodeOctets Base64.urlSafe payload

/-- The signature of the part before the last point. -/
def signature (key signed : Bytes) : Bytes :=
  (Digest.hmacSha256 key signed).toList

/-- The octets of the token with the given header and payload. -/
def sign (key header payload : Bytes) : Bytes :=
  let signed := signedPart header payload
  signed ++ point :: Base64.encodeOctets Base64.urlSafe (signature key signed)

/-- The parts of an octet string before and after the last point. -/
def splitLast? (octets : Bytes) : Option (Bytes × Bytes) :=
  match octets.reverse.dropWhile (· ≠ point) with
  | [] => none
  | _ :: front => some (front.reverse, (octets.reverse.takeWhile (· ≠ point)).reverse)

/-- The parts of a token. -/
structure Parts where
  /-- What stands before the last point. -/
  signed : Bytes
  /-- The header, in Base64. -/
  header : Bytes
  /-- The payload, in Base64. -/
  payload : Bytes
  /-- The signature, in Base64. -/
  signature : Bytes
  deriving DecidableEq, Repr

/-- The parts of a token, taken apart at the last two points. -/
def Parts.split? (token : String) : Option Parts := do
  let (signed, signature) ← splitLast? (Bytes.ofString token)
  let (header, payload) ← splitLast? signed
  return ⟨signed, header, payload, signature⟩

/-- The JSON of a Base64 part. -/
def partJson? (part : Bytes) : Option Json :=
  (Base64.decodeOctets Base64.urlSafe part).toOption >>= Json.parseOctets?

/-- The payload of a token whose signature nobody has looked at. -/
def payload? (token : String) : Option Json :=
  Parts.split? token >>= fun parts => partJson? parts.payload

end Gatehouse.Token
