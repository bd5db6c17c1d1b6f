import Gatehouse.Directory.Role

/-!
# Claims of a token

What a token says: whose it is, which session it belongs to, its kind, and when it was issued and
expires in seconds since the epoch.
-/

namespace Gatehouse

open Time (Instant)

/-- The kind of a token. -/
inductive TokenKind where
  | access
  /-- For a new pair of tokens. -/
  | refresh
  deriving DecidableEq, Repr, Inhabited

namespace TokenKind

/-- The name of a kind. -/
def name : TokenKind → String
  | access => "access"
  | refresh => "refresh"

/-- Reads a kind from its name. -/
def ofName? : String → Option TokenKind
  | "access" => some access
  | "refresh" => some refresh
  | _ => none

@[simp] theorem ofName?_name (k : TokenKind) : ofName? k.name = some k := by
  cases k <;> rfl

end TokenKind

/-- What a token says. -/
structure Claims where
  subject : Uuid
  session : Uuid
  kind : TokenKind
  issuedAt : Int
  expiresAt : Int
  deriving DecidableEq, Repr, Inhabited

namespace Claims

/-- The instant of expiry, if it has a date. -/
def expiry? (c : Claims) : Option Instant :=
  Instant.ofSeconds? c.expiresAt

/-- The names of the claims, in order. -/
def names : List String := ["sub", "sid", "kind", "iat", "exp"]

/-- The JSON form. -/
def toJson (c : Claims) : Json :=
  .record [("sub", c.subject.toJson), ("sid", c.session.toJson), ("kind", .str c.kind.name),
    ("iat", .int c.issuedAt), ("exp", .int c.expiresAt)]

/-- Reads the JSON form; the times are signed integers of 64 bits. -/
def ofJson? (j : Json) : Option Claims := do
  let fs ← j.fields? names
  let subject ← Json.required fs "sub" Json.uuid?
  let session ← Json.required fs "sid" Json.uuid?
  let kind ← Json.required fs "kind" (Json.choice? TokenKind.ofName?)
  let issuedAt ← Json.required fs "iat" Json.int64?
  let expiresAt ← Json.required fs "exp" Json.int64?
  return ⟨subject, session, kind, issuedAt, expiresAt⟩

end Claims

end Gatehouse
