/-!
# Failures

What an operation reports when it does not succeed: a kind, a message for people, and whether an
underlying cause is attached. The kind alone decides whether the message may be shown to a caller
(`Failure.Kind.isServerSide`).
-/

namespace Gatehouse

namespace Failure

/-- The category of a failure. -/
inductive Kind where
  /-- The requested thing does not exist. -/
  | notFound
  /-- Bad credentials, or a token that is invalid, expired or revoked. -/
  | unauthorized
  /-- The caller is known but lacks the permission. -/
  | forbidden
  /-- The input breaks a rule on its fields. -/
  | validation
  /-- Something went wrong on this side. -/
  | internal
  /-- The database refused or could not be reached. -/
  | database
  /-- The credential store refused, failed or did not answer in time. -/
  | cache
  /-- Text could not be read as the value it should hold. -/
  | serialization
  /-- The settings do not allow the program to run. -/
  | configuration
  deriving DecidableEq, Repr, Inhabited

namespace Kind

/-- The upper-case label that is printed in front of a message. -/
def label : Kind → String
  | notFound => "NOT_FOUND"
  | unauthorized => "UNAUTHORIZED"
  | forbidden => "FORBIDDEN"
  | validation => "VALIDATION"
  | internal => "INTERNAL"
  | database => "DATABASE"
  | cache => "CACHE"
  | serialization => "SERIALIZATION"
  | configuration => "CONFIGURATION"

/-- The name under which a kind is written in JSON. -/
def name : Kind → String
  | notFound => "NotFound"
  | unauthorized => "Unauthorized"
  | forbidden => "Forbidden"
  | validation => "Validation"
  | internal => "Internal"
  | database => "Database"
  | cache => "Cache"
  | serialization => "Serialization"
  | configuration => "Configuration"

/-- Every kind, in declaration order. -/
def all : List Kind :=
  [notFound, unauthorized, forbidden, validation, internal, database, cache, serialization,
    configuration]

/-- Reads a kind from its JSON name. -/
def ofName? (s : String) : Option Kind :=
  all.find? (·.name == s)

/-- A failure on this side of the wire: its message is not for callers. -/
def isServerSide : Kind → Bool
  | internal | database | cache | serialization | configuration => true
  | notFound | unauthorized | forbidden | validation => false

end Kind

end Failure

/-- What an operation reports when it does not succeed. -/
structure Failure where
  kind : Failure.Kind
  message : String
  /-- Whether an underlying cause is attached. -/
  hasCause : Bool := false
  deriving DecidableEq, Repr, Inhabited

namespace Failure

/-- The printed form: label, colon, message. -/
def render (f : Failure) : String :=
  f.kind.label ++ ": " ++ f.message

/-- A copy carries kind and message; the cause stays with the first. -/
def copy (f : Failure) : Failure :=
  ⟨f.kind, f.message, false⟩

/-- Whether the failure is of the given kind. -/
def is (f : Failure) (k : Kind) : Bool :=
  f.kind == k

/-- A failure without a cause. -/
def plain (k : Kind) (message : String) : Failure :=
  ⟨k, message, false⟩

/-- A failure with an underlying cause. -/
def caused (k : Kind) (message : String) : Failure :=
  ⟨k, message, true⟩

/-- The requested thing does not exist. -/
def missing (message : String) : Failure := plain .notFound message

/-- The caller is not who it claims to be, or its session is over. -/
def unauthorized (message : String) : Failure := plain .unauthorized message

/-- The caller lacks a permission. -/
def forbidden (message : String) : Failure := plain .forbidden message

/-- The input breaks a rule on its fields. -/
def invalid (message : String) : Failure := plain .validation message

/-- Something went wrong on this side. -/
def internal (message : String) : Failure := plain .internal message

/-- The database refused. -/
def database (message : String) : Failure := plain .database message

/-- The credential store refused. -/
def cache (message : String) : Failure := plain .cache message

/-- The settings do not allow the program to run. -/
def configuration (message : String) : Failure := plain .configuration message

/-- Text that does not hold the JSON value it should. -/
def badJson : Failure := caused .serialization "JSON serialization error"

/-- What a caller may learn of a collaborator's failure: a failure on this side becomes an internal
one that names only what was being done; any other passes through. -/
def surface (doing : String) (f : Failure) : Failure :=
  if f.kind.isServerSide then internal doing else f

@[simp] theorem kind_plain (k : Kind) (m : String) : (plain k m).kind = k := rfl

@[simp] theorem message_plain (k : Kind) (m : String) : (plain k m).message = m := rfl

/-- What is surfaced of a server-side failure does not depend on the failure. -/
theorem surface_of_isServerSide {f : Failure} (h : f.kind.isServerSide = true) (doing : String) :
    surface doing f = internal doing := by
  simp [surface, h]

theorem surface_of_not_isServerSide {f : Failure} (h : f.kind.isServerSide = false)
    (doing : String) : surface doing f = f := by
  simp [surface, h]

end Failure

end Gatehouse
