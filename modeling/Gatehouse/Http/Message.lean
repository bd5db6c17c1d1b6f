import Gatehouse.Json.Basic
import Gatehouse.Net.Url

/-!
# Requests and responses

A request has a method, a target, header fields in their order and a body. The target is a path with
a query, or an address in full, where the path follows the scheme and the authority
(`Request.path`). Names of header fields are compared without case, and of fields with the same name
the first counts.
-/

namespace Gatehouse.Http

/-- A request. -/
structure Request where
  method : String
  /-- Path and query, perhaps behind a scheme and an authority. -/
  target : String
  /-- The header fields, name and value. -/
  headers : List (String × String)
  body : String
  deriving DecidableEq, Repr

/-- A response. -/
structure Response where
  status : Nat
  /-- The body, if it is JSON. -/
  body : Option Json

/-- A response without a JSON body. -/
def Response.bare (status : Nat) : Response := ⟨status, none⟩

namespace Request

/-- The value of the first header field of a name. -/
def header? (r : Request) (name : String) : Option String :=
  (r.headers.find? fun h => Ascii.equalFold h.1 name).map (·.2)

end Request

/-- A character that ends the authority of an address. -/
def endsAuthority (c : Char) : Bool :=
  c == '/' || c == '?' || c == '#'

/-- A target from its path on. An address in full begins with a scheme and an authority; a target
that is neither a path nor an address has no path. -/
def fromPath : List Char → List Char
  | '/' :: cs => '/' :: cs
  | cs =>
    match cs.dropWhile Net.Url.isSchemeChar with
    | ':' :: '/' :: '/' :: rest => rest.dropWhile fun c => !endsAuthority c
    | _ => []

/-- The path of the target, without its query. -/
def Request.path (r : Request) : List Char :=
  (fromPath r.target.toList).takeWhile fun c => c ≠ '?' ∧ c ≠ '#'

/-- Whether a header value can be read as text: visible ASCII, spaces and tabs. -/
def isReadable (value : String) : Bool :=
  value.toList.all fun c => c == '\t' || (' ' ≤ c && c ≤ '~')

/-- The characters that no header value contains: controls other than the tab. -/
def isForbidden (c : Char) : Bool :=
  (c.toNat < 32 && c ≠ '\t') || c.toNat == 127

end Gatehouse.Http
