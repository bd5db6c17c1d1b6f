import Gatehouse.Text.Percent
import Gatehouse.Text.Split
import Gatehouse.Uuid

/-!
# Routes

The places of the service by their paths. Paths are compared as they are written; only the part that
names a session is decoded.
-/

namespace Gatehouse.Api

/-- A place of the service. -/
inductive Route where
  | login
  | refresh
  | logout
  | own
  /-- The session that the last part of the path names. -/
  | session (name : List Char)
  | health
  deriving DecidableEq, Repr

namespace Route

/-- The place at a path. -/
def ofPath? (path : List Char) : Option Route :=
  match Text.splitOn '/' path with
  | [] :: base :: edition :: parts =>
    if base = "api".toList ∧ edition = "v1".toList then
      match parts.map String.ofList with
      | ["auth", "login"] => some login
      | ["auth", "refresh"] => some refresh
      | ["auth", "logout"] => some logout
      | ["auth", "me"] => some own
      | ["admin", "sessions", name] => if name.isEmpty then none else some (session name.toList)
      | ["health"] => some health
      | _ => none
    else none
  | _ => none

/-- The method of a place. -/
def method : Route → String
  | login | refresh => "POST"
  | logout | session _ => "DELETE"
  | own | health => "GET"

/-- Whether a place takes a method; where `GET` is taken, `HEAD` is. -/
def takes (r : Route) (m : String) : Bool :=
  m == r.method || (r.method == "GET" && m == "HEAD")

end Route

/-- The session that a part of a path names. -/
def sessionOfName? (name : List Char) : Option Uuid :=
  Text.percentDecode? name >>= Uuid.parse?

end Gatehouse.Api
