import Gatehouse.Http.MediaType
import Gatehouse.Json.Plain

/-!
# Bodies of requests

A body is a JSON record of texts. It is read from front to back, and what is wrong first decides: a
text that is not JSON (status 400) or JSON of another shape (status 422). Before that the body has
to be said to be JSON (415) and must not be too long (413).
-/

namespace Gatehouse.Api

open Http (Request)

/-- What is wrong with a body. -/
inductive BodyFault where
  /-- It is not said to be JSON. -/
  | mediaType
  | length
  /-- It is not JSON. -/
  | malformed
  | misfit
  deriving DecidableEq, Repr

/-- The status of a request whose body is wrong. -/
def BodyFault.status : BodyFault → Nat
  | mediaType => 415
  | length => 413
  | malformed => 400
  | misfit => 422

/-- The greatest number of octets of a body. -/
def maxBodyLength : Nat := 2097152

/-- What is wrong with a value that should be a text or a record. -/
def faultOf : Json → BodyFault
  | .cut | .garbled _ => .malformed
  | .num n => if n.normal?.isSome then .misfit else .malformed
  | .null | .bool _ | .str _ | .arr _ | .obj _ => .misfit

/-- The text of a field. -/
def fieldText : Json → Except BodyFault String
  | .str s => .ok s
  | j => .error (faultOf j)

/-- The fields of a record given as an object, added to those found before. -/
def readMembers (names : List String) (found : List (String × String)) :
    List (Option String × Json) → Except BodyFault (List (String × String))
  | [] => .ok found
  | (none, _) :: _ => .error .malformed
  | (some name, j) :: members =>
    if name ∈ names then
      if (found.lookup name).isSome then .error .misfit
      else
        match fieldText j with
        | .ok text => readMembers names (found ++ [(name, text)]) members
        | .error e => .error e
    else if j.isWhole then readMembers names found members
    else .error .malformed

/-- The fields of a record given as an array. -/
def readItems : List String → List Json → Except BodyFault (List (String × String))
  | [], [] => .ok []
  | [], _ :: _ => .error .malformed
  | _ :: _, [] => .error .misfit
  | name :: names, j :: items => do
    let text ← fieldText j
    let others ← readItems names items
    return (name, text) :: others

/-- The text of every named field, in the order of the names. -/
def inOrder (names : List String) (found : List (String × String)) :
    Except BodyFault (List String) :=
  match names.mapM fun name => found.lookup name with
  | some texts => .ok texts
  | none => .error .misfit

/-- The texts of the fields of a record. -/
def readRecord (names : List String) (j : Json) : Except BodyFault (List String) :=
  match j with
  | .obj members => do
    let found ← readMembers names [] members
    inOrder names found
  | .arr items => do
    let found ← readItems names items
    inOrder names found
  | j => .error (faultOf j)

/-- The texts of the fields of a body. -/
def readText (names : List String) (body : String) : Except BodyFault (List String) := do
  let (j, rest) := Json.scan body.toList
  let texts ← readRecord names j
  if Json.skipSpace rest = [] then return texts else throw .malformed

/-- The texts of the fields of the body of a request. -/
def readBody (names : List String) (r : Request) : Except BodyFault (List String) :=
  if ¬r.saysJson then .error .mediaType
  else if maxBodyLength < r.body.utf8ByteSize then .error .length
  else readText names r.body

end Gatehouse.Api
