import Gatehouse.Failure
import Gatehouse.Http.Message

/-!
# Bearer tokens

A request shows its token in the header field `Authorization`, after the word `Bearer` and a space.
-/

namespace Gatehouse.Api

/-- What stands in front of a token. -/
def bearerWord : List Char := "Bearer ".toList

/-- The token that a request shows. -/
def bearerToken (r : Http.Request) : Except Failure String :=
  match (r.header? "Authorization").filter Http.isReadable with
  | none => .error (.unauthorized "Missing Authorization header")
  | some value =>
    let cs := value.toList
    let token := Ascii.trim (cs.drop bearerWord.length)
    if bearerWord.isPrefixOf cs ∧ token ≠ [] then .ok (String.ofList token)
    else .error (.unauthorized "Invalid Authorization header format")

end Gatehouse.Api
