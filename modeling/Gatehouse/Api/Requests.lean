import Gatehouse.Api.Body
import Gatehouse.Email.Address
import Gatehouse.Json.Shape
import Gatehouse.Validation

/-!
# What requests ask for

Credentials to log in with, or a refresh token to be exchanged, with their rules.
-/

namespace Gatehouse.Api

/-- Credentials to log in with. -/
structure LoginRequest where
  email : String
  password : String
  deriving DecidableEq, Repr

namespace LoginRequest

/-- The names of the fields. -/
def names : List String := ["email", "password"]

/-- Reads the JSON form. -/
def ofJson? (j : Json) : Option LoginRequest := do
  let fs ← j.fields? names
  let email ← Json.required fs "email" Json.text?
  let password ← Json.required fs "password" Json.text?
  return ⟨email, password⟩

/-- Reads the body of a request. -/
def ofRequest (r : Http.Request) : Except BodyFault LoginRequest := do
  match ← readBody names r with
  | [email, password] => return ⟨email, password⟩
  | _ => throw .misfit

/-- The rules that the credentials break. -/
def faults (q : LoginRequest) : List FieldFault :=
  FieldFault.rule (Email.isAddress q.email) "email" "A valid email is required" ++
    FieldFault.rule (!q.password.isEmpty) "password" "Password is required"

end LoginRequest

/-- A refresh token to be exchanged. -/
structure RefreshRequest where
  token : String
  deriving DecidableEq, Repr

namespace RefreshRequest

/-- The names of the fields. -/
def names : List String := ["refresh_token"]

/-- Reads the JSON form. -/
def ofJson? (j : Json) : Option RefreshRequest := do
  let fs ← j.fields? names
  let token ← Json.required fs "refresh_token" Json.text?
  return ⟨token⟩

/-- Reads the body of a request. -/
def ofRequest (r : Http.Request) : Except BodyFault RefreshRequest := do
  match ← readBody names r with
  | [token] => return ⟨token⟩
  | _ => throw .misfit

/-- The rules that the request breaks. -/
def faults (q : RefreshRequest) : List FieldFault :=
  FieldFault.rule (!q.token.isEmpty) "refresh_token" "Refresh token is required"

end RefreshRequest

end Gatehouse.Api
