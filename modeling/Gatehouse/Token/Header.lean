import Gatehouse.Json.Shape

/-!
# Headers of tokens

The header of a token names the algorithm of its signature. It is an object whose registered
parameters have their types and come once; any other parameter is a text.
-/

namespace Gatehouse.Token

/-- The algorithms that a header may name. -/
def algorithms : List String :=
  ["HS256", "HS384", "HS512", "ES256", "ES384", "RS256", "RS384", "RS512", "PS256", "PS384",
    "PS512", "EdDSA"]

/-- The algorithm of the tokens issued here. -/
def ownAlgorithm : String := "HS256"

/-- The header of the tokens issued here. -/
def ownHeader : String := "\x7b\"typ\":\"JWT\",\"alg\":\"HS256\"\x7d"

/-- Registered parameters that are a text, or null. -/
def textParameters : List String :=
  ["typ", "cty", "jku", "kid", "x5u", "x5t", "x5t#S256", "url", "nonce", "enc", "zip"]

/-- Registered parameters that are a list of texts, or null. -/
def listParameters : List String := ["crit", "x5c"]

/-- All registered parameters; a key given in the header is not taken. -/
def parameters : List String := "alg" :: "jwk" :: textParameters ++ listParameters

/-- Whether a parameter has its type. -/
def isWellTyped (name : String) (j : Json) : Bool :=
  if name ∈ textParameters then (j.option? Json.text?).isSome
  else if name ∈ listParameters then (j.option? (Json.list? Json.text?)).isSome
  else if name = "jwk" then j matches .null
  else if name = "alg" then true
  else j.text?.isSome

/-- The algorithm that a header names. -/
def algorithm? : Json → Option String
  | .obj members => do
    let names ← Json.keys? members
    let fs ← Json.fields? parameters (.obj members)
    if (names.zip members).all fun (name, _, j) => isWellTyped name j then
      Json.required fs "alg" (Json.choice? fun s => if s ∈ algorithms then some s else none)
    else none
  | _ => none

end Gatehouse.Token
