import Gatehouse.Json.Plain
import Gatehouse.Token.Claims

/-!
# Registered claims

Any token may say when it expires, from when on it counts, who issued it and for whom it is. A value
that is not what such a claim should be is passed over, but only if the rest of the payload can
still be read after it (`hasReadableClaims`). A token for a certain audience is for nobody here
(`namesAudience`).
-/

namespace Gatehouse.Token

/-- The claims that every token may make, whoever issued it. -/
def registeredClaims : List String := ["exp", "nbf", "sub", "iss", "aud"]

/-- Whether the payload can be read on after a value of any shape. -/
def goesOn (j : Json) : Bool :=
  j.fault? ≠ some .inside && j.depth < Json.maxDepth

/-- Whether the payload can be read on after a value in the place of a number. A list or an object
is left at its opening bracket, so it has to be empty. -/
def goesOnAfterNumber : Json → Bool
  | .arr items => items.isEmpty
  | .obj members => members.isEmpty
  | j => goesOn j

/-- Whether the registered claims of a payload can be read, whatever they say. -/
def hasReadableClaims : Json → Bool
  | .obj members =>
    let found := Json.known registeredClaims members
    (found.map (·.1)).Nodup &&
      (found.lookup "nbf").all goesOnAfterNumber &&
      (found.lookup "iss").all goesOn &&
      (found.lookup "aud").all goesOn
  | .arr [_, _, .obj _, _, _] => false
  | _ => true

/-- Whether a payload names an audience: a text, or a list of texts. -/
def namesAudience : Json → Bool
  | .obj members =>
    match (Json.known registeredClaims members).lookup "aud" with
    | some (.str _) => true
    | some (.arr items) => items.all fun j => j.text?.isSome
    | _ => false
  | _ => false

/-- Whether a payload is an object that says when the token expires, by a number that is not
negative. -/
def hasExpiry (payload : Json) (claims : Claims) : Bool :=
  (payload matches .obj _) && 0 ≤ claims.expiresAt

end Gatehouse.Token
