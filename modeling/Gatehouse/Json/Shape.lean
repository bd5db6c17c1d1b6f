import Gatehouse.Json.Basic

/-!
# Values of a given shape

Reading domain values off a JSON tree. A record may be given as an object, in which unknown members
are skipped and no known key may come twice, or as an array of its fields in their order, of which
the last ones may be missing. `Json.fields?` finds the values of the fields either way.
-/

namespace Gatehouse.Json

/-- The text of a string. -/
def text? : Json → Option String
  | .str s => some s
  | _ => none

/-- A truth value. -/
def flag? : Json → Option Bool
  | .bool b => some b
  | _ => none

/-- An integer within bounds. -/
def intIn? (low high : Int) : Json → Option Int
  | .num n => n.toInt?.filter fun i => low ≤ i ∧ i ≤ high
  | _ => none

/-- A natural number below a bound. -/
def natBelow? (bound : Nat) (j : Json) : Option Nat :=
  (intIn? 0 (bound - 1) j).map Int.toNat

/-- A signed integer of 64 bits. -/
def int64? : Json → Option Int :=
  intIn? (-9223372036854775808) 9223372036854775807

/-- The choice that a text names; a choice may also be the key of the only member, with the value
`null`. -/
def choice? {α : Type} (read : String → Option α) : Json → Option α
  | .str s => read s
  | .obj [(some s, .null)] => read s
  | _ => none

/-- Every item of an array, read in the same way. -/
def list? {α : Type} (read : Json → Option α) : Json → Option (List α)
  | .arr items => items.mapM read
  | _ => none

/-- A value, or nothing where `null` stands. -/
def option? {α : Type} (read : Json → Option α) : Json → Option (Option α)
  | .null => some none
  | j => (read j).map some

/-- The keys of members; `none` if one is missing. -/
def keys? (members : List (Option String × Json)) : Option (List String) :=
  members.mapM (·.1)

/-- The members whose keys are among the given names, in order. -/
def known (names : List String) (members : List (Option String × Json)) : List (String × Json) :=
  members.filterMap fun (k, j) => k.bind fun k => if k ∈ names then some (k, j) else none

/-- The values of the fields of a record, by name. -/
def fields? (names : List String) : Json → Option (List (String × Json))
  | .obj members => do
    let _ ← keys? members
    let found := known names members
    if (found.map (·.1)).Nodup then some found else none
  | .arr items => if items.length ≤ names.length then some (names.zip items) else none
  | _ => none

/-- The value of a field that has to be there. -/
def required {α : Type} (fields : List (String × Json)) (name : String)
    (read : Json → Option α) : Option α :=
  (fields.lookup name).bind read

/-- The value of a field that may be missing. -/
def withDefault {α : Type} (fields : List (String × Json)) (name : String) (default : α)
    (read : Json → Option α) : Option α :=
  match fields.lookup name with
  | none => some default
  | some j => read j

end Gatehouse.Json
