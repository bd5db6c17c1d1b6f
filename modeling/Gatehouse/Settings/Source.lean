import Gatehouse.Json.Shape
import Gatehouse.Settings.Value

/-!
# Where records of settings are read from

A record of settings is read in the same way from a JSON text and from a settings tree; the two
differ in what they accept for a leaf. A `Source` says how leaves and fields are read.
-/

namespace Gatehouse.Settings

/-- How leaves and fields are read from a tree of some kind. -/
structure Source (ρ : Type) where
  text? : ρ → Option String
  /-- A natural number below a bound. -/
  natBelow? : Nat → ρ → Option Nat
  /-- The values of the named fields. -/
  fields? : List String → ρ → Option (List (String × ρ))

namespace Source

/-- JSON, where leaves have exactly the type of the setting. -/
def json : Source Json := ⟨Json.text?, Json.natBelow?, Json.fields?⟩

/-- A settings tree, where leaves are converted. -/
def tree : Source Value := ⟨Value.text?, Value.natBelow?, Value.fields?⟩

variable {ρ α : Type}

/-- The value of a field that has to be there. -/
def required (fields : List (String × ρ)) (name : String) (read : ρ → Option α) : Option α :=
  (fields.lookup name).bind read

/-- The value of a field, or a default where it is missing. -/
def withDefault (fields : List (String × ρ)) (name : String) (default : α)
    (read : ρ → Option α) : Option α :=
  match fields.lookup name with
  | none => some default
  | some v => read v

end Source

end Gatehouse.Settings
