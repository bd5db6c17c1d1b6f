import Gatehouse.Failure

/-!
# Rules on fields

A value that comes from outside is checked field by field; the faults are reported together, one
line for a field.
-/

namespace Gatehouse

/-- A field that breaks a rule. -/
structure FieldFault where
  field : String
  message : String
  deriving DecidableEq, Repr

namespace FieldFault

/-- The line of a fault. -/
def line (f : FieldFault) : String :=
  f.field ++ ": " ++ f.message

/-- The lines of faults. -/
def lines (fs : List FieldFault) : String :=
  "\n".intercalate (fs.map line)

/-- No fault if a field satisfies its rule. -/
def rule (holds : Bool) (field message : String) : List FieldFault :=
  if holds then [] else [⟨field, message⟩]

/-- The failure for a value with faults, if it has any. -/
def check (fs : List FieldFault) : Except Failure Unit :=
  if fs.isEmpty then .ok () else .error (.invalid (lines fs))

end FieldFault

end Gatehouse
