import Gatehouse.Decimal.Shortest
import Gatehouse.Text.Ascii

/-!
# Settings as a tree

What a settings file or a variable gives: tables of named values, nested. `Value.merge` lays one
tree over another, table by table. `Value.text?` and `Value.natBelow?` convert a leaf to the type of
the setting it is for.
-/

namespace Gatehouse.Settings

/-- A value in a settings tree. -/
inductive Value where
  /-- Nothing. -/
  | nil
  | flag (b : Bool)
  | int (i : Int)
  | real (x : Decimal.Binary64)
  | text (s : String)
  | list (items : List Value)
  | table (entries : List (String × Value))
  deriving Repr, Inhabited

namespace Value

/-- The entries of a table; none of anything else. -/
def entries : Value → List (String × Value)
  | table es => es
  | _ => []

/-- The items of a list; none of anything else. -/
def items : Value → List Value
  | list vs => vs
  | _ => []

/-- The entries with a value for a name, in the place of the old one if there is one. -/
def put (name : String) (v : Value) : List (String × Value) → List (String × Value)
  | [] => [(name, v)]
  | (n, old) :: es => if n = name then (n, v) :: es else (n, old) :: put name v es

mutual

/-- One tree laid over another. A table is laid over a table name by name, and over anything else as
if that were empty; any other value replaces what was there. -/
def merge (under : Value) : Value → Value
  | table es => table (mergeEntries under.entries es)
  | v => v

/-- Entries laid over entries. -/
def mergeEntries (under : List (String × Value)) : List (String × Value) → List (String × Value)
  | [] => under
  | (name, v) :: es => mergeEntries (put name (merge ((under.lookup name).getD nil) v) under) es

end

/-- A leaf as a text: a truth value by its name, a number by its decimal digits, a
double-precision number without exponent. -/
def text? : Value → Option String
  | text s => some s
  | flag b => some (if b then "true" else "false")
  | int i => some (toString i)
  | real x => some x.positional
  | nil | list _ | table _ => none

/-- The number that a text stands for: `true`, `on` and `yes` are one, `false`, `off` and `no` zero
in letters of any case; else decimal digits, with a plus sign or without. -/
def wordNumber? (s : String) : Option Nat :=
  match Ascii.lowerString s with
  | "true" | "on" | "yes" => some 1
  | "false" | "off" | "no" => some 0
  | _ =>
    let digits := match s.toList with
      | '+' :: ds => ds
      | ds => ds
    if digits ≠ [] ∧ digits.all Ascii.isDigit then some (Ascii.decimalValue digits) else none

/-- The least number that does not fit in 64 bits. -/
def bound64 : Nat := 18446744073709551616

/-- A leaf as a natural number of 64 bits. A double-precision number is rounded to the nearest, a
half away from zero, and held within the bounds. -/
def nat64? : Value → Option Nat
  | flag b => some (if b then 1 else 0)
  | int i => if 0 ≤ i then some i.toNat else none
  | real x => some (x.toNatBelow bound64)
  | text s => (wordNumber? s).filter (· < bound64)
  | nil | list _ | table _ => none

/-- A leaf as a natural number below a bound. -/
def natBelow? (bound : Nat) (v : Value) : Option Nat :=
  v.nat64?.filter (· < bound)

/-- The values of the named fields of a record, given as a table or as a list of the fields in
order. -/
def fields? (names : List String) : Value → Option (List (String × Value))
  | table es => some es
  | list items => some (names.zip items)
  | _ => none

end Value

end Gatehouse.Settings
