import Gatehouse.Json.Plain
import Gatehouse.Settings.Toml
import Gatehouse.Text.Split

/-!
# Settings files

A settings file is in TOML or JSON, which the ending of its name tells, and holds a table
(`FileForm.read?`). `findFile?` finds a file by a path from the settings directory, with its ending
or without.
-/

namespace Gatehouse.Settings

/-! ## The text of a file -/

/-- The number of a setting in JSON: an integer of 64 bits, with a sign or without, or a
double-precision number. -/
def Value.ofNumber (n : Json.Number) : Value :=
  match n.toInt?.filter fun (i : Int) => -9223372036854775808 ≤ i ∧ i < bound64 with
  | some i => .int i
  | none => .real n.toBinary64

mutual

/-- The settings tree of a JSON value. -/
def Value.ofJson : Json → Value
  | .null | .garbled _ | .cut => .nil
  | .bool b => .flag b
  | .num n => .ofNumber n
  | .str s => .text s
  | .arr items => .list (valuesOfItems items)
  | .obj members => .table (entriesOfMembers members)

/-- The settings trees of JSON items. -/
def valuesOfItems : List Json → List Value
  | [] => []
  | j :: js => .ofJson j :: valuesOfItems js

/-- The settings trees of JSON members. -/
def entriesOfMembers : List (Option String × Json) → List (String × Value)
  | [] => []
  | (key, j) :: ms => (key.getD "", .ofJson j) :: entriesOfMembers ms

end

/-- The form of a settings file. -/
inductive FileForm where
  /-- TOML. -/
  | toml
  /-- JSON. -/
  | json
  deriving DecidableEq, Repr

/-- The form that the ending of a file name tells; a point in front begins no ending. -/
def FileForm.ofName? (name : String) : Option FileForm :=
  match Text.lastPosition? '.' name.toList with
  | none | some 0 => none
  | some n =>
    match String.ofList (name.toList.drop (n + 1)) with
    | "toml" => some .toml
    | "json" => some .json
    | _ => none

/-- Reads the table that a file holds. A byte order mark in front is skipped. -/
def FileForm.read? (form : FileForm) (text : String) : Option (List (String × Value)) :=
  let text := match text.toList with
    | '\ufeff' :: cs => String.ofList cs
    | _ => text
  let tree? := match form with
    | .toml => Value.ofToml? text
    | .json => (Json.plain? text).map Value.ofJson
  tree?.bind fun
    | .table es => some es
    | _ => none

/-! ## Finding a file -/

/-- Whether directories lead back to the settings directory, from there or from the directory around
it. No other directory is known. -/
def leadsBack : (inside : Bool) → List String → Bool
  | inside, [] => inside
  | true, dir :: dirs => dir == ".." && leadsBack false dirs
  | false, dir :: dirs => dir == "config" && leadsBack true dirs

/-- The parts of a path between slashes. -/
def pathParts (path : String) : List String :=
  (Text.splitOn '/' path.toList).map String.ofList

/-- The name that a path from the settings directory gives a file in that directory. Empty parts and
single points lead nowhere. -/
def fileName? (path : String) : Option String := do
  let parts := (pathParts path).filter fun part => part ≠ "" ∧ part ≠ "."
  let name ← parts.getLast?
  if name ≠ ".." ∧ leadsBack true parts.dropLast then some name else none

/-- The file at a path: with exactly this name, or with the ending of a form. A file of exactly this
name whose ending tells no form counts as missing, and a path that goes on after the name finds no
file of exactly this name. -/
def findFile? (files : List (String × String)) (path : String) : Option (FileForm × String) := do
  let name ← fileName? path
  let exact := if (pathParts path).getLast? = some name then files.lookup name else none
  match exact with
  | some text => (FileForm.ofName? name).map (·, text)
  | none =>
    match files.lookup (name ++ ".toml"), files.lookup (name ++ ".json") with
    | some text, _ => some (.toml, text)
    | none, some text => some (.json, text)
    | none, none => none

end Gatehouse.Settings
