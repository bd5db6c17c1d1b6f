import Gatehouse.Decimal.Integer
import Gatehouse.Settings.Value

/-!
# Paths of settings

A key spells a path into a settings tree: names with points between them, and places in lists in
square brackets, as in `servers[0].port`. `keyPath` reads the path, and `Value.set` lays a value
over what stands there; names make tables and places make lists where the tree has something else.
-/

namespace Gatehouse.Settings

/-- A step of a path. -/
inductive KeyStep where
  /-- To the value of a name in a table. -/
  | name (name : String)
  /-- To the item at a place in a list; a negative place counts from the end. -/
  | index (place : Int)
  deriving DecidableEq, Repr

/-- A letter, digit, underscore or hyphen. -/
def isNameChar (c : Char) : Bool :=
  Ascii.isAlphanumeric c || c == '_' || c == '-'

/-- A space or a tab. -/
def isGap (c : Char) : Bool :=
  c == ' ' || c == '\t'

/-- The text after blanks of one line. -/
def skipBlank (cs : List Char) : List Char :=
  cs.dropWhile isGap

/-- A place in a list between brackets, and the text after the closing one. -/
def readPlace? (cs : List Char) : Option (Int × List Char) :=
  let cs := skipBlank cs
  let number := cs.takeWhile fun c => Ascii.isDigit c || c == '-'
  match skipBlank (cs.drop number.length) with
  | ']' :: rest => (Decimal.readInt64? number).map (·, rest)
  | _ => none

/-- The steps that a text spells, each a name after a point or a place in brackets. -/
def readSteps? : (fuel : Nat) → List Char → Option (List KeyStep)
  | _, [] => some []
  | 0, _ => none
  | fuel + 1, '.' :: cs =>
    match cs.takeWhile isNameChar with
    | [] => none
    | name => (readSteps? fuel (cs.drop name.length)).map (.name (String.ofList name) :: ·)
  | fuel + 1, '[' :: cs => do
    let (place, rest) ← readPlace? cs
    return .index place :: (← readSteps? fuel rest)
  | _, _ => none

/-- The path that a key spells, which begins with a name. A key that spells no path is a name of its
own. -/
def keyPath (key : String) : List KeyStep :=
  (readSteps? (key.length + 1) ('.' :: key.toList)).getD [.name key]

namespace Value

/-- Changes the item of a list at a place. A list that is too short is filled up with nothing: at
its end for a place counted from the front, and at its front for one counted from the end. -/
def changeItem (place : Int) (change : Value → Value) (items : List Value) : List Value :=
  let n := place.natAbs
  if 0 ≤ place then (items ++ List.replicate (n + 1 - items.length) nil).modify n change
  else (List.replicate (n - items.length) nil ++ items).modify (items.length - n) change

/-- The tree with a value laid over what stands at a path. -/
def set (tree : Value) (path : List KeyStep) (v : Value) : Value :=
  match path with
  | [] => merge tree v
  | .name name :: rest =>
    table (put name (set ((tree.entries.lookup name).getD nil) rest v) tree.entries)
  | .index place :: rest => list (changeItem place (fun old => set old rest v) tree.items)

end Value

end Gatehouse.Settings
