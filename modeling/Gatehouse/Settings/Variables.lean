import Gatehouse.Settings.KeyPath

/-!
# Settings from environment variables

A variable whose name begins with `USERSVC__`, in letters of any case, puts a value at the path that
the rest of its name spells, two underscores between names. The text of a variable becomes a truth
value, an integer or a double-precision number if it reads as one, in this order, and stays a text
otherwise (`Value.ofText`).
-/

namespace Gatehouse.Settings

/-- What the names of variables for settings begin with, in small letters. -/
def variableStart : List Char := "usersvc__".toList

/-- Pairs of underscores become points, from the left. -/
def underscoresToPoints : List Char → List Char
  | '_' :: '_' :: cs => '.' :: underscoresToPoints cs
  | c :: cs => c :: underscoresToPoints cs
  | [] => []

/-- The small letter of a letter of a variable's name. The Kelvin sign is the only character beyond
ASCII whose small letter may stand in the name of a setting. -/
def smallLetter (c : Char) : Char :=
  if c = '\u212a' then 'k' else Ascii.lower c

/-- The path of the setting that a variable is for. -/
def variablePath? (name : String) : Option (List KeyStep) :=
  let cs := name.toList.map smallLetter
  if variableStart.isPrefixOf cs then
    some (keyPath (String.ofList (underscoresToPoints (cs.drop variableStart.length))))
  else none

/-- The power of ten after `e`, which the whole text is; zero for no text. -/
def readPower? : List Char → Option Int
  | [] => some 0
  | c :: cs =>
    let (negative, ds) := Decimal.takeSign cs
    if (c = 'e' ∨ c = 'E') ∧ ds ≠ [] ∧ ds.all Ascii.isDigit then
      some (if negative then -(Ascii.decimalValue ds) else Ascii.decimalValue ds)
    else none

/-- A double-precision number in decimal digits: a point is allowed anywhere if there is a digit. -/
def readReal? (cs : List Char) : Option Decimal.Binary64 :=
  let (negative, cs) := Decimal.takeSign cs
  match String.ofList (cs.map Ascii.lower) with
  | "nan" => some .nan
  | "inf" | "infinity" => some (.infinite negative)
  | _ =>
    let whole := cs.takeWhile Ascii.isDigit
    let rest := cs.drop whole.length
    let (fraction, rest) := match rest with
      | '.' :: rest => (rest.takeWhile Ascii.isDigit, rest.dropWhile Ascii.isDigit)
      | rest => ([], rest)
    if whole = [] ∧ fraction = [] then none
    else (readPower? rest).map fun power =>
      .ofDecimal negative (Ascii.decimalValue (whole ++ fraction)) (power - fraction.length)

/-- The value that the text of a variable stands for. -/
def Value.ofText (s : String) : Value :=
  match Ascii.lowerString s with
  | "true" => .flag true
  | "false" => .flag false
  | _ =>
    match Decimal.readInt64? s.toList with
    | some i => .int i
    | none =>
      match readReal? s.toList with
      | some x => .real x
      | none => .text s

/-- Lays the settings of variables over a tree, one after another. -/
def Value.withVariables (vars : List (String × String)) (tree : Value) : Value :=
  vars.foldl (fun tree (name, value) =>
    match variablePath? name with
    | some path => tree.set path (.ofText value)
    | none => tree) tree

end Gatehouse.Settings
