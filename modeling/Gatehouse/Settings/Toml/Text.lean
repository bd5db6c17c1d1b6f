import Gatehouse.Settings.KeyPath
import Gatehouse.Settings.Toml.Document

/-!
# Blanks, strings and keys of a document

The scanners take the text from where something begins and return what they read with the text after
it. `scanString?` reads a string of any of the four forms, `scanKey?` a dotted key.
-/

namespace Gatehouse.Settings

namespace Toml

/-! ## Blanks and line breaks -/

/-- A character that may stand in a comment or, quotes apart, in a string. -/
def isPlain (c : Char) : Bool :=
  c == '\t' || (32 ≤ c.toNat && c.toNat ≠ 127)

/-- The text after a line break, if it begins with one. -/
def lineBreak? : List Char → Option (List Char)
  | '\n' :: cs => some cs
  | '\r' :: '\n' :: cs => some cs
  | _ => none

/-- The text after a comment, if it begins with one. -/
def skipComment : List Char → List Char
  | '#' :: cs => cs.dropWhile isPlain
  | cs => cs

/-- The text after blanks, comments and line breaks. -/
def skipLines : (fuel : Nat) → List Char → List Char
  | 0, cs => cs
  | fuel + 1, cs =>
    let rest := skipComment (skipBlank cs)
    match lineBreak? rest with
    | some rest => skipLines fuel rest
    | none => rest

/-- The text after blanks and line breaks. -/
def skipSpace : List Char → List Char
  | '\r' :: '\n' :: cs => skipSpace cs
  | c :: cs => if isGap c || c == '\n' then skipSpace cs else c :: cs
  | [] => []

/-! ## Strings -/

/-- The number of a run of hexadecimal digits. -/
def hexNumber? (cs : List Char) : Option Nat :=
  (cs.mapM Ascii.hexValue?).map fun ds => ds.foldl (fun n d => 16 * n + d.val) 0

/-- The character of a number of hexadecimal digits. -/
def hexChar? (cs : List Char) : Option Char :=
  (hexNumber? cs).bind fun n => if n.isValidChar then some (Char.ofNat n) else none

/-- The character of an escape, given what follows the backslash, and how many characters spell
it. -/
def escape? : List Char → Option (Char × Nat)
  | 'b' :: _ => some ('\x08', 1)
  | 't' :: _ => some ('\t', 1)
  | 'n' :: _ => some ('\n', 1)
  | 'f' :: _ => some ('\x0c', 1)
  | 'r' :: _ => some ('\r', 1)
  | 'e' :: _ => some ('\x1b', 1)
  | '"' :: _ => some ('"', 1)
  | '\\' :: _ => some ('\\', 1)
  | 'x' :: cs => if 2 ≤ cs.length then (hexChar? (cs.take 2)).map (·, 3) else none
  | 'u' :: cs => if 4 ≤ cs.length then (hexChar? (cs.take 4)).map (·, 5) else none
  | 'U' :: cs => if 8 ≤ cs.length then (hexChar? (cs.take 8)).map (·, 9) else none
  | _ => none

/-- A string on one line after its opening quote; the backslash escapes when the quote is double. -/
def lineString? (quote : Char) : (fuel : Nat) → List Char → Option (List Char × List Char)
  | 0, _ | _, [] => none
  | fuel + 1, c :: cs =>
    if c = quote then some ([], cs)
    else if c = '\\' ∧ quote = '"' then do
      let (e, n) ← escape? cs
      let (s, rest) ← lineString? quote fuel (cs.drop n)
      return (e :: s, rest)
    else if isPlain c then do
      let (s, rest) ← lineString? quote fuel cs
      return (c :: s, rest)
    else none

/-- A string over several lines after its three opening quotes and a line break. It ends at three
quotes, of which one or two more before them belong to it. Line breaks stay as they are written, and
a backslash at the end of a line skips the blanks and line breaks after it. -/
def blockString? (quote : Char) : (fuel : Nat) → List Char → Option (List Char × List Char)
  | 0, _ | _, [] => none
  | fuel + 1, c :: cs =>
    let quotes := ((c :: cs).take 5).takeWhile (· == quote)
    if 3 ≤ quotes.length then
      some (quotes.drop 3, (c :: cs).drop quotes.length)
    else if c = '\\' ∧ quote = '"' then
      match lineBreak? (skipBlank cs) with
      | some rest => blockString? quote fuel (skipSpace rest)
      | none => do
        let (e, n) ← escape? cs
        let (s, rest) ← blockString? quote fuel (cs.drop n)
        return (e :: s, rest)
    else if isPlain c ∨ (lineBreak? (c :: cs)).isSome then do
      let (s, rest) ← blockString? quote fuel cs
      return (c :: s, rest)
    else none

/-- A string of any of the four forms. -/
def scanString? (cs : List Char) : Option (String × List Char) :=
  let text := fun ((s, rest) : List Char × List Char) => (String.ofList s, rest)
  match cs with
  | '"' :: '"' :: '"' :: rest =>
    (blockString? '"' (rest.length + 1) ((lineBreak? rest).getD rest)).map text
  | '\'' :: '\'' :: '\'' :: rest =>
    (blockString? '\'' (rest.length + 1) ((lineBreak? rest).getD rest)).map text
  | '"' :: rest => (lineString? '"' (rest.length + 1) rest).map text
  | '\'' :: rest => (lineString? '\'' (rest.length + 1) rest).map text
  | _ => none

/-! ## Keys -/

/-- A name: letters, digits, underscores and hyphens, or a string on one line. -/
def scanName? (cs : List Char) : Option (String × List Char) :=
  match cs with
  | '"' :: rest => (lineString? '"' (rest.length + 1) rest).map fun (s, r) => (String.ofList s, r)
  | '\'' :: rest => (lineString? '\'' (rest.length + 1) rest).map fun (s, r) => (String.ofList s, r)
  | cs =>
    match cs.takeWhile isNameChar with
    | [] => none
    | name => some (String.ofList name, cs.drop name.length)

/-- At most `count` names joined by points, with blanks around them. -/
def scanNames? : (count : Nat) → List Char → Option (Key × List Char)
  | 0, _ => none
  | count + 1, cs => do
    let (name, rest) ← scanName? (skipBlank cs)
    match skipBlank rest with
    | '.' :: rest => do
      let (key, rest) ← scanNames? count rest
      return (⟨name :: key.path, key.name⟩, rest)
    | rest => return (⟨[], name⟩, rest)

/-- A key has at most this many names, and a value has at most this many lists and tables in braces
around it. -/
def maxDepth : Nat := 80

/-- A dotted key. -/
def scanKey? (cs : List Char) : Option (Key × List Char) :=
  scanNames? maxDepth cs

end Toml

end Gatehouse.Settings
