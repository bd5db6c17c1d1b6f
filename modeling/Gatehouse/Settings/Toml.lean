import Gatehouse.Settings.Toml.Scalar
import Gatehouse.Settings.Toml.Text

/-!
# Settings in TOML

A document is a list of statements, each alone on its line: headers of tables (`[a.b]`), headers of
items of a list of tables (`[[a.b]]`), and entries (`a.b = 1`). `Toml.statements?` reads them and
`Value.ofToml?` puts them together.
-/

namespace Gatehouse.Settings

namespace Toml

mutual

/-- A value with at most `depth` lists and tables within each other. -/
def scanValue? : (depth fuel : Nat) → List Char → Option (Value × List Char)
  | _, 0, _ => none
  | depth, fuel + 1, cs =>
    match depth, cs with
    | depth + 1, '[' :: rest =>
      (scanItems? depth fuel rest).map fun (vs, rest) => (.list vs, rest)
    | depth + 1, '{' :: rest => do
      let (entries, rest) ← scanEntries? depth fuel rest
      let v ← inlineTable? entries
      return (v, rest)
    | _, '"' :: _ | _, '\'' :: _ => (scanString? cs).map fun (s, rest) => (.text s, rest)
    | _, cs => do
      let word := takeBare cs
      let v ← bareValue? word
      return (v, cs.drop word.length)

/-- The items of a list up to its closing bracket; a comma may follow the last one. -/
def scanItems? (depth : Nat) : (fuel : Nat) → List Char → Option (List Value × List Char)
  | 0, _ => none
  | fuel + 1, cs =>
    match skipLines fuel cs with
    | ']' :: rest => some ([], rest)
    | cs => do
      let (v, rest) ← scanValue? depth fuel cs
      match skipLines fuel rest with
      | ',' :: rest => do
        let (vs, rest) ← scanItems? depth fuel rest
        return (v :: vs, rest)
      | ']' :: rest => return ([v], rest)
      | _ => none

/-- The entries of a table in braces up to its closing brace; a comma may follow the last one. -/
def scanEntries? (depth : Nat) :
    (fuel : Nat) → List Char → Option (List (Key × Value) × List Char)
  | 0, _ => none
  | fuel + 1, cs =>
    match skipLines fuel cs with
    | '}' :: rest => some ([], rest)
    | cs => do
      let (key, rest) ← scanKey? cs
      let rest ← mark? '=' rest
      let (v, rest) ← scanValue? depth fuel (skipBlank rest)
      match skipLines fuel rest with
      | ',' :: rest => do
        let (es, rest) ← scanEntries? depth fuel rest
        return ((key, v) :: es, rest)
      | '}' :: rest => return ([(key, v)], rest)
      | _ => none

end

/-- One statement, and the text after it on its line. -/
def scanStatement? (fuel : Nat) (cs : List Char) : Option (Statement × List Char) :=
  match cs with
  | '[' :: '[' :: rest => do
    let (key, rest) ← scanKey? rest
    let rest ← mark? ']' rest >>= mark? ']'
    return (.item key, rest)
  | '[' :: rest => do
    let (key, rest) ← scanKey? rest
    let rest ← mark? ']' rest
    return (.table key, rest)
  | cs => do
    let (key, rest) ← scanKey? cs
    let rest ← mark? '=' rest
    let (v, rest) ← scanValue? maxDepth fuel (skipBlank rest)
    return (.entry key v, rest)

/-- The statements of a document, each alone on its line. -/
def statements? : (fuel : Nat) → List Char → Option (List Statement)
  | 0, _ => none
  | fuel + 1, cs =>
    match skipLines fuel cs with
    | [] => some []
    | cs => do
      let (statement, rest) ← scanStatement? fuel cs
      match skipComment (skipBlank rest) with
      | [] => return [statement]
      | rest => do
        let rest ← lineBreak? rest
        let others ← statements? fuel rest
        return statement :: others

end Toml

/-- Reads a settings tree from a TOML document. A byte order mark in front is skipped. -/
def Value.ofToml? (s : String) : Option Value :=
  let cs := match s.toList with
    | '\ufeff' :: cs => cs
    | cs => cs
  Toml.statements? (cs.length + 2) cs >>= Toml.build?

end Gatehouse.Settings
