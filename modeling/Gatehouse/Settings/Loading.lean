import Gatehouse.Settings.App
import Gatehouse.Settings.File

/-!
# Loading the settings

The settings come from the file `default`, the file named for the environment, and the variables,
each laid over those before it, and are then converted to `AppSettings`. `load` reports files that
cannot be read, settings that are missing or do not convert, and settings that break the rule on
secrets and lifetimes.
-/

namespace Gatehouse.Settings

/-- What settings are loaded from. -/
structure Sources where
  /-- The files of the settings directory, name and text. -/
  files : List (String × String)
  vars : List (String × String)
  deriving DecidableEq, Repr

/-- Lays the entries of a file over a tree, each at the path that its name spells. -/
def Value.withEntries (es : List (String × Value)) (tree : Value) : Value :=
  es.foldl (fun tree (name, v) => tree.set (keyPath name) v) tree

/-- Lays a file over a tree, if there is one; `none` if it cannot be read. -/
def Sources.layFile? (s : Sources) (name : String) (tree : Value) : Option Value :=
  match findFile? s.files name with
  | none => some tree
  | some (form, text) => (form.read? text).map tree.withEntries

/-- The tree of all sources, laid over each other in rising order. -/
def Sources.tree? (s : Sources) (name : String) : Option Value := do
  let tree ← s.layFile? "default" (.table [])
  let tree ← s.layFile? name tree
  return tree.withVariables s.vars

/-- The settings for an environment of the given name. -/
def Sources.load (s : Sources) (name : String) : Except Failure AppSettings :=
  match s.tree? name with
  | none => .error (.configuration "Failed to build config")
  | some tree =>
    match AppSettings.read .tree tree with
    | none => .error (.configuration "Failed to deserialize config")
    | some settings => settings.auth.validate.map fun _ => settings

end Gatehouse.Settings
