import Gatehouse.Settings.Value

/-!
# Documents of settings

A document is a list of statements: headers of tables, headers of items of a list of tables, and
entries, each under a dotted key. `Toml.build?` puts them together. A table or a name that is given
twice makes a document invalid, and so does an entry that would reach into a value that is already
complete, or through a dotted key into a table with a header of its own.
-/

namespace Gatehouse.Settings

namespace Toml

/-- How a table of a document came about. -/
inductive Origin where
  /-- By its own header, or as an item of a list of tables. -/
  | header
  /-- By the header of a table further in. -/
  | implied
  | dotted
  deriving DecidableEq, Repr

/-- A part of a document. -/
inductive Node where
  | leaf (v : Value)
  /-- A table that more entries may reach. -/
  | table (origin : Origin) (entries : List (String × Node))
  /-- A list of tables, the latest first; entries reach the latest. -/
  | tables (items : List (List (String × Node)))

/-- Named parts of a document. -/
abbrev Entries := List (String × Node)

/-- The entries with a part under a name, in the place of the old one if there is one. -/
def put (name : String) (node : Node) : Entries → Entries
  | [] => [(name, node)]
  | (n, old) :: es => if n = name then (n, node) :: es else (n, old) :: put name node es

/-- Changes the entries of the table at a path. Tables that are missing are made with the origin
`made`; the path leads through tables of allowed origin and, where headers are allowed, the latest
items of lists of tables. -/
def within? (made : Origin) (allowed : Origin → Bool) (change : Entries → Option Entries) :
    List String → Entries → Option Entries
  | [], es => change es
  | name :: path, es =>
    match es.lookup name with
    | none => do
      let sub ← within? made allowed change path []
      return put name (.table made sub) es
    | some (.table origin sub) =>
      if allowed origin then do
        let sub ← within? made allowed change path sub
        return put name (.table origin sub) es
      else none
    | some (.tables (latest :: before)) =>
      if allowed .header then do
        let latest ← within? made allowed change path latest
        return put name (.tables (latest :: before)) es
      else none
    | some (.tables []) | some (.leaf _) => none

/-- Changes the entries of the table that a header names. -/
def underHeader? (path : List String) (change : Entries → Option Entries) (root : Entries) :
    Option Entries :=
  within? .implied (fun _ => true) change path root

/-- Adds an entry under a dotted key. The key leads through no table that has a header. -/
def addValue? (path : List String) (name : String) (v : Value) (es : Entries) : Option Entries :=
  within? .dotted (· ≠ .header)
    (fun es => if (es.lookup name).isSome then none else some (put name (.leaf v) es)) path es

/-- Opens a table by its header: it must be new, or known only from headers further in. -/
def openTable? (path : List String) (name : String) (root : Entries) : Option Entries :=
  underHeader? path (fun es =>
    match es.lookup name with
    | none => some (put name (.table .header []) es)
    | some (.table .implied sub) => some (put name (.table .header sub) es)
    | some _ => none) root

/-- Adds an item to a list of tables. -/
def openItem? (path : List String) (name : String) (root : Entries) : Option Entries :=
  underHeader? path (fun es =>
    match es.lookup name with
    | none => some (put name (.tables [[]]) es)
    | some (.tables items) => some (put name (.tables ([] :: items)) es)
    | some _ => none) root

mutual

/-- The settings of a part of a document. -/
def Node.value : Node → Value
  | .leaf v => v
  | .table _ es => .table (entriesValue es)
  | .tables items => .list (itemsValue items).reverse

/-- The settings of entries. -/
def entriesValue : Entries → List (String × Value)
  | [] => []
  | (name, node) :: es => (name, node.value) :: entriesValue es

/-- The settings of the items of a list of tables. -/
def itemsValue : List Entries → List Value
  | [] => []
  | es :: items => .table (entriesValue es) :: itemsValue items

end

/-- A dotted key: the names that lead to a table, and the name in it. -/
structure Key where
  path : List String
  name : String
  deriving DecidableEq, Repr

/-- All names of a key. -/
def Key.names (k : Key) : List String := k.path ++ [k.name]

/-- A line of a document that says something. -/
inductive Statement where
  | table (key : Key)
  /-- The header of an item of a list of tables. -/
  | item (key : Key)
  /-- An entry of the table that was opened last. -/
  | entry (key : Key) (v : Value)

/-- The document so far, and the names of the table that is open, with what a statement adds. -/
def step? : Entries × List String → Statement → Option (Entries × List String)
  | (root, _), .table key => (openTable? key.path key.name root).map (·, key.names)
  | (root, _), .item key => (openItem? key.path key.name root).map (·, key.names)
  | (root, current), .entry key v =>
    (underHeader? current (addValue? key.path key.name v) root).map (·, current)

/-- The settings that statements make. -/
def build? (statements : List Statement) : Option Value :=
  (statements.foldlM step? ([], [])).map fun (root, _) => .table (entriesValue root)

/-- The table of entries in braces. -/
def inlineTable? (entries : List (Key × Value)) : Option Value :=
  (entries.foldlM (fun es (e : Key × Value) => addValue? e.1.path e.1.name e.2 es) []).map
    fun es => .table (entriesValue es)

end Toml

end Gatehouse.Settings
