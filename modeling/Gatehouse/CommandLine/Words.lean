/-!
# Words of a command line

A command takes options by long names, each with one value that follows it or is attached with `=`,
the flags for help and version, and perhaps the name of a command within it. `scan` reads the words
from left to right; an option is settled when the next one begins, so a value that is missing is
noticed then.
-/

namespace Gatehouse.CommandLine

/-- Why a command line is not carried out. -/
inductive Refusal where
  /-- A flag that is not known, or a word too many. -/
  | unknownArgument
  /-- A word that names no command. -/
  | invalidSubcommand
  | invalidValue
  | argumentConflict
  /-- An option that another one requires is missing. -/
  | missingRequiredArgument
  /-- A value for a flag that takes none. -/
  | tooManyValues
  | displayHelp
  | displayVersion
  deriving DecidableEq, Repr

/-- The name of a refusal. -/
def Refusal.name : Refusal → String
  | unknownArgument => "UnknownArgument"
  | invalidSubcommand => "InvalidSubcommand"
  | invalidValue => "InvalidValue"
  | argumentConflict => "ArgumentConflict"
  | missingRequiredArgument => "MissingRequiredArgument"
  | tooManyValues => "TooManyValues"
  | displayHelp => "DisplayHelp"
  | displayVersion => "DisplayVersion"

/-- What a command takes. -/
structure Grammar where
  options : List String
  hasVersion : Bool
  /-- The names of the commands within it. -/
  commands : List String
  deriving DecidableEq, Repr

/-- A word by its form. -/
inductive Word where
  /-- Two hyphens: only plain words follow. -/
  | escape
  /-- A long flag, perhaps with a value attached. -/
  | long (name : String) (value : Option String)
  /-- A short flag, by its first letter. -/
  | short (letter : Char)
  | plain (text : String)
  deriving DecidableEq, Repr

/-- The form of a word. -/
def Word.ofString (s : String) : Word :=
  match s.toList with
  | ['-', '-'] => escape
  | '-' :: '-' :: cs =>
    let name := cs.takeWhile (· ≠ '=')
    match cs.drop name.length with
    | '=' :: value => long (String.ofList name) (some (String.ofList value))
    | _ => long (String.ofList name) none
  | '-' :: c :: _ => short c
  | _ => plain s

/-- The options read so far. -/
structure Scan where
  /-- Options with their values, the latest first. -/
  given : List (String × String)
  /-- The option that has been begun, with its value if that has been read. -/
  begun : Option (String × Option String)
  deriving DecidableEq, Repr

namespace Scan

/-- No options. -/
def start : Scan := ⟨[], none⟩

/-- Adds an option that is complete. -/
def add (s : Scan) (name value : String) : Except Refusal Scan :=
  if (s.given.lookup name).isSome then .error .argumentConflict
  else .ok ⟨(name, value) :: s.given, none⟩

/-- Settles the option that has been begun. -/
def settle (s : Scan) : Except Refusal Scan :=
  match s.begun with
  | none => .ok s
  | some (_, none) => .error .invalidValue
  | some (name, some value) => s.add name value

/-- Whether the next plain word is the value of an option. -/
def awaits (s : Scan) : Option String :=
  match s.begun with
  | some (name, none) => some name
  | _ => none

end Scan

/-- Ends with help or version, once the option before is settled. -/
def display (s : Scan) (what : Refusal) : Refusal :=
  match s.settle with
  | .ok _ => what
  | .error e => e

/-- Whether a word names a command within a command; where there are any, `help` is one. -/
def Grammar.namesCommand (g : Grammar) (word : String) : Bool :=
  word ∈ g.commands || (!g.commands.isEmpty && word == "help")

/-- How the words after a bare `--` end a command: it takes no words of its own, and a word that
names a command within it is none there. -/
def scanTrailing (g : Grammar) (s : Scan) :
    List String → Except Refusal (Scan × Option (String × List String))
  | [] => s.settle.map (·, none)
  | word :: _ =>
    .error (if g.commands.isEmpty || g.namesCommand word then .unknownArgument
      else .invalidSubcommand)

/-- Reads the words of a command up to the name of a command within it: the options, and that name
with the words after it. -/
def scan (g : Grammar) (s : Scan) :
    List String → Except Refusal (Scan × Option (String × List String))
  | [] => s.settle.map (·, none)
  | word :: words =>
    if s.awaits.isNone && g.namesCommand word then .ok (s, some (word, words))
    else
      match Word.ofString word with
      | .escape => scanTrailing g s words
      | .long name value =>
        if name ∈ g.options then
          match s.settle with
          | .error e => .error e
          | .ok s =>
            match value with
            | none => scan g { s with begun := some (name, none) } words
            | some value =>
              match s.add name value with
              | .error e => .error e
              | .ok s => scan g s words
        else if name = "help" ∨ (name = "version" ∧ g.hasVersion) then
          if value.isSome then .error .tooManyValues
          else .error (display s (if name = "help" then .displayHelp else .displayVersion))
        else .error .unknownArgument
      | .short letter =>
        if letter = 'h' then .error (display s .displayHelp)
        else if letter = 'V' ∧ g.hasVersion then .error (display s .displayVersion)
        else .error .unknownArgument
      | .plain text =>
        match s.awaits with
        | some name => scan g { s with begun := some (name, some text) } words
        | none => .error (if g.commands.isEmpty then .unknownArgument else .invalidSubcommand)

end Gatehouse.CommandLine
