import Gatehouse.CommandLine.Words
import Gatehouse.Directory.AdminAccount

/-!
# Command lines of the program

The program serves requests, or seeds the directory and makes an administrator on request. An option
that is not on the command line is taken from its environment variable, and a variable that is set
counts even if it is empty. An address of an administrator requires a password.
-/

namespace Gatehouse.CommandLine

/-- The options for seeding. -/
structure SeedOptions where
  email : Option String
  password : Option String
  name : String
  deriving DecidableEq, Repr

/-- The administrator that is asked for, by address and password. -/
def SeedOptions.admin (o : SeedOptions) : Option AdminAccount := do
  let email ← o.email
  let password ← o.password
  return ⟨o.name, email, password⟩

/-- What the program is to do. -/
inductive Command where
  | serve
  | seed (options : SeedOptions)
  deriving DecidableEq, Repr

/-- A command line that is carried out. -/
structure Invocation where
  /-- The name of the environment, for the settings. -/
  environment : String
  /-- The command, if one is named. -/
  command : Option Command
  deriving DecidableEq, Repr

/-- What the program takes. -/
def programGrammar : Grammar := ⟨["env"], true, ["serve", "seed"]⟩

/-- What serving takes. -/
def serveGrammar : Grammar := ⟨[], false, []⟩

/-- What seeding takes. -/
def seedGrammar : Grammar := ⟨["admin-email", "admin-password", "admin-name"], false, []⟩

/-- The value of an option, from the command line or from a variable. -/
def valueOf (s : Scan) (vars : List (String × String)) (option name : String) :
    Option String :=
  (s.given.lookup option).or (vars.lookup name)

/-- Reads the options for seeding. -/
def readSeed (vars : List (String × String)) (words : List String) :
    Except Refusal SeedOptions := do
  let (s, _) ← scan seedGrammar .start words
  let email := valueOf s vars "admin-email" "USERSVC_SEED_ADMIN_EMAIL"
  let password := valueOf s vars "admin-password" "USERSVC_SEED_ADMIN_PASSWORD"
  if email.isSome ∧ password.isNone then throw .missingRequiredArgument
  return ⟨email, password, (s.given.lookup "admin-name").getD "Administrator"⟩

/-- What help is asked about: nothing, or a command of the program. -/
def readHelp (words : List String) : Refusal :=
  match words with
  | [] => .displayHelp
  | [word] => if programGrammar.namesCommand word then .displayHelp else .invalidSubcommand
  | _ => .invalidSubcommand

/-- Reads a command by its name and the words after it. -/
def readCommand (vars : List (String × String)) (name : String) (words : List String) :
    Except Refusal Command :=
  match name with
  | "serve" => (scan serveGrammar .start words).map fun _ => .serve
  | "seed" => (readSeed vars words).map .seed
  | _ => .error (readHelp words)

/-- Reads a command line, without the name of the program. -/
def read (vars : List (String × String)) (words : List String) :
    Except Refusal Invocation := do
  let (s, named) ← scan programGrammar .start words
  let command ← match named with
    | none => pure none
    | some (name, words) => (readCommand vars name words).map some
  let s ← s.settle
  return ⟨(valueOf s vars "env" "USERSVC_ENV").getD "development", command⟩

end Gatehouse.CommandLine
