import Gatehouse.Api.Service
import Gatehouse.CommandLine.Invocation
import Gatehouse.Directory.Seeding
import Gatehouse.Host
import Gatehouse.Http.Line
import Gatehouse.Settings.Loading
import Gatehouse.Store.Backend
import Std.Time.DateTime.Timestamp

/-!
# The program

Reads the command line and the settings, and serves requests that arrive as lines on standard input
or seeds a directory. The directory is in memory and empty at the start, so serving begins with
seeding it as well, with the administrator that the variables ask for.
-/

namespace Gatehouse.Program

open Time (Instant)

/-- What is printed when help is asked for. -/
def usage : String :=
  "Usage: gatehouse [--env ENV] [serve | seed [--admin-email EMAIL] " ++
    "[--admin-password PASSWORD] [--admin-name NAME]]"

/-- The bytes of a file, if it can be read. -/
def readFile? (path : String) : IO (Option ByteArray) := do
  try
    return some (← IO.FS.readBinFile path)
  catch _ =>
    return none

/-- The pair of name and value that an entry of the environment spells. -/
def variableOf? (entry : String) : Option (String × String) :=
  let name := entry.toList.takeWhile (· ≠ '=')
  match entry.toList.drop name.length with
  | _ :: value => some (String.ofList name, String.ofList value)
  | [] => none

/-- The variables of the environment. -/
def readVariables : IO (List (String × String)) := do
  let bytes := (← readFile? "/proc/self/environ").getD .empty
  return (((String.fromUTF8? bytes).getD "").splitOn "\x00").filterMap variableOf?

/-- The settings files for an environment; one that is no text is given as a text that cannot be
read as settings. -/
def readFiles (environment : String) : IO (List (String × String)) := do
  let mut files := []
  for base in ["default", environment] do
    for ending in ["", ".toml", ".json"] do
      let name := base ++ ending
      match ← readFile? ("config/" ++ name) with
      | some bytes => files := (name, (String.fromUTF8? bytes).getD "\x00") :: files
      | none => pure ()
  return files

/-- The time. -/
def readClock : IO Instant := do
  let nanos := (← Std.Time.Timestamp.now).toNanosecondsSinceUnixEpoch.val
  return ⟨nanos / Time.nanosPerSecond, (nanos % Time.nanosPerSecond).toNat⟩

/-- The host with the time of both clocks set anew. -/
def refresh (h : Host) : IO Host := do
  return { h with now := ← readClock, moment := ← IO.monoNanosNow }

/-- Reports a failure. -/
def report (e : Failure) : IO UInt32 := do
  IO.eprintln ("Command failed: " ++ e.render)
  return 1

/-- What is printed after seeding. -/
def seedingText (r : Seeding.Report) : String :=
  match r.admin with
  | some (.created id) => "Seeding completed, admin created: " ++ id.text
  | some (.existing id) => "Seeding completed, existing user granted Admin: " ++ id.text
  | none => "Seeding completed without an admin user"

/-- Seeds the directory of a host. -/
def seed (settings : Settings.AppSettings) (account : Option AdminAccount) (h : Host) :
    Except Failure (Seeding.Report × Host) := do
  let hasher ← PasswordHasher.ofSettings settings.auth
  match h.run (Seeding.seed hasher account) with
  | (.finished r, h) => return (← r, h)
  | (.crashed, _) => throw (.internal "Seeding broke off")

/-- The services for settings whose credential store is one in memory. -/
def services (settings : Settings.AppSettings) : Except Failure Services := do
  match ← Store.Backend.ofSettings settings.store with
  | .redis _ _ => throw Store.Redis.unreachable
  | .memory => Services.ofSettings settings.auth

/-- The response to a line. -/
def respond (app : Api.App) (h : Host) (line : String) : Http.Response × Host :=
  match Http.Request.ofLine? line with
  | none => (.bare 400, h)
  | some request =>
    match h.run (app.handle request) with
    | (.finished (.ok response), h) => (response, h)
    | (.finished (.error e), h) => (Api.failed e, h)
    | (.crashed, h) => (.bare 500, h)

/-- Responds to line after line. -/
partial def serve (app : Api.App) (input output : IO.FS.Stream) (h : Host) : IO UInt32 := do
  let line ← input.getLine
  if line.isEmpty then return 0
  let (response, h) := respond app (← refresh h) line
  output.putStrLn response.line
  output.flush
  serve app input output h

/-- Carries out a command line with given variables. -/
def runCommand (vars : List (String × String)) (invocation : CommandLine.Invocation) :
    IO UInt32 := do
  let files ← readFiles invocation.environment
  let sources : Settings.Sources := ⟨files, vars⟩
  let host := Host.start (← readClock) (← IO.monoNanosNow) (← IO.getRandomBytes 32).toList
  match sources.load invocation.environment with
  | .error e => report e
  | .ok settings =>
    match invocation.command with
    | some (.seed options) =>
      match seed settings options.admin host with
      | .error e => report e
      | .ok (r, _) =>
        IO.println (seedingText r)
        return 0
    | some .serve | none =>
      let account := (CommandLine.readSeed vars []).toOption.bind (·.admin)
      match services settings, seed settings account host with
      | .error e, _ | _, .error e => report e
      | .ok services, .ok (_, host) =>
        serve ⟨services, false⟩ (← IO.getStdin) (← IO.getStdout) host

end Gatehouse.Program

/-- Runs the program on its command line. -/
def main (words : List String) : IO UInt32 := do
  let vars ← Gatehouse.Program.readVariables
  match Gatehouse.CommandLine.read vars words with
  | .ok invocation => Gatehouse.Program.runCommand vars invocation
  | .error .displayHelp =>
    IO.println Gatehouse.Program.usage
    return 0
  | .error .displayVersion =>
    IO.println ("gatehouse " ++ Gatehouse.Api.version)
    return 0
  | .error refusal =>
    IO.eprintln ("error: " ++ refusal.name ++ "\n" ++ Gatehouse.Program.usage)
    return 2
