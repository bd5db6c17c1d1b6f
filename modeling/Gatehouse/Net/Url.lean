import Gatehouse.Net.HostAddress
import Gatehouse.Text.Percent
import Gatehouse.Text.Split

/-!
# Addresses of resources

An address has a scheme, perhaps an authority (user, host and port), a path, and perhaps a query and
a fragment. `Url.parse?` reads one; the schemes that it is for have no rules of their own for hosts
and paths. The path of the result has no parts that are a single point or two, and the query is a
list of parameters (`Url.parameter?`).
-/

namespace Gatehouse.Net

/-- An address in parts. The parts are spelled as in the address. -/
structure Url where
  scheme : String
  /-- The user, perhaps with a colon and a password. -/
  user : List Char
  /-- The host; empty if there is none. -/
  host : List Char
  path : List Char
  query : List Char
  deriving DecidableEq, Repr

namespace Url

/-! ## Scheme -/

/-- The text of an address: without blanks and controls at its ends, and without tabs and line
breaks anywhere. -/
def clean (cs : List Char) : List Char :=
  let blank := fun (c : Char) => c.toNat ≤ 32
  (((cs.dropWhile blank).reverse.dropWhile blank).reverse).filter fun c =>
    c ≠ '\t' ∧ c ≠ '\n' ∧ c ≠ '\r'

/-- A character that the name of a scheme is made of. -/
def isSchemeChar (c : Char) : Bool :=
  Ascii.isAlphanumeric c || c == '+' || c == '-' || c == '.'

/-- The scheme in small letters, and the text after its colon. -/
def scheme? (cs : List Char) : Option (String × List Char) :=
  let name := cs.takeWhile isSchemeChar
  match name, cs.drop name.length with
  | c :: _, ':' :: rest =>
    if Ascii.isLetter c then some (String.ofList (name.map Ascii.lower), rest) else none
  | _, _ => none

/-! ## Authority -/

/-- A character that no host name contains. -/
def isForbidden (c : Char) : Bool :=
  c == '\x00' || " #/:<>?@[\\]^|".toList.contains c

/-- Whether a text is a host: a name, or an address of version 6 in brackets. -/
def isHost : List Char → Bool
  | '[' :: cs => cs.getLast? == some ']' && isAddress6 cs.dropLast
  | cs => !cs.any isForbidden

/-- Splits a text in front of the first colon outside brackets. -/
def splitHost : (inside : Bool) → List Char → List Char × List Char
  | _, [] => ([], [])
  | inside, c :: cs =>
    if c = ':' ∧ ¬inside then ([], c :: cs)
    else
      let (host, rest) := splitHost (c = '[' || (inside && c ≠ ']')) cs
      (c :: host, rest)

/-- The text after the number of a port, which may be missing. Only a backslash may follow it. -/
def afterPort? (cs : List Char) : Option (List Char) :=
  let digits := cs.takeWhile Ascii.isDigit
  if 65535 < Ascii.decimalValue digits then none
  else
    match cs.drop digits.length with
    | [] => some []
    | '\\' :: rest => some ('\\' :: rest)
    | _ => none

/-- User, host, and what follows the port of an authority. A port needs a host, and so does a user
who is more than a colon. -/
def authority? (cs : List Char) : Option (List Char × List Char × List Char) := do
  let (user, hostPort) := match Text.lastPosition? '@' cs with
    | some n => (some (cs.take n), cs.drop (n + 1))
    | none => (none, cs)
  let (host, port) := splitHost false hostPort
  if ¬isHost host ∨ (host = [] ∧ (port ≠ [] ∨ (user.getD [':']) ≠ [':'])) then none
  else
    let rest ← afterPort? (port.drop 1)
    return (user.getD [], host, rest)

/-! ## Path -/

/-- Whether a part of a path is a single point, plain or encoded. -/
def isHere (part : List Char) : Bool :=
  String.ofList (part.map Ascii.lower) ∈ [".", "%2e"]

/-- Whether a part of a path is two points, plain or encoded. -/
def isParent (part : List Char) : Bool :=
  String.ofList (part.map Ascii.lower) ∈ ["..", ".%2e", "%2e.", "%2e%2e"]

/-- Whether a part of a path begins with the letter of a drive, which two points after it do not
leave. -/
def isDrive : List Char → Bool
  | letter :: mark :: rest =>
    Ascii.isLetter letter && (mark == ':' || mark == '|') && (rest.head?.all (· == '\\'))
  | _ => false

/-- The parts that are kept, the latest first, after two points. -/
def leave : List (List Char) → List (List Char)
  | [] => []
  | last :: before => if isDrive last then last :: before else before

/-- The parts of a path after those that are kept, the latest first, without points. A path that
ends in points ends in a slash. -/
def resolve : (kept : List (List Char)) → List (List Char) → List (List Char)
  | kept, [] => kept.reverse
  | kept, part :: parts =>
    if isHere part ∨ isParent part then
      let kept := if isParent part then leave kept else kept
      resolve (if parts = [] then [] :: kept else kept) parts
    else resolve (part :: kept) parts

/-- A path without points, if it begins with a slash. -/
def resolvePath : List Char → List Char
  | '/' :: cs => '/' :: Text.joinWith '/' (resolve [] (Text.splitOn '/' cs))
  | cs => cs

/-! ## The whole address -/

/-- Reads what follows the scheme. -/
def ofRest? (scheme : String) (cs : List Char) : Option Url := do
  let cs := cs.takeWhile (· ≠ '#')
  let front := cs.takeWhile (· ≠ '?')
  let query := (cs.drop front.length).drop 1
  match front with
  | '/' :: '/' :: rest =>
    let authority := rest.takeWhile (· ≠ '/')
    let path := rest.drop authority.length
    let (user, host, odd) ← authority? authority
    return ⟨scheme, user, host, resolvePath (if odd = [] then path else '/' :: odd ++ path), query⟩
  | path => return ⟨scheme, [], [], resolvePath path, query⟩

/-- Reads an address. -/
def parse? (s : String) : Option Url := do
  let (scheme, rest) ← scheme? (clean s.toList)
  ofRest? scheme rest

/-- A name or a value of a query as a text; a plus sign stands for a space. -/
def formText? (cs : List Char) : Option String :=
  Text.percentDecode? (cs.map fun c => if c = '+' then ' ' else c)

/-- The parameters of the query, names and values. One without an equals sign has an empty value. -/
def parameters (u : Url) : List (Option String × Option String) :=
  ((Text.splitOn '&' u.query).filter (· ≠ [])).map fun part =>
    let name := part.takeWhile (· ≠ '=')
    (formText? name, formText? ((part.drop name.length).drop 1))

/-- The values of the last parameter of a name: no value if its octets are no text. -/
def parameter? (u : Url) (name : String) : Option (Option String) :=
  u.parameters.reverse.lookup (some name)

end Url

end Gatehouse.Net
