import Gatehouse.Http.Message
import Gatehouse.Text.Split

/-!
# Media types

The type of a body is a type and a subtype, perhaps with a suffix after a plus sign, and parameters.
A body is JSON if it is of the type `application`, with the subtype or the suffix `json`.
-/

namespace Gatehouse.Http

/-- A character of a token. -/
def isTokenChar (c : Char) : Bool :=
  Ascii.isAlphanumeric c || "!#$%&'*+-.^_|~".toList.contains c || c == '\x60'

/-- A media type, without its parameters. -/
structure MediaType where
  main : String
  /-- The subtype up to the last plus sign, in small letters. -/
  sub : String
  /-- What follows the last plus sign, in small letters. -/
  suffix : Option String
  deriving DecidableEq, Repr

/-- A character that may stand between quotes. -/
def isQuotable (c : Char) : Bool :=
  ' ' ≤ c && c ≠ '\x7f'

/-- The text after a value between quotes, given what follows the opening quote. The first character
of the value may be a quote itself; spaces after the closing quote are skipped. -/
def skipQuoted? : List Char → Option (List Char)
  | [] => none
  | c :: cs =>
    if isQuotable c then
      match cs.dropWhile fun c => c ≠ '"' ∧ isQuotable c with
      | '"' :: rest => some (rest.dropWhile (· == ' '))
      | _ => none
    else none

/-- The text after the value of a parameter: a token, or a text between quotes. Nothing follows a
value that is empty. -/
def skipValue? : List Char → Option (List Char)
  | '"' :: cs => skipQuoted? cs
  | cs =>
    let value := cs.takeWhile isTokenChar
    if value = [] ∧ cs ≠ [] then none else some (cs.drop value.length)

/-- Whether a text is a list of parameters with semicolons between them; a semicolon and spaces may
follow the last. -/
def areParameters : (fuel : Nat) → List Char → Bool
  | 0, _ => false
  | fuel + 1, cs =>
    match cs.dropWhile (· == ' ') with
    | [] => true
    | cs =>
      let name := cs.takeWhile isTokenChar
      match name, cs.drop name.length with
      | _ :: _, '=' :: rest =>
        match skipValue? rest with
        | some [] => true
        | some (';' :: rest) => areParameters fuel rest
        | _ => false
      | _, _ => false

/-- The media type of a type and a subtype. A plus sign in front of the subtype belongs to it. -/
def MediaType.ofNames (main sub : List Char) : MediaType :=
  let small := fun cs => String.ofList (cs.map Ascii.lower)
  match Text.lastPosition? '+' sub with
  | none | some 0 => ⟨small main, small sub, none⟩
  | some n => ⟨small main, small (sub.take n), some (small (sub.drop (n + 1)))⟩

/-- Reads a media type. -/
def MediaType.parse? (s : String) : Option MediaType :=
  let cs := s.toList
  let main := cs.takeWhile isTokenChar
  match main, cs.drop main.length with
  | _ :: _, '/' :: rest =>
    let sub := rest.takeWhile isTokenChar
    match sub, rest.drop sub.length with
    | _, [] => some (.ofNames main sub)
    | _ :: _, ';' :: parameters =>
      if areParameters (parameters.length + 1) parameters then some (.ofNames main sub) else none
    | _, _ => none
  | _, _ => none

/-- Whether a media type is that of JSON. -/
def MediaType.isJson (m : MediaType) : Bool :=
  m.main == "application" && (m.sub == "json" || m.suffix == some "json")

/-- Whether a request says that its body is JSON. -/
def Request.saysJson (r : Request) : Bool :=
  match r.header? "Content-Type" with
  | some value => isReadable value && (MediaType.parse? value).any MediaType.isJson
  | none => false

end Gatehouse.Http
