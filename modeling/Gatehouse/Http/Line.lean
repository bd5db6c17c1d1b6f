import Gatehouse.Http.Message
import Gatehouse.Json.Printer
import Gatehouse.Json.Reader
import Gatehouse.Json.Shape

/-!
# Requests and responses as lines

A front end that keeps the connections hands every request over as one line of JSON and takes the
response as another. The members of a request are `method`, `target`, `headers` (a list of pairs of
name and value) and `body`; the last two may be missing.
-/

namespace Gatehouse.Http

/-- A header field given as a pair. -/
def headerOfJson? : Json → Option (String × String)
  | .arr [.str name, .str value] => some (name, value)
  | _ => none

/-- Reads the JSON form of a request. -/
def Request.ofJson? (j : Json) : Option Request := do
  let fs ← j.fields? ["method", "target", "headers", "body"]
  let method ← Json.required fs "method" Json.text?
  let target ← Json.required fs "target" Json.text?
  let headers ← Json.withDefault fs "headers" [] (Json.list? headerOfJson?)
  let body ← Json.withDefault fs "body" "" Json.text?
  return ⟨method, target, headers, body⟩

/-- Reads a request from a line. -/
def Request.ofLine? (line : String) : Option Request :=
  Json.parse? line >>= Request.ofJson?

/-- The line of a response. -/
def Response.line (r : Response) : String :=
  (Json.record [("status", .nat r.status), ("body", r.body.getD .null)]).compact

end Gatehouse.Http
