import Gatehouse.Action
import Gatehouse.Json.Plain
import Gatehouse.Json.Printer

/-!
# Values in the credential store

The store keeps texts; a value is kept as its compact JSON and read back from it. A text that does
not hold the value it should is a failure.
-/

namespace Gatehouse.Store

open Time (Duration)

/-- Keeps a value under a key for some time. -/
def keepValue (key : String) (j : Json) (ttl : Duration) : Action Unit :=
  Action.callStore (.set key j.compact ttl)

/-- The value of a key, read from its text. -/
def readValue {α : Type} (read? : String → Option α) (key : String) : Action (Option α) := do
  match ← Action.callStore (.get key) with
  | none => return none
  | some text =>
    let x ← Action.orFail .badJson (read? text)
    return some x

/-- The value of any shape of a key. -/
def plainValue (key : String) : Action (Option Json) :=
  readValue Json.plain? key

end Gatehouse.Store
