import Gatehouse.Failure
import Gatehouse.Time.Duration

/-!
# Calls to the credential store

The credential store maps keys to texts, each for a limited time. These are the calls that it
answers, with the type of the answer to each.
-/

namespace Gatehouse.Store

open Time (Duration)

/-- A call to the store. -/
inductive Call where
  | get (key : String)
  /-- Keeps a text under a key for some time. -/
  | set (key value : String) (ttl : Duration)
  /-- Removes a key; a key that is absent may be removed. -/
  | delete (key : String)
  | isPresent (key : String)
  | health
  deriving DecidableEq, Repr

namespace Call

/-- What a call is answered with. -/
abbrev Reply : Call → Type
  | get _ => Option String
  | set _ _ _ => Unit
  | delete _ => Unit
  | isPresent _ => Bool
  | health => Bool

/-- The name of a call in messages. -/
def name : Call → String
  | get _ => "get"
  | set _ _ _ => "set"
  | delete _ => "delete"
  | isPresent _ => "exists"
  | health => "health_check"

/-- The key that a call is about, empty for none. -/
def key : Call → String
  | get key | set key _ _ | delete key | isPresent key => key
  | health => ""

end Call

/-- The failure of a call that did not finish in time. -/
def timedOut (millis : Nat) (call : Call) : Failure :=
  .cache ("Cache " ++ call.name ++ " timed out after " ++ toString millis ++ "ms")

/-- The answer to a call that may take so many milliseconds; nothing stands for a call that takes
longer. -/
def bounded (millis : Nat) (call : Call) (answer : Option (Except Failure call.Reply)) :
    Except Failure call.Reply :=
  answer.getD (.error (timedOut millis call))

/-- A store does not keep a text for no time at all. -/
def zeroTtl (key : String) : Failure :=
  .cache ("Refusing to store '" ++ key ++ "' with zero TTL")

end Gatehouse.Store
