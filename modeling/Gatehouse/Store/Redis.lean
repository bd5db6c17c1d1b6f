import Gatehouse.Store.Call

/-!
# A credential store on a Redis server

Each call to the store is one command to the server (`Redis.command?`), and its answer is read off
the server's reply (`Redis.interpret`). Every key begins with the text set for this service.
-/

namespace Gatehouse.Store

open Time (Duration)

namespace Redis

/-- A reply of the server. -/
inductive Reply where
  | bulk (text : String)
  /-- Nothing. -/
  | nil
  | int (n : Int)
  /-- A short text such as `OK`. -/
  | status (text : String)
  | error (text : String)
  deriving DecidableEq, Repr

/-- The failure of a command that was refused, or whose reply is of no use. -/
def failure : Failure := .caused .cache "Redis error"

/-- The failure for a server that does not answer. -/
def unreachable : Failure := .caused .cache "Failed to connect to Redis"

/-- The failure for an address that cannot be read. -/
def badUrl : Failure := .caused .cache "Failed to create Redis client"

/-- The milliseconds of a time to live, as the 64 bits that are sent hold them. -/
def sentMillis (ttl : Duration) : Nat :=
  ttl.millis % 18446744073709551616

/-- The command for a call; a text is not sent to be kept for no time at all. -/
def command? (keyStart : String) : Call → Except Failure (List String)
  | .get key => .ok ["GET", keyStart ++ key]
  | .set key value ttl =>
    if sentMillis ttl = 0 then .error (zeroTtl key)
    else .ok ["SET", keyStart ++ key, value, "PX", toString (sentMillis ttl)]
  | .delete key => .ok ["DEL", keyStart ++ key]
  | .isPresent key => .ok ["EXISTS", keyStart ++ key]
  | .health => .ok ["PING"]

namespace Reply

/-- The text of a reply; nothing stands for nothing. -/
def text? : Reply → Except Failure (Option String)
  | bulk text | status text => .ok (some text)
  | int n => .ok (some (toString n))
  | nil => .ok none
  | error _ => .error failure

/-- The truth value of a reply. -/
def flag? : Reply → Except Failure Bool
  | int n => .ok (n ≠ 0)
  | status "OK" => .ok true
  | bulk "1" | status "1" => .ok true
  | bulk "0" | status "0" => .ok false
  | nil => .ok false
  | bulk _ | status _ | error _ => .error failure

/-- A reply that only has to be no refusal. -/
def done? : Reply → Except Failure Unit
  | error _ => .error failure
  | bulk _ | nil | int _ | status _ => .ok ()

end Reply

/-- The answer to a call that a reply stands for. -/
def interpret (reply : Reply) : (call : Call) → Except Failure call.Reply
  | .get _ => reply.text?
  | .set _ _ _ => reply.done?
  | .delete _ => reply.done?
  | .isPresent _ => reply.flag?
  | .health =>
    match reply.text? with
    | .ok (some text) => .ok (text == "PONG")
    | .ok none => .error failure
    | .error e => .error e

/-- The answer to a call, given how the server replies to a command. -/
def answer (keyStart : String) (server : List String → Reply) (call : Call) :
    Except Failure call.Reply :=
  match command? keyStart call with
  | .error e => .error e
  | .ok command => interpret (server command) call

end Redis

end Gatehouse.Store
