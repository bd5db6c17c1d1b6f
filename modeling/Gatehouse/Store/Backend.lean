import Gatehouse.Settings.App
import Gatehouse.Store.Memory
import Gatehouse.Store.Redis
import Gatehouse.Store.RedisUrl

/-!
# Choosing the credential store

The settings name the store by a word. A name that is not known is reported, and so is an address
that cannot be read.
-/

namespace Gatehouse.Store

/-- The store that the settings choose. -/
inductive Backend where
  | memory
  /-- A Redis server at an address, with what every key begins with. -/
  | redis (url keyStart : String)
  deriving DecidableEq, Repr

/-- The failure for a store of an unknown name. -/
def unknownBackend (name : String) : Failure :=
  .configuration ("Unknown cache provider: '" ++ name ++ "'. Supported: memory, redis")

/-- The store that settings choose. -/
def Backend.ofSettings (s : Settings.StoreSettings) : Except Failure Backend :=
  match s.provider with
  | "memory" => .ok .memory
  | "redis" =>
    if RedisUrl.isReadable s.redisUrl then .ok (.redis s.redisUrl s.keyStart)
    else .error Redis.badUrl
  | name => .error (unknownBackend name)

end Gatehouse.Store
