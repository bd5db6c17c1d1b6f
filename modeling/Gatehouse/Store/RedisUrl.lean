import Gatehouse.Decimal.Integer
import Gatehouse.Net.Url

/-!
# Addresses of Redis servers

A server is reached over the network, by its host, or through a local socket, by its path. The
address may name a database, in the path or as the parameter `db`, and the version of the protocol
(`isReadable`).
-/

namespace Gatehouse.Store.RedisUrl

/-- The schemes of servers that are reached over the network. -/
def networkSchemes : List String := ["redis", "valkey"]

/-- The schemes of local sockets. -/
def socketSchemes : List String := ["unix", "redis+unix", "valkey+unix"]

/-- Whether a text is the number of a database. -/
def isNumber (cs : List Char) : Bool :=
  (Decimal.readInt64? cs).isSome

/-- Whether a path names a database by its number, or none. -/
def isDatabase (path : List Char) : Bool :=
  let name := ((path.dropWhile (· == '/')).reverse.dropWhile (· == '/')).reverse
  name.isEmpty || isNumber name

/-- Whether the value of a parameter is missing or has a property. -/
def allows (u : Net.Url) (name : String) (property : String → Bool) : Bool :=
  (u.parameter? name).all fun value => value.any property

/-- Whether the address of a server can be used: it has a host, user and password are texts, and the
path names a database or none. -/
def isServer (u : Net.Url) : Bool :=
  !u.host.isEmpty && (Text.percentDecode? u.user).isSome && isDatabase u.path

/-- Whether the address of a local socket can be used: it has a path on this host. -/
def isSocket (u : Net.Url) : Bool :=
  u.path.head? == some '/' && (u.host.isEmpty || u.host == "localhost".toList) &&
    allows u "db" fun value => isNumber value.toList

/-- Whether an address can be read. -/
def isReadable (url : String) : Bool :=
  (Net.Url.parse? url).any fun u =>
    (u.scheme ∈ networkSchemes && isServer u || u.scheme ∈ socketSchemes && isSocket u) &&
      allows u "protocol" (· ∈ ["2", "3", "resp2", "resp3"])

end Gatehouse.Store.RedisUrl
