import Gatehouse.Digest.Sha256

/-!
# HMAC with SHA-256

The keyed digest of RFC 2104: a key of at most 64 octets is filled with zeros, a longer one is
replaced by its digest.
-/

namespace Gatehouse.Digest

/-- The octets of a block of SHA-256. -/
def blockSize : Nat := 64

/-- A key as a block. -/
def keyBlock (key : Bytes) : Bytes :=
  let short := if blockSize < key.length then (sha256 key).toList else key
  short ++ List.replicate (blockSize - short.length) 0

/-- The keyed digest of a message. -/
def hmacSha256 (key message : Bytes) : Vector UInt8 32 :=
  let block := keyBlock key
  let inner := sha256 (block.map (· ^^^ 0x36) ++ message)
  sha256 (block.map (· ^^^ 0x5c) ++ inner.toList)

end Gatehouse.Digest
