import Gatehouse.Action
import Gatehouse.Digest.Hmac
import Gatehouse.Directory.Memory
import Gatehouse.Store.Memory

/-!
# A host in memory

Surroundings in which actions run, with nothing outside the program: the credential store and the
directory are in memory, the time is what the host was told last, and random values are derived
from a secret seed, each from the next number. `Host.answer` answers every question; there is no
database, so the question after it fails.
-/

namespace Gatehouse

open Time (Instant)

/-- Surroundings in memory. -/
structure Host where
  now : Instant
  /-- The nanoseconds on a clock that only goes forward. -/
  moment : Nat
  /-- The secret seed of random values. -/
  seed : Bytes
  /-- The number of random values so far. -/
  drawn : Nat
  store : Store.Memory
  directory : Directory

namespace Host

/-- A host with an empty store and an empty directory. -/
def start (now : Instant) (moment : Nat) (seed : Bytes) : Host :=
  ⟨now, moment, seed, 0, Store.Memory.empty, Directory.empty⟩

/-- The octets of the random value of a number: the keyed digest of its decimal digits. -/
def randomOctets (seed : Bytes) (number : Nat) : Vector UInt8 32 :=
  Digest.hmacSha256 seed (Bytes.ofString (toString number))

/-- A new salt, and the host after it. -/
def drawSalt (h : Host) : Vector UInt8 16 × Host :=
  let octets := randomOctets h.seed h.drawn
  (.ofFn fun i => octets[i.val], { h with drawn := h.drawn + 1 })

/-- A new identifier, and the host after it. -/
def drawId (h : Host) : Uuid × Host :=
  let (octets, h) := h.drawSalt
  ((Uuid.ofNat (octets.foldl (fun n o => 256 * n + o.toNat) 0)).random, h)

/-- The failure of the question after the database. -/
def noDatabase : Failure := .database "There is no database"

/-- The answer to a question, and the host after it. -/
def answer : (q : Question) → Host → q.Answer × Host
  | .store call, h =>
    let (r, store) := Store.Memory.answer h.moment call h.store
    (r, { h with store })
  | .directory call, h =>
    let (id, h) := h.drawId
    let (r, directory) := h.directory.answer h.now id call
    (r, { h with directory })
  | .database, h => (.error noDatabase, h)
  | .now, h => (h.now, h)
  | .freshId, h => h.drawId
  | .freshSalt, h => h.drawSalt

/-- Runs an action. -/
def run {α : Type} (h : Host) (a : Action α) : Action.Outcome α × Host :=
  a.run answer h

end Host

end Gatehouse
