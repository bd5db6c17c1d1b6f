import Gatehouse.Store.Call

/-!
# A credential store in memory

Texts by key, each with the moment from which it is absent. Time is counted in nanoseconds. A text
is present before that moment and absent from it on; a new text replaces the old one together with
its moment.
-/

namespace Gatehouse.Store

open Time (Duration)

/-- A text that is kept for a time. -/
structure Entry where
  key : String
  value : String
  /-- The moment from which it is absent. -/
  deadline : Nat
  deriving DecidableEq, Repr

/-- A store in memory. -/
structure Memory where
  /-- The texts, one for a key. -/
  entries : List Entry
  deriving DecidableEq, Repr

namespace Memory

/-- A store without texts. -/
def empty : Memory := ⟨[]⟩

instance : Inhabited Memory := ⟨empty⟩

/-- The text of a key that is present at a moment. -/
def get? (m : Memory) (now : Nat) (key : String) : Option String :=
  (m.entries.find? fun e => e.key = key ∧ now < e.deadline).map Entry.value

/-- The store without a key. -/
def erase (m : Memory) (key : String) : Memory :=
  ⟨m.entries.filter (·.key ≠ key)⟩

/-- The store with a text for a key until a moment. -/
def insert (m : Memory) (e : Entry) : Memory :=
  ⟨e :: (m.erase e.key).entries⟩

/-- The answer to a call at a moment, and the store after it. -/
def answer (now : Nat) (call : Call) (m : Memory) : Except Failure call.Reply × Memory :=
  match call with
  | .get key => (.ok (m.get? now key), m)
  | .set key value ttl =>
    if ttl.nanos = 0 then (.error (zeroTtl key), m)
    else (.ok (), m.insert ⟨key, value, now + ttl.nanos⟩)
  | .delete key => (.ok (), m.erase key)
  | .isPresent key => (.ok (m.get? now key).isSome, m)
  | .health => (.ok true, m)

end Memory

end Gatehouse.Store
