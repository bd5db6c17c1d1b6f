import Gatehouse.Action
import Gatehouse.Base64
import Gatehouse.Settings.Auth

/-!
# Passwords

A password is kept as the Base64 texts of a salt and of 32 octets derived from password and salt.
The hasher is any function that derives them; `PasswordHasher.ofCost` is the one in use, Argon2id
under a secret. Checking reads the stored texts strictly before it derives anything.
-/

namespace Gatehouse

open Digest (Argon2Cost)

/-- The number of octets that are derived from a password. -/
def derivedLength : Nat := 32

/-- The least number of octets of a salt. -/
def minSaltLength : Nat := 8

/-- Derives octets from a password and a salt. -/
structure PasswordHasher where
  /-- The octets derived from a password and a salt. -/
  derive : (password salt : Bytes) → Vector UInt8 32

/-- A password as it is kept. -/
structure HashedPassword where
  /-- The derived octets, in Base64. -/
  hash : String
  /-- The salt, in Base64. -/
  salt : String
  deriving DecidableEq, Repr

/-- Why a cost cannot be used. -/
def costFault? (c : Argon2Cost) : Option String :=
  if c.memory < 8 ∨ c.memory < 8 * c.lanes then some "memory cost is too small"
  else if c.passes < 1 then some "time cost is too small"
  else if c.lanes < 1 then some "not enough threads"
  else if 0xFFFFFF < c.lanes then some "too many threads"
  else none

/-- Why a stored password cannot be checked. -/
inductive StoredPasswordFault where
  /-- The salt is not Base64. -/
  | salt (cause : Base64.DecodeError)
  /-- The salt has too few octets. -/
  | shortSalt (length : Nat)
  /-- The hash is not Base64. -/
  | hash (cause : Base64.DecodeError)
  /-- The hash has another number of octets than are derived. -/
  | hashLength (length : Nat)
  deriving DecidableEq, Repr

/-- The failure of checking a stored password. -/
def StoredPasswordFault.failure : StoredPasswordFault → Failure
  | salt cause => .internal ("Stored salt is not valid base64: " ++ cause.message)
  | shortSalt length => .internal s!"Stored salt is too short: {length} bytes"
  | hash cause => .internal ("Stored hash is not valid base64: " ++ cause.message)
  | hashLength length => .internal s!"Stored hash has unexpected length: {length} bytes"

namespace PasswordHasher

/-- The hasher for a secret and a cost: Argon2id. -/
def ofCost (secret : Bytes) (cost : Argon2Cost) : Except Failure PasswordHasher :=
  if secret.isEmpty then .error (.configuration "password secret must not be empty")
  else
    match costFault? cost with
    | some fault => .error (.configuration ("Invalid Argon2 parameters: " ++ fault))
    | none => .ok ⟨fun password salt =>
        let derived := (Digest.argon2id cost derivedLength secret password salt).toArray
        .ofFn fun i => derived[i.val]?.getD 0⟩

/-- The hasher for the settings. -/
def ofSettings (s : Settings.AuthSettings) : Except Failure PasswordHasher :=
  ofCost (Bytes.ofString s.passwordSecret) s.passwordCost

/-- A password with a given salt, as it is kept. -/
def hashWith (h : PasswordHasher) (password : String) (salt : Bytes) : HashedPassword where
  hash := Base64.encode Base64.standard (h.derive (Bytes.ofString password) salt).toList
  salt := Base64.encode Base64.standard salt

/-- A password with a new salt, as it is kept. -/
def hash (h : PasswordHasher) (password : String) : Action HashedPassword := do
  let salt ← Action.freshSalt
  return h.hashWith password salt.toList

/-- The octets of a stored salt. -/
def readSalt (text : String) : Except StoredPasswordFault Bytes := do
  let salt ← (Base64.decode Base64.standard text).mapError .salt
  if salt.length < minSaltLength then throw (.shortSalt salt.length)
  return salt

/-- The octets of a stored hash. -/
def readHash (text : String) : Except StoredPasswordFault Bytes := do
  let hash ← (Base64.decode Base64.standard text).mapError .hash
  if hash.length ≠ derivedLength then throw (.hashLength hash.length)
  return hash

/-- Whether a password is the stored one. -/
def verify (h : PasswordHasher) (password : String) (stored : HashedPassword) :
    Except StoredPasswordFault Bool := do
  let salt ← readSalt stored.salt
  let expected ← readHash stored.hash
  return (h.derive (Bytes.ofString password) salt).toList = expected

end PasswordHasher

end Gatehouse
