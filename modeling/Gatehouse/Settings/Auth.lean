import Gatehouse.Digest.Argon2id
import Gatehouse.Failure
import Gatehouse.Settings.Source

/-!
# Settings of tokens and passwords

The secrets, the lifetimes of the two kinds of token, and the cost of deriving passwords.
`AuthSettings.validate` is the rule that every service checks before it uses them.
-/

namespace Gatehouse.Settings

open Digest (Argon2Cost)

/-- Settings of tokens and passwords. -/
structure AuthSettings where
  accessSecret : String
  refreshSecret : String
  /-- The secret mixed into every password. -/
  passwordSecret : String
  /-- The lifetime of access tokens in seconds. -/
  accessTtl : Nat
  /-- The lifetime of refresh tokens in seconds. -/
  refreshTtl : Nat
  /-- The seconds for which an expired token is still taken. -/
  leeway : Nat
  /-- The cost of deriving a password. -/
  passwordCost : Argon2Cost
  deriving DecidableEq, Repr

/-- The cost of deriving a password if none is set: 19456 KiB, two passes, one lane. -/
def defaultCost : Argon2Cost := ⟨19456, 2, 1⟩

/-- The least number that does not fit in 32 bits. -/
def bound32 : Nat := 4294967296

/-- Reads the cost of deriving a password; each part has a default. -/
def readCost {ρ : Type} (source : Source ρ) (v : ρ) : Option Argon2Cost := do
  let fs ← source.fields? ["memory_kib", "iterations", "parallelism"] v
  let memory ← Source.withDefault fs "memory_kib" defaultCost.memory (source.natBelow? bound32)
  let passes ← Source.withDefault fs "iterations" defaultCost.passes (source.natBelow? bound32)
  let lanes ← Source.withDefault fs "parallelism" defaultCost.lanes (source.natBelow? bound32)
  return ⟨memory, passes, lanes⟩

/-- The JSON form of a cost. -/
def costJson (c : Argon2Cost) : Json :=
  .record [("memory_kib", .nat c.memory), ("iterations", .nat c.passes),
    ("parallelism", .nat c.lanes)]

namespace AuthSettings

/-- The lifetime of access tokens if none is set: an hour. -/
def defaultAccessTtl : Nat := 3600

/-- The lifetime of refresh tokens if none is set: a day. -/
def defaultRefreshTtl : Nat := 86400

/-- Reads the settings; the secrets have to be there. -/
def read {ρ : Type} (source : Source ρ) (v : ρ) : Option AuthSettings := do
  let fs ← source.fields?
    ["access_secret", "refresh_secret", "password_secret", "access_token_ttl_seconds",
      "refresh_token_ttl_seconds", "jwt_leeway_seconds", "argon2"] v
  let seconds := source.natBelow? Value.bound64
  let accessSecret ← Source.required fs "access_secret" source.text?
  let refreshSecret ← Source.required fs "refresh_secret" source.text?
  let passwordSecret ← Source.required fs "password_secret" source.text?
  let accessTtl ← Source.withDefault fs "access_token_ttl_seconds" defaultAccessTtl seconds
  let refreshTtl ← Source.withDefault fs "refresh_token_ttl_seconds" defaultRefreshTtl seconds
  let leeway ← Source.withDefault fs "jwt_leeway_seconds" 0 seconds
  let cost ← Source.withDefault fs "argon2" defaultCost (readCost source)
  return ⟨accessSecret, refreshSecret, passwordSecret, accessTtl, refreshTtl, leeway, cost⟩

/-- Reads the JSON form. -/
def ofJson? (j : Json) : Option AuthSettings :=
  read .json j

/-- The JSON form. -/
def toJson (s : AuthSettings) : Json :=
  .record [("access_secret", .str s.accessSecret), ("refresh_secret", .str s.refreshSecret),
    ("password_secret", .str s.passwordSecret), ("access_token_ttl_seconds", .nat s.accessTtl),
    ("refresh_token_ttl_seconds", .nat s.refreshTtl), ("jwt_leeway_seconds", .nat s.leeway),
    ("argon2", costJson s.passwordCost)]

/-- The text for diagnostics, without the secrets. -/
def describe (s : AuthSettings) : String :=
  "AuthConfig \x7b access_token_ttl_seconds: " ++ toString s.accessTtl ++
    ", refresh_token_ttl_seconds: " ++ toString s.refreshTtl ++
    ", jwt_leeway_seconds: " ++ toString s.leeway ++
    ", argon2: Argon2Config \x7b memory_kib: " ++ toString s.passwordCost.memory ++
    ", iterations: " ++ toString s.passwordCost.passes ++
    ", parallelism: " ++ toString s.passwordCost.lanes ++ " \x7d, .. \x7d"

/-- The rule for settings in use: three secrets, the token secrets different, and a positive
lifetime of access tokens below that of refresh tokens. -/
def validate (s : AuthSettings) : Except Failure Unit :=
  if s.accessSecret.isEmpty || s.refreshSecret.isEmpty || s.passwordSecret.isEmpty then
    .error (.configuration "auth secrets must not be empty")
  else if s.accessSecret == s.refreshSecret then
    .error (.configuration "access_secret and refresh_secret must differ")
  else if s.accessTtl == 0 then
    .error (.configuration "access_token_ttl_seconds must be positive")
  else if s.accessTtl ≥ s.refreshTtl then
    .error (.configuration
      ("access token TTL (" ++ toString s.accessTtl ++ "s) must be shorter than refresh token TTL ("
        ++ toString s.refreshTtl ++ "s)"))
  else .ok ()

/-- What settings in use satisfy. -/
structure Valid (s : AuthSettings) : Prop where
  access_ne : s.accessSecret ≠ ""
  refresh_ne : s.refreshSecret ≠ ""
  password_ne : s.passwordSecret ≠ ""
  secrets_ne : s.accessSecret ≠ s.refreshSecret
  ttl_pos : 0 < s.accessTtl
  ttl_lt : s.accessTtl < s.refreshTtl

theorem validate_eq_ok_iff {s : AuthSettings} : s.validate = .ok () ↔ s.Valid := by
  constructor
  · intro h
    unfold validate at h
    simp only [Bool.or_eq_true, String.isEmpty_iff, beq_iff_eq, ge_iff_le] at h
    split at h
    · cases h
    · split at h
      · cases h
      · split at h
        · cases h
        · split at h
          · cases h
          · rename_i h1 h2 h3 h4
            simp only [not_or] at h1
            exact ⟨h1.1.1, h1.1.2, h1.2, h2, by omega, by omega⟩
  · intro h
    simp [validate, h.access_ne, h.refresh_ne, h.password_ne, h.secrets_ne,
      Nat.ne_of_gt h.ttl_pos, Nat.not_le.2 h.ttl_lt]

end AuthSettings

end Gatehouse.Settings
