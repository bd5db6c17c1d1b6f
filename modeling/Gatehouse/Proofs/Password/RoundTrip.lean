import Gatehouse.Password.Hasher
import Gatehouse.Proofs.Base64.Canonical

/-!
# Passwords that were kept

The texts of a stored password are read as some octets exactly if they are the Base64 texts of these
and the octets are as many as they have to be (`readSalt_eq_ok_iff`, `readHash_eq_ok_iff`), so they
read back. So a password is found to be the one that was kept, whatever function derives the octets
(`verify_hashWith`).
-/

namespace Gatehouse.PasswordHasher

open Base64 (standard usable_standard exact_standard)

variable {h : PasswordHasher} {password text : String} {stored : HashedPassword} {salt : Bytes}
  {b : Bool}

/-! ## Stored texts -/

/-- A text of octets that must pass a check is read exactly if it is the text of octets that do. -/
theorem read_eq_ok_iff {ε : Type} {f : Base64.DecodeError → ε} {e : Bytes → ε}
    (bad : Bytes → Prop) [DecidablePred bad] {octets : Bytes} :
    ((Base64.decode standard text).mapError f >>= fun octets =>
      if bad octets then Except.error (e octets) else Except.ok octets) = .ok octets ↔
      ¬bad octets ∧ text = Base64.encode standard octets := by
  rw [← Base64.decode_eq_ok_iff usable_standard exact_standard]
  cases Base64.decode standard text with
  | error cause =>
    show Except.error _ = Except.ok octets ↔ _
    exact iff_of_false nofun fun h => nomatch h.2
  | ok read =>
    show (if bad read then Except.error (e read) else .ok read) = .ok octets ↔ _
    by_cases hb : bad read
    · rw [if_pos hb]
      constructor
      · intro h
        cases h
      · rintro ⟨hn, hr⟩
        cases hr
        exact absurd hb hn
    · rw [if_neg hb]
      constructor
      · intro h
        cases h
        exact ⟨hb, rfl⟩
      · exact fun h => congrArg Except.ok (Except.ok.inj h.2)

theorem readSalt_eq_ok_iff {salt : Bytes} :
    readSalt text = .ok salt ↔
      minSaltLength ≤ salt.length ∧ text = Base64.encode standard salt := by
  rw [← Nat.not_lt]
  exact read_eq_ok_iff fun salt => salt.length < minSaltLength

theorem readHash_eq_ok_iff {hash : Bytes} :
    readHash text = .ok hash ↔
      hash.length = derivedLength ∧ text = Base64.encode standard hash := by
  rw [← Decidable.not_not (p := hash.length = derivedLength)]
  exact read_eq_ok_iff fun hash => hash.length ≠ derivedLength

/-! ## Checking -/

/-- A stored password is checked if both of its texts can be read, by a comparison of what is
derived with what was stored. -/
theorem verify_eq_ok_iff :
    h.verify password stored = .ok b ↔ ∃ salt hash, readSalt stored.salt = .ok salt ∧
      readHash stored.hash = .ok hash ∧
        b = decide ((h.derive (Bytes.ofString password) salt).toList = hash) := by
  constructor
  · intro hv
    obtain ⟨salt, hs, hv⟩ := exists_of_bind_eq_ok hv
    obtain ⟨hash, hh, hv⟩ := exists_of_bind_eq_ok hv
    cases hv
    exact ⟨salt, hash, hs, hh, rfl⟩
  · rintro ⟨salt, hash, hs, hh, rfl⟩
    rw [verify, hs]
    show (readHash _ >>= fun expected => _) = _
    rw [hh]
    rfl

theorem length_derive (h : PasswordHasher) (password salt : Bytes) :
    (h.derive password salt).toList.length = derivedLength :=
  Vector.length_toList

/-- A password is the one that was kept with a salt. -/
theorem verify_hashWith (hs : minSaltLength ≤ salt.length) :
    h.verify password (h.hashWith password salt) = .ok true := by
  have hsalt : readSalt (h.hashWith password salt).salt = .ok salt :=
    readSalt_eq_ok_iff.2 ⟨hs, rfl⟩
  have hhash : readHash (h.hashWith password salt).hash = .ok _ :=
    readHash_eq_ok_iff.2 ⟨length_derive h (Bytes.ofString password) salt, rfl⟩
  exact verify_eq_ok_iff.2 ⟨salt, _, hsalt, hhash, (decide_eq_true rfl).symm⟩

end Gatehouse.PasswordHasher
