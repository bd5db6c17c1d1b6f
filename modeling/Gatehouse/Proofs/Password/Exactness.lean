import Mathlib.Logic.Basic
import Mathlib.Logic.ExistsUnique
import Gatehouse.Proofs.Password.RoundTrip

/-!
# Which stored passwords are accepted

A stored password can be checked exactly if its texts are the Base64 texts of a salt that is long
enough and of as many octets as are derived (`exists_verify_eq_error_iff`). It is then the password
in question exactly if its hash is the one text of the octets derived from the password and the salt
(`verify_exact`), whatever function derives them.
-/

namespace Gatehouse

open Base64 (standard usable_standard exact_standard)

namespace PasswordHasher

variable {h : PasswordHasher} {password text : String} {stored : HashedPassword} {b : Bool}

/-- A check that is made finds the password exactly if the stored hash is the text of the octets
derived from it and the stored salt. -/
theorem verify_eq_ok_true_iff {salt : Bytes} (hs : readSalt stored.salt = .ok salt) :
    h.verify password stored = .ok true ↔
      stored.hash = Base64.encode standard (h.derive (Bytes.ofString password) salt).toList := by
  rw [verify_eq_ok_iff]
  constructor
  · rintro ⟨salt', hash, hs', hh, hb⟩
    rw [hs] at hs'
    cases hs'
    rw [of_decide_eq_true hb.symm]
    exact (readHash_eq_ok_iff.1 hh).2
  · intro ht
    exact ⟨salt, _, hs, readHash_eq_ok_iff.2 ⟨length_derive h _ _, ht⟩, (decide_eq_true rfl).symm⟩

/-- A stored password cannot be checked exactly if one of its texts cannot be read. -/
theorem exists_verify_eq_error_iff :
    (∃ fault, h.verify password stored = .error fault) ↔
      (¬∃ salt : Bytes, minSaltLength ≤ salt.length ∧ stored.salt = Base64.encode standard salt) ∨
        ¬∃ hash : Bytes, hash.length = derivedLength ∧
          stored.hash = Base64.encode standard hash := by
  simp only [← readSalt_eq_ok_iff, ← readHash_eq_ok_iff]
  rw [← not_and_or]
  constructor
  · rintro ⟨fault, hv⟩ ⟨⟨salt, hs⟩, hash, hh⟩
    have hok : h.verify password stored = .ok _ := verify_eq_ok_iff.2 ⟨salt, hash, hs, hh, rfl⟩
    rw [hv] at hok
    cases hok
  · intro hn
    cases hv : h.verify password stored with
    | error fault => exact ⟨fault, rfl⟩
    | ok b =>
      obtain ⟨salt, hash, hs, hh, -⟩ := verify_eq_ok_iff.1 hv
      exact absurd ⟨⟨salt, hs⟩, hash, hh⟩ hn

/-- Whatever function derives octets, a password is found to be the one that was kept with any new
salt. Any stored texts are refused exactly if they are not the Base64 texts of a salt of at least
eight octets and of 32 octets. Otherwise the password is found exactly if the stored hash is the
text of the octets derived from it and the stored salt, so for every salt by one text. -/
theorem verify_exact (h : PasswordHasher) (password : String) :
    (∀ {σ : Type} (answer : (r : Question) → σ → r.Answer × σ) (s : σ), ∃ stored,
      ((h.hash password).run answer s).1 = .finished (.ok stored) ∧
        h.verify password stored = .ok true) ∧
    (∀ stored, (∃ fault, h.verify password stored = .error fault) ↔
      (¬∃ salt : Bytes, 8 ≤ salt.length ∧ stored.salt = Base64.encode standard salt) ∨
        ¬∃ hash : Bytes, hash.length = 32 ∧ stored.hash = Base64.encode standard hash) ∧
    (∀ stored b, h.verify password stored = .ok b →
      ∃ salt, Base64.decode standard stored.salt = .ok salt ∧
        (b = true ↔ stored.hash =
          Base64.encode standard (h.derive (Bytes.ofString password) salt).toList)) ∧
    ∀ salt : Bytes, 8 ≤ salt.length →
      ∃! hash, h.verify password ⟨hash, Base64.encode standard salt⟩ = .ok true := by
  refine ⟨fun answer s => ?_, fun stored => exists_verify_eq_error_iff, fun stored b hv => ?_,
    fun salt hs => ?_⟩
  · have hl : minSaltLength ≤ (answer .freshSalt s).1.toList.length := by
      rw [Vector.length_toList]
      decide
    exact ⟨_, rfl, verify_hashWith hl⟩
  · obtain ⟨salt, hash, hs, hh, hb⟩ := verify_eq_ok_iff.1 hv
    refine ⟨salt, ?_, ?_⟩
    · rw [Base64.decode_eq_ok_iff usable_standard exact_standard]
      exact (readSalt_eq_ok_iff.1 hs).2
    · rw [← verify_eq_ok_true_iff hs, hv]
      exact ⟨congrArg Except.ok, Except.ok.inj⟩
  · have hiff : ∀ hash, h.verify password ⟨hash, Base64.encode standard salt⟩ = .ok true ↔
        hash = Base64.encode standard (h.derive (Bytes.ofString password) salt).toList :=
      fun hash => verify_eq_ok_true_iff (readSalt_eq_ok_iff.2 ⟨hs, rfl⟩)
    exact ⟨_, (hiff _).2 rfl, fun hash => (hiff hash).1⟩

/-- A hasher that derives the first octets of the password and the salt. -/
def plainHasher : PasswordHasher :=
  ⟨fun password salt => .ofFn fun i => (password ++ salt).getD i.val 0⟩

/-- What it keeps of the password `abc` and the salt of the octets from one to eight. -/
def plainStored : HashedPassword :=
  ⟨"YWJjAQIDBAUGBwgAAAAAAAAAAAAAAAAAAAAAAAAAAAA=", "AQIDBAUGBwg="⟩

theorem plain_verify_exact :
    (∃! hash, plainHasher.verify "abc" ⟨hash, plainStored.salt⟩ = .ok true) ∧
      plainHasher.verify "abc" plainStored = .ok true ∧
      plainHasher.verify "abd" plainStored = .ok false ∧
      (∃ salt, Base64.decode standard plainStored.salt = .ok salt ∧
        (false = true ↔ plainStored.hash =
          Base64.encode standard (plainHasher.derive (Bytes.ofString "abd") salt).toList)) ∧
      ∃ fault, plainHasher.verify "abc" { plainStored with salt := "AQIDBAUGBwh=" } =
        .error fault := by
  have hsalt : Base64.encode standard [1, 2, 3, 4, 5, 6, 7, 8] = plainStored.salt := by
    decide +kernel
  have hother : plainHasher.verify "abd" plainStored = .ok false := rfl
  refine ⟨?_, rfl, hother, ?_, _, rfl⟩
  · exact hsalt ▸ (verify_exact plainHasher "abc").2.2.2 [1, 2, 3, 4, 5, 6, 7, 8] (by decide)
  · exact (verify_exact plainHasher "abd").2.2.1 plainStored false hother

end PasswordHasher

end Gatehouse
