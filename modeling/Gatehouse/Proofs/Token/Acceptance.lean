import Gatehouse.Proofs.Base64.Canonical
import Gatehouse.Proofs.Token.RoundTrip

/-!
# What an accepted token is

`TokenVerifier.verify_eq_ok_iff`: a token is accepted as one of a kind if and only if it is the
signed text, under the key of that kind, of a header that names the algorithm of the tokens issued
here and of a payload that makes usable claims of that kind. So no other check can be gone around,
no token is accepted as both kinds, and no accepted token has a second spelling of its signature
(`TokenVerifier.acceptance_sound`).
-/

namespace Gatehouse

open Time (Instant)

namespace Token

/-! ## Parts -/

/-- An octet string is split at its last point. -/
theorem splitLast?_eq_some_iff {octets front back : Bytes} :
    splitLast? octets = some (front, back) ↔
      octets = front ++ point :: back ∧ ∀ o ∈ back, o ≠ point := by
  refine ⟨fun h => ?_, fun ⟨he, hb⟩ => he ▸ splitLast?_append hb⟩
  unfold splitLast? at h
  split at h
  · cases h
  rename_i o front' hd
  obtain ⟨rfl, rfl⟩ := Prod.mk.inj (Option.some.inj h)
  have hr := List.takeWhile_append_dropWhile (p := (· ≠ point)) (l := octets.reverse)
  have ho := List.head?_dropWhile_not (· ≠ point) octets.reverse
  simp only [hd, List.head?_cons, decide_eq_false_iff_not, Decidable.not_not] at hr ho
  constructor
  · simpa [ho] using congrArg List.reverse hr.symm
  · intro o' hm
    simpa using List.all_eq_true.1 List.all_takeWhile o' (List.mem_reverse.1 hm)

theorem eq_of_split? {token : String} {p : Parts} (h : Parts.split? token = some p) :
    Bytes.ofString token = p.signed ++ point :: p.signature ∧
      p.signed = p.header ++ point :: p.payload := by
  rw [Parts.split?] at h
  simp only [Option.bind_eq_bind, Option.bind_eq_some_iff, Prod.exists, splitLast?_eq_some_iff,
    Option.pure_def, Option.some.injEq] at h
  obtain ⟨signed, signature, ⟨ht, -⟩, header, payload, ⟨hd, -⟩, rfl⟩ := h
  exact ⟨ht, hd⟩

theorem octets_eq_ok_iff {part b : Bytes} :
    octets part = .ok b ↔ part = Base64.encodeOctets Base64.urlSafe b := by
  rw [← Base64.decodeOctets_eq_ok_iff Base64.usable_urlSafe Base64.exact_urlSafe, octets]
  cases Base64.decodeOctets Base64.urlSafe part with
  | error e => constructor <;> intro h <;> cases h
  | ok d => constructor <;> intro h <;> cases h <;> rfl

end Token

/-- The secret of a kind of token. -/
def Settings.AuthSettings.secret (s : Settings.AuthSettings) : TokenKind → String
  | .access => s.accessSecret
  | .refresh => s.refreshSecret

namespace TokenVerifier

open Token

variable {v : TokenVerifier} {k : TokenKind} {now : Instant} {token : String} {c : Claims}

/-! ## What the checks let through -/

theorem parts_of_checkSignature {parts : Parts} (h : v.checkSignature k parts = .ok ()) :
    ∃ header, parts.header = Base64.encodeOctets Base64.urlSafe header ∧
      Json.parseOctets? header >>= algorithm? = some ownAlgorithm ∧
      parts.signature =
        Base64.encodeOctets Base64.urlSafe (signature (v.key k) parts.signed) := by
  obtain ⟨header, ho, h⟩ := exists_of_bind_eq_ok h
  split at h
  · cases h
  rename_i algorithm ha
  split at h
  · cases h
  rename_i hown
  obtain ⟨given, hg, h⟩ := exists_of_bind_eq_ok h
  split at h
  · cases h
  rename_i hs
  refine ⟨header, octets_eq_ok_iff.1 ho, ?_, ?_⟩
  · rw [ha, Decidable.not_not.1 hown]
  · rw [octets_eq_ok_iff.1 hg, Decidable.not_not.1 hs]

theorem readClaims_eq_ok_iff {payload : Json} :
    v.readClaims now payload = .ok c ↔
      Claims.ofJson? payload = some c ∧ hasReadableClaims payload = true ∧
        hasExpiry payload c = true ∧ expiryBound v.leeway now ≤ c.expiresAt ∧
        namesAudience payload = false := by
  rw [readClaims]
  cases Claims.ofJson? payload with
  | none => simp
  | some d =>
    simp only [Option.some.injEq]
    constructor
    · intro h
      split at h
      · cases h
      rename_i hr
      split at h
      · cases h
      rename_i he
      split at h
      · cases h
      rename_i hb
      split at h
      · cases h
      rename_i ha
      cases h
      exact ⟨rfl, Decidable.not_not.1 hr, Decidable.not_not.1 he, Int.not_lt.1 hb,
        by simpa using ha⟩
    · rintro ⟨rfl, hr, he, hb, ha⟩
      simp [hr, he, ha, Int.not_lt.2 hb]

/-- Which tokens are accepted as tokens of a kind. -/
theorem verify_eq_ok_iff :
    v.verify k now token = .ok c ↔
      ∃ header payload json, Bytes.ofString token = sign (v.key k) header payload ∧
        Json.parseOctets? header >>= algorithm? = some ownAlgorithm ∧
        Json.parseOctets? payload = some json ∧ v.readClaims now json = .ok c ∧ c.kind = k := by
  constructor
  · intro h
    unfold verify at h
    split at h
    · cases h
    rename_i parts hp
    obtain ⟨ht, hd⟩ := eq_of_split? hp
    obtain ⟨⟨⟩, hc, h⟩ := exists_of_bind_eq_ok h
    obtain ⟨header, hh, ha, hs⟩ := parts_of_checkSignature hc
    obtain ⟨payload, ho, h⟩ := exists_of_bind_eq_ok h
    split at h
    · cases h
    rename_i json hj
    obtain ⟨claims, hr, h⟩ := exists_of_bind_eq_ok h
    split at h
    · cases h
    rename_i hk
    cases h
    have hsigned : parts.signed = signedPart header payload := by
      rw [hd, hh, octets_eq_ok_iff.1 ho]
      rfl
    exact ⟨header, payload, json, by rw [ht, hs, hsigned]; rfl, ha, hj, hr, Decidable.not_not.1 hk⟩
  · rintro ⟨header, payload, json, ht, ha, hj, hr, rfl⟩
    have hp := split?_of_eq_sign ht
    rw [verify, hp]
    simp only [checkSignature_sign ha, octets_encodeOctets, hj, hr, bind, Except.bind]
    simp
    rfl

/-- The claims in the text of a token, whether or not it is accepted. -/
def read? (token : String) : Option Claims := do
  let parts ← Parts.split? token
  let payload ← (octets parts.payload).toOption
  let json ← Json.parseOctets? payload
  Claims.ofJson? json

theorem read?_of_eq_sign {key header payload : Bytes}
    (h : Bytes.ofString token = sign key header payload) :
    read? token = Json.parseOctets? payload >>= Claims.ofJson? := by
  simp only [read?, split?_of_eq_sign h, octets_encodeOctets, Except.toOption,
    Option.bind_eq_bind, Option.bind_some]

/-- Whenever a token is accepted, it is accepted as what its text says. -/
theorem read?_of_verify (h : v.verify k now token = .ok c) : read? token = some c := by
  obtain ⟨header, payload, json, ht, -, hj, hr, -⟩ := verify_eq_ok_iff.1 h
  rw [read?_of_eq_sign ht, hj]
  exact (readClaims_eq_ok_iff.1 hr).1

theorem kind_of_verify (h : v.verify k now token = .ok c) : c.kind = k := by
  obtain ⟨-, -, -, -, -, -, -, hk⟩ := verify_eq_ok_iff.1 h
  exact hk

/-- No token is accepted as both kinds, whenever and with whatever keys it is looked at. -/
theorem kind_unique {v' : TokenVerifier} {k' : TokenKind} {now' : Instant} {c' : Claims}
    (h : v.verify k now token = .ok c) (h' : v'.verify k' now' token = .ok c') : k = k' := by
  rw [← kind_of_verify h, ← kind_of_verify h',
    Option.some.inj ((read?_of_verify h).symm.trans (read?_of_verify h'))]

/-! ## Soundness -/

/-- What a token of an expected kind is decoded as at a time: its claims, or a failure. -/
def decode (v : TokenVerifier) (k : TokenKind) (now : Instant) (token : String) :
    Except Failure Claims :=
  (v.verify k now token).mapError Rejection.failure

theorem decode_eq_ok_iff : v.decode k now token = .ok c ↔ v.verify k now token = .ok c := by
  rw [decode]
  cases v.verify k now token with
  | error why => constructor <;> intro h <;> cases h
  | ok d => constructor <;> intro h <;> cases h <;> rfl

/-- A token that is not accepted is Unauthorized. -/
theorem decode_ok_or_unauthorized (v : TokenVerifier) (k : TokenKind) (now : Instant)
    (token : String) :
    (∃ c, v.decode k now token = .ok c) ∨
      ∃ e, v.decode k now token = .error e ∧ e.kind = .unauthorized := by
  rw [decode]
  cases v.verify k now token with
  | error why => exact .inr ⟨_, rfl, rfl⟩
  | ok c => exact .inl ⟨c, rfl⟩

theorem settings_of_ofSettings {s : Settings.AuthSettings} (hs : ofSettings s = .ok v) :
    v.leeway = s.leeway ∧ ∀ k, v.key k = Bytes.ofString (s.secret k) := by
  unfold ofSettings at hs
  cases hv : s.validate with
  | error e =>
    rw [hv] at hs
    cases hs
  | ok =>
    rw [hv] at hs
    cases hs
    exact ⟨rfl, fun k => by cases k <;> rfl⟩

/-- What stands before the last point of a token. -/
def signedText? (token : String) : Option Bytes :=
  (splitLast? (Bytes.ofString token)).map Prod.fst

/-- Whether the text of a token makes the claims and is signed with a key: what stands after its
last point is the text of the keyed digest of all that stands before it, the header names the
algorithm of this digest, and the payload is the claims. -/
def SignedWith (key : Bytes) (token : String) (c : Claims) : Prop :=
  ∃ header payload : Bytes,
    splitLast? (Bytes.ofString token) =
      some (signedPart header payload, Base64.encodeOctets Base64.urlSafe
        (Digest.hmacSha256 key (signedPart header payload)).toList) ∧
    Json.parseOctets? header >>= algorithm? = some "HS256" ∧
    Json.parseOctets? payload >>= Claims.ofJson? = some c

theorem signedWith_of_verify (h : v.verify k now token = .ok c) :
    SignedWith (v.key k) token c := by
  obtain ⟨header, payload, json, ht, ha, hj, hr, -⟩ := verify_eq_ok_iff.1 h
  refine ⟨header, payload, ?_, ha, ?_⟩
  · rw [ht, sign]
    exact splitLast?_append fun _ hm => ne_point_of_mem hm
  · rw [hj]
    exact (readClaims_eq_ok_iff.1 hr).1

theorem expiresAt_of_verify (h : v.verify k now token = .ok c) :
    expiryBound v.leeway now ≤ c.expiresAt := by
  obtain ⟨-, -, json, -, -, -, hr, -⟩ := verify_eq_ok_iff.1 h
  obtain ⟨-, -, -, hb, -⟩ := readClaims_eq_ok_iff.1 hr
  exact hb

/-- Tokens that are accepted, whenever and as whatever, are the same if they are the same up to
their last points. -/
theorem eq_of_signedText? {k' : TokenKind} {now' : Instant} {token' : String} {c' : Claims}
    (h : v.verify k now token = .ok c) (h' : v.verify k' now' token' = .ok c')
    (he : signedText? token = signedText? token') : token = token' := by
  obtain ⟨header, payload, hs, -, hc⟩ := signedWith_of_verify h
  obtain ⟨header', payload', hs', -, hc'⟩ := signedWith_of_verify h'
  have hsigned : signedPart header payload = signedPart header' payload' := by
    simpa [signedText?, hs, hs'] using he
  -- the same payload makes the same claims, so both are of one kind and signed with one key
  have hp : payload = payload' := by
    have hsplit : splitLast? (signedPart header payload) =
        splitLast? (signedPart header' payload') := congrArg splitLast? hsigned
    simp only [signedPart, splitLast?_append fun _ hm => ne_point_of_mem hm, Option.some.injEq,
      Prod.mk.injEq] at hsplit
    have ho := congrArg octets hsplit.2
    simpa [octets_encodeOctets] using ho
  have hclaims : c = c' := by
    rw [hp, hc'] at hc
    exact (Option.some.inj hc).symm
  have hk : k = k' := by rw [← kind_of_verify h, ← kind_of_verify h', hclaims]
  apply Bytes.ofString_injective
  rw [(splitLast?_eq_some_iff.1 hs).1, (splitLast?_eq_some_iff.1 hs').1, hsigned, hk]

/-- For settings that satisfy their rule, and a clock that counts in 64 bits and is not below the
leeway: a token is accepted as one of a kind only if it is signed with the secret of the kind, has
not expired and is of the kind, and is Unauthorized otherwise. No token is accepted as both kinds,
and two that are accepted are the same if they are the same up to their last points. -/
theorem acceptance_sound {s : Settings.AuthSettings} (hs : ofSettings s = .ok v) :
    (∀ k now token, (s.leeway : Int) ≤ now.seconds → now.seconds < 18446744073709551616 →
      match v.decode k now token with
      | .error e => e.kind = .unauthorized
      | .ok c => SignedWith (Bytes.ofString (s.secret k)) token c ∧
          now.seconds - s.leeway ≤ c.expiresAt ∧ c.kind = k) ∧
    (∀ token now now' c c', v.decode .access now token = .ok c →
      v.decode .refresh now' token ≠ .ok c') ∧
    ∀ k k' now now' token token' c c', v.decode k now token = .ok c →
      v.decode k' now' token' = .ok c' → signedText? token = signedText? token' →
      token = token' := by
  obtain ⟨hl, hkey⟩ := settings_of_ofSettings hs
  refine ⟨fun k now token h₀ h₁ => ?_, fun token now now' c c' h h' => ?_,
    fun k k' now now' token token' c c' h h' he =>
      eq_of_signedText? (decode_eq_ok_iff.1 h) (decode_eq_ok_iff.1 h') he⟩
  · obtain ⟨c, hd⟩ | ⟨e, hd, he⟩ := v.decode_ok_or_unauthorized k now token
    · have hv := decode_eq_ok_iff.1 hd
      have hb := expiresAt_of_verify hv
      rw [hl, expiryBound_eq h₀ (by omega)] at hb
      rw [hd]
      exact ⟨hkey k ▸ signedWith_of_verify hv, hb, kind_of_verify hv⟩
    · rw [hd]
      exact he
  · cases kind_unique (decode_eq_ok_iff.1 h) (decode_eq_ok_iff.1 h')

/-- An access token that is accepted, and only as such. -/
theorem acceptance_sound_access :
    ∃ (s : Settings.AuthSettings) (v : TokenVerifier) (token : String) (c : Claims),
      ofSettings s = .ok v ∧ v.decode .access ⟨1010, 5⟩ token = .ok c ∧
      SignedWith (Bytes.ofString "access") token c ∧ (1010 : Int) ≤ c.expiresAt ∧
      (∀ now c', v.decode .refresh now token ≠ .ok c') ∧
      ∀ token' c', v.decode .access ⟨1010, 5⟩ token' = .ok c' →
        signedText? token = signedText? token' → token = token' := by
  let s : Settings.AuthSettings := ⟨"access", "refresh", "pepper", 60, 600, 0, ⟨8, 1, 1⟩⟩
  let i : TokenIssuer := ⟨Bytes.ofString "access", Bytes.ofString "refresh", 60, 600⟩
  let v : TokenVerifier := ⟨Bytes.ofString "access", Bytes.ofString "refresh", 0⟩
  let c : Claims := ⟨.ofNat 1, .ofNat 4, .access, 1000, 1060⟩
  have hs : ofSettings s = .ok v := rfl
  obtain ⟨token, hv⟩ : ∃ token, v.decode .access ⟨1010, 5⟩ token = .ok c :=
    ⟨i.encode c, decode_eq_ok_iff.2 (verify_encode_of_le (c := c) rfl (by constructor <;> decide)
      (by constructor <;> decide) (by decide) (by decide))⟩
  obtain ⟨hsound, hkinds, hsame⟩ := acceptance_sound hs
  have ha := hsound .access ⟨1010, 5⟩ token (by decide) (by decide)
  rw [hv] at ha
  exact ⟨s, v, token, c, hs, hv, ha.1, ha.2.1, fun now c' => hkinds _ _ now _ c' hv,
    fun token' c' h' => hsame _ _ _ _ _ _ _ _ hv h'⟩

end TokenVerifier

end Gatehouse
