import Gatehouse.Proofs.Base64.RoundTrip
import Gatehouse.Proofs.Json.Octets
import Gatehouse.Proofs.Session.RecordText
import Gatehouse.Token.Issuer
import Gatehouse.Token.Verifier

/-!
# An issued token verifies

`verify_encode`: the verifier that has the key reads from an issued token exactly the claims that
it was made of, as long as the token has not expired, and finds it expired afterwards. So whatever
such a token is accepted for, it is accepted for these claims (`eq_of_verify_encode`).
-/

namespace Gatehouse

open Time (Instant)

/-! ## Parts of a token -/

namespace Token

theorem splitLast?_append {front back : Bytes} (h : ∀ o ∈ back, o ≠ point) :
    splitLast? (front ++ point :: back) = some (front, back) := by
  have hb : ∀ o ∈ back.reverse, (decide (o ≠ point)) = true := by
    intro o ho
    simpa using h o (List.mem_reverse.1 ho)
  have hr : (front ++ point :: back).reverse = back.reverse ++ point :: front.reverse := by simp
  rw [splitLast?, hr, List.dropWhile_append_of_pos hb, List.takeWhile_append_of_pos hb]
  simp

theorem symbol_ne_point : ∀ v < 64, Base64.urlSafe.symbol v ≠ point := by decide

theorem ne_point_of_mem {b : Bytes} {o : UInt8}
    (h : o ∈ Base64.encodeOctets Base64.urlSafe b) : o ≠ point := by
  obtain ⟨v, hv, rfl⟩ := Base64.exists_symbol_of_mem rfl h
  exact symbol_ne_point v hv

theorem visible_symbol : ∀ v < 64,
    33 ≤ (Base64.urlSafe.symbol v).toNat ∧ (Base64.urlSafe.symbol v).toNat < 127 := by decide

theorem visible_of_mem_encodeOctets {b : Bytes} {o : UInt8}
    (h : o ∈ Base64.encodeOctets Base64.urlSafe b) : 33 ≤ o.toNat ∧ o.toNat < 127 := by
  obtain ⟨v, hv, rfl⟩ := Base64.exists_symbol_of_mem rfl h
  exact visible_symbol v hv

/-- A signed token is made of visible characters. -/
theorem visible_of_mem_sign {key header payload : Bytes} {o : UInt8}
    (h : o ∈ sign key header payload) : 33 ≤ o.toNat ∧ o.toNat < 127 := by
  simp only [sign, signedPart, List.append_assoc, List.cons_append, List.mem_append,
    List.mem_cons] at h
  rcases h with h | rfl | h | rfl | h
  · exact visible_of_mem_encodeOctets h
  · decide
  · exact visible_of_mem_encodeOctets h
  · decide
  · exact visible_of_mem_encodeOctets h

theorem lt_of_mem_sign {key header payload : Bytes} {o : UInt8}
    (h : o ∈ sign key header payload) : o.toNat < 128 :=
  Nat.lt_succ_of_lt (visible_of_mem_sign h).2

/-- A signed token is taken apart into what it was put together from. -/
theorem split?_of_eq_sign {token : String} {key header payload : Bytes}
    (h : Bytes.ofString token = sign key header payload) :
    Parts.split? token =
      some ⟨signedPart header payload, Base64.encodeOctets Base64.urlSafe header,
        Base64.encodeOctets Base64.urlSafe payload,
        Base64.encodeOctets Base64.urlSafe (signature key (signedPart header payload))⟩ := by
  rw [Parts.split?, h, sign, splitLast?_append fun o => ne_point_of_mem]
  simp only [Option.bind_eq_bind, Option.bind_some]
  rw [signedPart, splitLast?_append fun o => ne_point_of_mem]
  rfl

theorem octets_encodeOctets (b : Bytes) :
    octets (Base64.encodeOctets Base64.urlSafe b) = .ok b := by
  rw [octets, Base64.decodeOctets_encodeOctets Base64.usable_urlSafe]
  rfl

/-- The header of the tokens issued here, as a value. -/
def ownHeaderJson : Json := .record [("typ", .str "JWT"), ("alg", .str ownAlgorithm)]

theorem algorithm?_ownHeader :
    Json.parseOctets? (Bytes.ofString ownHeader) >>= algorithm? = some ownAlgorithm := by
  have hc : ownHeader = ownHeaderJson.compact := by decide
  have ht : ownHeaderJson.AllText IsAscii := by
    refine Json.allText_record fun m hm => ?_
    simp only [List.mem_cons, List.not_mem_nil, or_false] at hm
    rcases hm with rfl | rfl
    · exact ⟨isAscii_of_all rfl, isAscii_of_all rfl⟩
    · exact ⟨isAscii_of_all rfl, isAscii_of_all rfl⟩
  rw [hc, Json.parseOctets?_compact ht]
  decide

end Token

/-! ## Claims -/

theorem Uuid.isAscii_text (u : Uuid) : IsAscii u.text := by
  have hex : ∀ d : Fin 16, (Ascii.hexDigit d).toNat < 128 := by decide
  have hg : ∀ (ns : List Nat) (ds : List (Fin 16)), ∀ c ∈ writeGroups ns ds, c.toNat < 128 := by
    intro ns
    induction ns with
    | nil => intro ds c hc; cases hc
    | cons n ns ih =>
      intro ds c hc
      cases ns with
      | nil =>
        obtain ⟨d, -, rfl⟩ := List.mem_map.1 (by rwa [writeGroups] at hc)
        exact hex d
      | cons m ns =>
        rw [writeGroups, List.mem_append, List.mem_cons] at hc
        rcases hc with hc | rfl | hc
        · obtain ⟨d, -, rfl⟩ := List.mem_map.1 hc
          exact hex d
        · decide
        · exact ih _ c hc
  intro c hc
  rw [text, String.toList_ofList] at hc
  exact hg _ _ c hc

/-- Whether an integer fits in 64 bits with a sign. -/
def FitsWord (i : Int) : Prop := -9223372036854775808 ≤ i ∧ i ≤ 9223372036854775807

/-- The times of a token whose lifetime stays in the calendar fit. -/
theorem fitsWord_of_addSeconds? {t e : Instant} {n : Nat} (hn : n ≤ TokenIssuer.maxLifetime)
    (h : t.addSeconds? n = some e) : FitsWord t.seconds ∧ FitsWord e.seconds := by
  have hs := Instant.seconds_addSeconds? h
  unfold Instant.addSeconds? at h
  simp only [Option.ite_none_right_eq_some, Instant.inRange, Bool.and_eq_true,
    decide_eq_true_eq] at h
  obtain ⟨⟨hmin, hmax⟩, -⟩ := h
  unfold Instant.minSeconds at hmin
  unfold Instant.maxSeconds at hmax
  unfold TokenIssuer.maxLifetime at hn
  unfold FitsWord
  omega

namespace Claims

theorem allText_toJson (c : Claims) : c.toJson.AllText IsAscii := by
  refine Json.allText_record fun m hm => ?_
  simp only [List.mem_cons, List.not_mem_nil, or_false] at hm
  rcases hm with rfl | rfl | rfl | rfl | rfl
  · exact ⟨isAscii_of_all (s := "sub") rfl, c.subject.isAscii_text⟩
  · exact ⟨isAscii_of_all (s := "sid") rfl, c.session.isAscii_text⟩
  · refine ⟨isAscii_of_all (s := "kind") rfl, ?_⟩
    cases c.kind
    · exact isAscii_of_all (s := "access") rfl
    · exact isAscii_of_all (s := "refresh") rfl
  · exact ⟨isAscii_of_all (s := "iat") rfl, trivial⟩
  · exact ⟨isAscii_of_all (s := "exp") rfl, trivial⟩

theorem int64?_int {i : Int} (h : FitsWord i) : Json.int64? (.int i) = some i := by
  simp [Json.int64?, Json.intIn?, Json.int, h.1, h.2]

theorem ofJson?_toJson {c : Claims} (hi : FitsWord c.issuedAt) (he : FitsWord c.expiresAt) :
    ofJson? c.toJson = some c := by
  rw [ofJson?, toJson, Json.fields?_record (by simp [names]) (by simp)]
  simp [Json.required, List.lookup_cons, Json.choice?, int64?_int hi, int64?_int he]

end Claims

namespace Token

theorem known_registered (c : Claims) :
    Json.known registeredClaims
      ([("sub", c.subject.toJson), ("sid", c.session.toJson), ("kind", .str c.kind.name),
        ("iat", .int c.issuedAt), ("exp", .int c.expiresAt)].map fun (k, v) => (some k, v)) =
      [("sub", c.subject.toJson), ("exp", .int c.expiresAt)] := by
  simp [Json.known, registeredClaims]

theorem hasReadableClaims_toJson (c : Claims) : hasReadableClaims c.toJson = true := by
  rw [Claims.toJson, Json.record, hasReadableClaims, known_registered]
  simp [List.lookup_cons]

theorem namesAudience_toJson (c : Claims) : namesAudience c.toJson = false := by
  rw [Claims.toJson, Json.record, namesAudience, known_registered]
  simp [List.lookup_cons]

theorem hasExpiry_toJson (c : Claims) : hasExpiry c.toJson c = decide (0 ≤ c.expiresAt) := by
  rw [Claims.toJson, Json.record, hasExpiry]
  simp

end Token

/-! ## Verifying -/

namespace TokenVerifier

open Token

variable {v : TokenVerifier} {i : TokenIssuer} {c : Claims}

theorem readClaims_toJson (now : Instant) (hi : FitsWord c.issuedAt)
    (he : FitsWord c.expiresAt) :
    v.readClaims now c.toJson =
      if c.expiresAt < 0 then .error .noExpiry
      else if c.expiresAt < expiryBound v.leeway now then .error .expired else .ok c := by
  rw [readClaims, Claims.ofJson?_toJson hi he]
  simp only [hasReadableClaims_toJson, not_true_eq_false, if_false, hasExpiry_toJson,
    namesAudience_toJson, Bool.false_eq_true, decide_eq_true_eq, Int.not_le]

theorem checkSignature_sign {header : Bytes}
    (ha : Json.parseOctets? header >>= algorithm? = some ownAlgorithm) (kind : TokenKind)
    (payload : Bytes) :
    v.checkSignature kind ⟨signedPart header payload, Base64.encodeOctets Base64.urlSafe header,
      Base64.encodeOctets Base64.urlSafe payload,
      Base64.encodeOctets Base64.urlSafe
        (signature (v.key kind) (signedPart header payload))⟩ = .ok () := by
  rw [checkSignature, octets_encodeOctets, octets_encodeOctets]
  simp only [bind, Except.bind] at ha ⊢
  rw [ha]
  simp
  rfl

/-- What is read from an issued token. -/
theorem verify_encode (hkey : v.key c.kind = i.key c.kind) (now : Instant)
    (hi : FitsWord c.issuedAt) (he : FitsWord c.expiresAt) :
    v.verify c.kind now (i.encode c) =
      if c.expiresAt < 0 then .error .noExpiry
      else if c.expiresAt < expiryBound v.leeway now then .error .expired else .ok c := by
  have hs : Parts.split? (i.encode c) = some _ :=
    split?_of_eq_sign (Bytes.ofString_octetText fun o => lt_of_mem_sign)
  have hc := checkSignature_sign (v := v) algorithm?_ownHeader c.kind
    (Bytes.ofString c.toJson.compact)
  have hr := readClaims_toJson (v := v) now hi he
  rw [hkey] at hc
  rw [verify, hs]
  simp only [hc, octets_encodeOctets, Json.parseOctets?_compact c.allText_toJson, hr, bind,
    Except.bind]
  by_cases h0 : c.expiresAt < 0
  · rw [if_pos h0]
  · by_cases h1 : c.expiresAt < expiryBound v.leeway now
    · rw [if_neg h0, if_pos h1]
    · rw [if_neg h0, if_neg h1]
      simp
      rfl

/-- The bound of expiry for a clock that is not below the leeway does not wrap around. -/
theorem expiryBound_eq {leeway : Nat} {now : Instant} (h₀ : (leeway : Int) ≤ now.seconds)
    (h₁ : now.seconds - leeway < 18446744073709551616) :
    expiryBound leeway now = now.seconds - leeway :=
  Int.emod_eq_of_lt (by omega) h₁

/-- An issued token is read back as its claims as long as it has not expired. -/
theorem verify_encode_of_le (hkey : v.key c.kind = i.key c.kind) {now : Instant}
    (hi : FitsWord c.issuedAt) (he : FitsWord c.expiresAt) (h₀ : (v.leeway : Int) ≤ now.seconds)
    (h₁ : now.seconds - v.leeway ≤ c.expiresAt) :
    v.verify c.kind now (i.encode c) = .ok c := by
  have hword := he.2
  rw [verify_encode hkey now hi he, expiryBound_eq h₀ (by omega), if_neg (by omega),
    if_neg (by omega)]

/-- Whatever an issued token is accepted for, it is accepted for the claims it was made of. -/
theorem eq_of_verify_encode (hkey : v.key c.kind = i.key c.kind) {now : Instant}
    (hi : FitsWord c.issuedAt) (he : FitsWord c.expiresAt) {d : Claims}
    (h : v.verify c.kind now (i.encode c) = .ok d) : d = c := by
  rw [verify_encode hkey now hi he] at h
  split at h
  · cases h
  · split at h
    · cases h
    · exact (Except.ok.inj h).symm

end TokenVerifier

end Gatehouse
