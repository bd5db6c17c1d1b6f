import Gatehouse.Proofs.Session.Issuing
import Gatehouse.Proofs.Token.Acceptance

/-!
# Issued tokens are decoded as they were issued

Whatever the issuer hands out is the text of some claims (`TokenIssuer.issued_of_reaches`,
`Session.pair_of_reaches`), and a text is decoded as the claims it was made of
(`TokenVerifier.decodesAs_encode`). `Session.issued_token_round_trip` puts the two together for a
single token and for a pair.
-/

namespace Gatehouse

open Gatehouse.Action
open Time (Instant)

/-- The lifetime of a kind of token in seconds. -/
def Settings.AuthSettings.lifetime (s : Settings.AuthSettings) : TokenKind → Nat
  | .access => s.accessTtl
  | .refresh => s.refreshTtl

theorem Settings.AuthSettings.Valid.lifetime_lt {s : Settings.AuthSettings} (h : s.Valid) :
    s.lifetime .access < s.lifetime .refresh := h.ttl_lt

/-! ## Decoding -/

namespace TokenVerifier

variable {v : TokenVerifier} {i : TokenIssuer} {c : Claims}

/-- Whether a text is a token that makes some claims: it is decoded as them until they have expired,
and as the other kind it is Unauthorized at any time. -/
structure DecodesAs (v : TokenVerifier) (text : String) (c : Claims) : Prop where
  read : read? text = some c
  accepted : ∀ now : Instant, (v.leeway : Int) ≤ now.seconds →
    now.seconds - v.leeway ≤ c.expiresAt → v.decode c.kind now text = .ok c
  other : ∀ now, ∃ e, v.decode c.kind.other now text = .error e ∧ e.kind = .unauthorized

theorem read?_encode (hi : FitsWord c.issuedAt) (he : FitsWord c.expiresAt) :
    read? (i.encode c) = some c := by
  have ht : Bytes.ofString (i.encode c) = Token.sign (i.key c.kind) _ _ :=
    Bytes.ofString_octetText fun o => Token.lt_of_mem_sign
  rw [read?_of_eq_sign ht, Json.parseOctets?_compact c.allText_toJson]
  exact Claims.ofJson?_toJson hi he

theorem decodesAs_encode (hkey : v.key c.kind = i.key c.kind) (hi : FitsWord c.issuedAt)
    (he : FitsWord c.expiresAt) : DecodesAs v (i.encode c) c where
  read := read?_encode hi he
  accepted now h₀ h₁ := decode_eq_ok_iff.2 (verify_encode_of_le hkey hi he h₀ h₁)
  other now := by
    obtain ⟨d, hd⟩ | he' := v.decode_ok_or_unauthorized c.kind.other now (i.encode c)
    · -- a token that is accepted is of the kind that its text says
      have hv := decode_eq_ok_iff.1 hd
      have hc := (read?_of_verify hv).symm.trans (read?_encode hi he)
      have hk := kind_of_verify hv
      rw [Option.some.inj hc] at hk
      cases hck : c.kind <;> rw [hck] at hk <;> cases hk
    · exact he'

end TokenVerifier

/-! ## Issuing -/

namespace TokenIssuer

variable {i : TokenIssuer}

theorem settings_of_ofSettings {s : Settings.AuthSettings} (hs : ofSettings s = .ok i) :
    s.Valid ∧ ∀ k, i.key k = Bytes.ofString (s.secret k) ∧ i.ttl k = s.lifetime k := by
  unfold ofSettings at hs
  cases hv : s.validate with
  | error e =>
    rw [hv] at hs
    cases hs
  | ok =>
    rw [hv] at hs
    cases hs
    exact ⟨Settings.AuthSettings.validate_eq_ok_iff.1 hv, fun k => by cases k <;> exact ⟨rfl, rfl⟩⟩

/-- What is handed out by the issuing of a token, and the one thing observed. -/
theorem issued_of_reaches {k : TokenKind} {subject : Uuid} {t : Instant} {tr : Trace}
    {token : IssuedToken} (h : (i.issue k subject t).Reaches tr (.done (.ok token))) :
    (∃ o : Observation, tr = [o] ∧ o.Saw .freshId token.session) ∧
      i.ttl k ≤ maxLifetime ∧ t.addSeconds? (i.ttl k) = some token.expiresAt ∧
      token.text =
        i.encode ⟨subject, token.session, k, t.seconds, token.expiresAt.seconds⟩ := by
  have ha : (i.issue k subject t).Along ⟨fun _ _ => True, fun _ _ => True⟩
      (fun tr out => ∀ token, out = .finished (.ok token) →
        (∃ o : Observation, tr = [o] ∧ o.Saw .freshId token.session) ∧
          i.ttl k ≤ maxLifetime ∧ t.addSeconds? (i.ttl k) = some token.expiresAt ∧
          token.text =
            i.encode ⟨subject, token.session, k, t.seconds, token.expiresAt.seconds⟩) [] := by
    refine Session.along_issue (fun _ => nofun) (fun _ _ => nofun) fun e hle he =>
      ⟨trivial, fun o session ho _ token ht => ?_⟩
    cases ht
    exact ⟨⟨o, rfl, ho⟩, hle, he, rfl⟩
  exact (h.along ha (Trace.all_true tr)).1 token rfl

end TokenIssuer

namespace Session

variable {i : TokenIssuer} {v : TokenVerifier}

/-- A pair that is handed out is the pair of an issuance, made when the clock was read. -/
theorem pair_of_reaches {r : SessionRecord} {tr : Trace} {pair : TokenPair}
    (h : (issuePair i r).Reaches tr (.done (.ok pair))) :
    ∃ m, Fits i m ∧ m.record = r ∧ pair = m.pair i ∧ ∃ o ∈ tr, o.Saw .now m.issuedAt := by
  have ha : (issuePair i r).Along ⟨fun _ _ => True, fun _ _ => True⟩
      (fun tr out => ∀ pair, out = .finished (.ok pair) →
        ∃ m, Fits i m ∧ m.record = r ∧ pair = m.pair i ∧ ∃ o ∈ tr, o.Saw .now m.issuedAt) [] := by
    refine along_issuePair (d := default) (fun _ _ _ _ => trivial)
      (fun newer out hs _ pair hp => ?_) fun m newer hr _ hf hd _ => ?_
    · subst hp
      cases hs
    · refine along_keepPair (fun _ => trivial) (fun _ _ _ _ _ => trivial)
        (fun _ _ _ _ _ _ _ _ => trivial) fun kept out hk _ pair hp => ?_
      subst hp
      cases hk with
      | both =>
        obtain ⟨o₁, o₂, o₃, rfl, h₁, -⟩ := hd
        exact ⟨m, hf, hr, rfl, o₁, by simp, h₁⟩
  exact (h.along ha (Trace.all_true tr)).1 pair rfl

/-- With settings that satisfy their rule: a token of a kind that is issued at some instant is
decoded as what it was issued for, with the whole second of this instant and its lifetime later, and
not as the other kind; and the tokens of a pair are issued at the same instant and expire one after
the other. -/
theorem issued_token_round_trip {s : Settings.AuthSettings} (hi : TokenIssuer.ofSettings s = .ok i)
    (hv : TokenVerifier.ofSettings s = .ok v) :
    (∀ k subject t tr token, (i.issue k subject t).Reaches tr (.done (.ok token)) →
      (∃ o : Observation, tr = [o] ∧ o.Saw .freshId token.session) ∧
      v.DecodesAs token.text
        ⟨subject, token.session, k, t.seconds, t.seconds + s.lifetime k⟩) ∧
    ∀ r tr pair, (issuePair i r).Reaches tr (.done (.ok pair)) →
      ∃ t : Instant, (∃ o ∈ tr, o.Saw .now t) ∧
        v.DecodesAs pair.access.text
          ⟨r.subject, pair.access.session, .access, t.seconds, t.seconds + s.lifetime .access⟩ ∧
        v.DecodesAs pair.refresh.text
          ⟨r.subject, pair.refresh.session, .refresh, t.seconds, t.seconds + s.lifetime .refresh⟩ ∧
        t.seconds + s.lifetime .access < t.seconds + s.lifetime .refresh := by
  obtain ⟨hvalid, hset⟩ := TokenIssuer.settings_of_ofSettings hi
  obtain ⟨-, hkey⟩ := TokenVerifier.settings_of_ofSettings hv
  have decodes : ∀ {k subject session} {t e : Instant}, i.ttl k ≤ TokenIssuer.maxLifetime →
      t.addSeconds? (i.ttl k) = some e →
      v.DecodesAs (i.encode ⟨subject, session, k, t.seconds, e.seconds⟩)
        ⟨subject, session, k, t.seconds, t.seconds + s.lifetime k⟩ := by
    intro k subject session t e hle he
    obtain ⟨hti, hte⟩ := fitsWord_of_addSeconds? hle he
    have hs := Instant.seconds_addSeconds? he
    rw [(hset k).2] at hs
    rw [hs] at hte ⊢
    exact TokenVerifier.decodesAs_encode ((hkey k).trans (hset k).1.symm) hti hte
  refine ⟨fun k subject t tr token h => ?_, fun r tr pair h => ?_⟩
  · obtain ⟨ho, hle, he, htext⟩ := TokenIssuer.issued_of_reaches h
    exact ⟨ho, htext ▸ decodes hle he⟩
  · obtain ⟨m, hf, rfl, rfl, ho⟩ := pair_of_reaches h
    have hlt := hvalid.lifetime_lt
    exact ⟨m.issuedAt, ho, decodes (hf.lifetime .access) (hf.expiry .access),
      decodes (hf.lifetime .refresh) (hf.expiry .refresh), by omega⟩

/-- A token that is issued late in a second, and a pair. -/
theorem round_trip_late_in_second :
    ∃ (s : Settings.AuthSettings) (i : TokenIssuer) (v : TokenVerifier) (token : IssuedToken)
      (pair : TokenPair), TokenIssuer.ofSettings s = .ok i ∧ TokenVerifier.ofSettings s = .ok v ∧
      token.issuedAt = ⟨1000, 999999999⟩ ∧
      v.decode .access ⟨1060, 5⟩ token.text =
        .ok ⟨.ofNat 1, token.session, .access, 1000, 1060⟩ ∧
      (∃ e, v.decode .refresh ⟨1060, 5⟩ token.text = .error e ∧ e.kind = .unauthorized) ∧
      v.decode .access ⟨2060, 0⟩ pair.access.text =
        .ok ⟨.ofNat 1, pair.access.session, .access, 2000, 2060⟩ ∧
      v.decode .refresh ⟨2600, 0⟩ pair.refresh.text =
        .ok ⟨.ofNat 1, pair.refresh.session, .refresh, 2000, 2600⟩ := by
  let s : Settings.AuthSettings := ⟨"access", "refresh", "pepper", 60, 600, 0, ⟨8, 1, 1⟩⟩
  let i : TokenIssuer := ⟨Bytes.ofString "access", Bytes.ofString "refresh", 60, 600⟩
  let v : TokenVerifier := ⟨Bytes.ofString "access", Bytes.ofString "refresh", 0⟩
  let w : World := ⟨⟨0, 0⟩, 0, .empty, default, []⟩
  obtain ⟨htoken, hpair⟩ := issued_token_round_trip (s := s) (i := i) (v := v) rfl rfl
  obtain ⟨tr, token, hreach, hat⟩ : ∃ tr token,
      (i.issue .access (.ofNat 1) ⟨1000, 999999999⟩).Reaches tr (.done (.ok token)) ∧
        token.issuedAt = ⟨1000, 999999999⟩ := by
    have h := Reaches.step_ask (q := .freshId)
      (.start (a := i.issue .access (.ofNat 1) ⟨1000, 999999999⟩)) w .works (Uuid.ofNat 4) w
    exact ⟨_, _, h, rfl⟩
  obtain ⟨tr', pair, hreach', hnow⟩ : ∃ tr pair,
      (issuePair i (.fresh (.ofNat 1) [])).Reaches tr (.done (.ok pair)) ∧
        ∀ o ∈ tr, ∀ t, o.Saw .now t → t = ⟨2000, 0⟩ := by
    have h₁ := Reaches.step_ask (q := .now) (.start (a := issuePair i (.fresh (.ofNat 1) [])))
      w .works (⟨2000, 0⟩ : Instant) w
    have h₂ := Reaches.step_ask (q := .freshId) h₁ w .works (Uuid.ofNat 4) w
    have h₃ := Reaches.step_ask (q := .freshId) h₂ w .works (Uuid.ofNat 5) w
    have h₄ := h₃.step_first w .works (.ok ()) w
    have h₅ := h₄.step_ask w .works (.ok ()) w
    refine ⟨_, _, h₅, fun o ho t hs => ?_⟩
    simp only [List.mem_cons, List.not_mem_nil, or_false] at ho
    rcases ho with rfl | rfl | rfl | rfl | rfl <;> obtain ⟨b, how, a, he⟩ := hs <;> cases he
    rfl
  obtain ⟨-, hd⟩ := htoken _ _ _ _ _ hreach
  obtain ⟨t, ⟨o, ho, hs⟩, ha, hr, -⟩ := hpair _ _ _ hreach'
  obtain rfl := hnow o ho t hs
  have hlate : (1060 : Int) - (0 : Nat) ≤ 1000 + (60 : Nat) := by decide
  have haccess : (2060 : Int) - (0 : Nat) ≤ 2000 + (60 : Nat) := by decide
  have hrefresh : (2600 : Int) - (0 : Nat) ≤ 2000 + (600 : Nat) := by decide
  exact ⟨s, i, v, token, pair, rfl, rfl, hat, hd.accepted ⟨1060, 5⟩ (by decide) hlate,
    hd.other ⟨1060, 5⟩, ha.accepted ⟨2060, 0⟩ (by decide) haccess,
    hr.accepted ⟨2600, 0⟩ (by decide) hrefresh⟩

end Session

end Gatehouse
