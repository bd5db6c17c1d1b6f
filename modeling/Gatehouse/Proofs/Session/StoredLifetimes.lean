import Gatehouse.Proofs.Session.Lifetimes
import Gatehouse.Proofs.Session.Workload
import Gatehouse.Proofs.Store.Backends

/-!
# How long the records of sessions are kept

A store is asked to keep a text for a number of seconds. A server is sent the milliseconds in 64
bits, so that it keeps the text for just as long exactly if the milliseconds fit there and are not
zero (`keepsFor_iff`). A lifetime that settings admit may be too long for that. But the tokens of a
pair are both issued before a record is kept, and a token is not issued if its milliseconds do not
fit 63 bits, so what is asked of a store is always kept for the lifetime of the settings
(`records_kept_for_lifetime`).
-/

namespace Gatehouse

open Gatehouse.Action
open Time (Duration)

/-! ## Times to live in the two stores -/

namespace Store

variable {n : Nat} {key value : String}

/-- Whether a text is kept for just so many seconds, in memory and on a server. -/
structure KeepsFor (n : Nat) (key value : String) (ttl : Duration) : Prop where
  memory : ∀ now m, Memory.answer now (.set key value ttl) m =
    (.ok (), m.insert ⟨key, value, now + n * 1000000000⟩)
  server : ∀ keyStart, Redis.command? keyStart (.set key value ttl) =
    .ok ["SET", keyStart ++ key, value, "PX", toString (1000 * n)]

theorem Redis.sentMillis_eq_iff :
    Redis.sentMillis (.ofSeconds n) = 1000 * n ↔ 1000 * n < 18446744073709551616 := by
  constructor
  · intro h
    have hlt : Redis.sentMillis (.ofSeconds n) < 18446744073709551616 :=
      Nat.mod_lt _ (by decide)
    omega
  · exact Redis.sentMillis_ofSeconds

/-- The milliseconds must fit 64 bits. -/
theorem keepsFor_iff :
    KeepsFor n key value (.ofSeconds n) ↔ 0 < n ∧ 1000 * n < 18446744073709551616 := by
  constructor
  · intro h
    have hmemory := h.memory 0 .empty
    rw [Memory.answer_set] at hmemory
    have hpos : n ≠ 0 := by
      intro hzero
      rw [if_pos hzero] at hmemory
      cases hmemory
    have hserver := h.server ""
    rw [Redis.command?] at hserver
    split at hserver
    · cases hserver
    · have hsent : toString (Redis.sentMillis (.ofSeconds n)) = toString (1000 * n) := by
        simpa using hserver
      have heq := congrArg Redis.Server.millis? hsent
      rw [Redis.Server.millis?_toString, Redis.Server.millis?_toString] at heq
      exact ⟨Nat.pos_of_ne_zero hpos, Redis.sentMillis_eq_iff.1 (Option.some.inj heq)⟩
  · rintro ⟨hpos, hfits⟩
    have hzero : 1000 * n ≠ 0 := by omega
    constructor
    · intro now m
      rw [Memory.answer_set, if_neg (by omega)]
    · intro keyStart
      rw [Redis.command?, Redis.sentMillis_ofSeconds hfits, if_neg hzero]

/-- A time to live of so many seconds that 64 bits hold no millisecond of it. -/
example : Redis.command? "" (.set "key" "text" (.ofSeconds 2305843009213693952)) =
    .error (zeroTtl "key") := rfl

end Store

namespace Session

variable {v : Services} {s : Settings.AuthSettings} {tr : Trace}

/-! ## What requests ask of the store -/

theorem Minted.lifetime_le (hv : v.Configured s) {m : Issuance} (hm : Minted v.issuer m tr)
    (k : TokenKind) : s.lifetime k ≤ TokenIssuer.maxLifetime := by
  obtain ⟨-, hset⟩ := TokenIssuer.settings_of_ofSettings hv.issuer
  exact (hset k).2 ▸ hm.fits.lifetime k

/-- A record is kept for the lifetime of its token. -/
theorem Minted.keepsFor (hv : v.Configured s) {m : Issuance} (hm : Minted v.issuer m tr)
    (k : TokenKind) (key value : String) :
    Store.KeepsFor (s.lifetime k) key value (v.issuer.sessionTtl k) := by
  obtain ⟨-, hset⟩ := TokenIssuer.settings_of_ofSettings hv.issuer
  have hpos := hv.ttl_pos k
  have hle := hm.lifetime_le hv k
  rw [TokenIssuer.sessionTtl, (hset k).2]
  rw [(hset k).2] at hpos
  refine Store.keepsFor_iff.2 ⟨hpos, ?_⟩
  unfold TokenIssuer.maxLifetime at hle
  omega

theorem exists_minted_of_set {r : Request} {a : Action r.Result}
    (hr : (r.action v).Reaches tr a) {o : Observation} (ho : o ∈ tr) {key value : String}
    {ttl : Duration} (hq : o.question = .store (.set key value ttl)) :
    ∃ m k, Minted v.issuer m tr ∧ o.question = .store (m.save v.issuer k) := by
  obtain ⟨older, hs⟩ := Trace.exists_suffix_of_mem ho
  have hall := (hr.along (along_request r) (Trace.all_true tr)).2
  obtain ⟨m, k, horigin, -, hsave⟩ := hall.of_suffix hs key value ttl hq
  exact ⟨m, k, horigin.minted.extend ((List.suffix_cons o older).trans hs), hsave⟩

/-- Both records of a pair that is handed out were asked to be kept. -/
theorem exists_save_of_pair {q : Opening} {pair : TokenPair}
    (hr : (q.action v).Reaches tr (.done (.ok pair))) :
    ∃ m, Minted v.issuer m tr ∧ pair = m.pair v.issuer ∧
      ∀ k, ∃ o ∈ tr, o.question = .store (m.save v.issuer k) := by
  cases q with
  | logIn email password =>
    have hend := (hr.along (v.along_logIn email password) (Trace.all_true tr)).1
    cases (hend : v.LoggedIn tr (.finished (.ok pair))) with
    | stopped _ h => cases h
    | issued hm _ h =>
      cases h with
      | both hsaved =>
        refine ⟨_, hm.append _, rfl, fun k => ?_⟩
        obtain ⟨o, ho, hq⟩ := hsaved.exists k
        exact ⟨o, List.mem_append_left _ ho, hq⟩
  | refresh token =>
    have hend := (hr.along (v.along_refresh token) (Trace.all_true tr)).1
    cases (hend : v.Redeemed token tr (.finished (.ok pair))) with
    | stopped _ h => cases h
    | @rotated c r m gone newer older o hrenews hsaved =>
      refine ⟨m, ?_, rfl, fun k => ?_⟩
      · exact ((hrenews.minted.append newer).append [o]).append gone
      · obtain ⟨x, hx, hq⟩ := hsaved.exists k
        exact ⟨x, by simp [hx], hq⟩

/-- An opening that comes to the issuing of tokens fails if a lifetime cannot be counted, unless it
breaks off. -/
theorem Attempted.fails_of_long {i : TokenIssuer} {out : Outcome TokenPair} {k : TokenKind}
    (h : Attempted i tr out) (hlong : TokenIssuer.maxLifetime < i.ttl k)
    {t : Time.Instant} (ht : IssuesAt tr t) (hout : out ≠ .crashed) :
    out = .finished (.error TokenIssuer.lifetimeOutOfRange) := by
  cases h with
  | refused hno => exact absurd ht (hno t)
  | tooLong => rfl
  | breaksOff => exact absurd rfl hout
  | issued hf => exact absurd (hf.lifetime k) (Nat.not_le.2 hlong)

/-- With settings that satisfy their rule, every text that a request asks a store to keep is the
record of one token of a pair that it made, and either store keeps it for just the seconds that the
settings give the token. Both records of a pair that is handed out are asked to be kept. If a
lifetime cannot be counted, no request asks a store to keep anything, and a login or an exchange
that comes to the issuing of a pair fails, unless it breaks off. -/
theorem records_kept_for_lifetime (hv : v.Configured s) :
    (∀ (r : Request) (tr : Trace) (a : Action r.Result), (r.action v).Reaches tr a →
      ∀ o ∈ tr, ∀ key value ttl, o.question = .store (.set key value ttl) →
        ∃ m k, Minted v.issuer m tr ∧ key = storeKey (m.session k) ∧
          value = recordText (m.bound k) ∧ ttl = .ofSeconds (s.lifetime k) ∧
          Store.KeepsFor (s.lifetime k) key value ttl) ∧
    (∀ (q : Opening) (tr : Trace) (pair : TokenPair),
      (q.action v).Reaches tr (.done (.ok pair)) → ∀ k, ∃ o ∈ tr, ∃ value,
        o.question = .store
          (.set (storeKey (pair.token k).session) value (.ofSeconds (s.lifetime k)))) ∧
    ∀ k, TokenIssuer.maxLifetime < s.lifetime k →
      (∀ (r : Request) (tr : Trace) (a : Action r.Result), (r.action v).Reaches tr a →
        ∀ o ∈ tr, ∀ key value ttl, o.question ≠ .store (.set key value ttl)) ∧
      ∀ (q : Opening) (tr : Trace) (out : Outcome TokenPair), (q.action v).Reaches tr out.action →
        (∃ t, IssuesAt tr t) → out ≠ .crashed →
          out = .finished (.error TokenIssuer.lifetimeOutOfRange) := by
  obtain ⟨-, hset⟩ := TokenIssuer.settings_of_ofSettings hv.issuer
  have hsession : ∀ k, v.issuer.sessionTtl k = .ofSeconds (s.lifetime k) := fun k => by
    rw [TokenIssuer.sessionTtl, (hset k).2]
  refine ⟨fun r tr a hr o ho key value ttl hq => ?_, fun q tr pair hr k => ?_,
    fun k hlong => ⟨fun r tr a hr o ho key value ttl hq => ?_, fun q tr out hr ht hout => ?_⟩⟩
  · obtain ⟨m, k, hm, hsave⟩ := exists_minted_of_set hr ho hq
    obtain ⟨hkey, hvalue, rfl⟩ := eq_of_set_eq_save (hq.symm.trans hsave)
    exact ⟨m, k, hm, hkey, hvalue, hsession k, hm.keepsFor hv k key value⟩
  · obtain ⟨m, -, rfl, hkept⟩ := exists_save_of_pair hr
    obtain ⟨o, ho, hq⟩ := hkept k
    refine ⟨o, ho, recordText (m.bound k), hq.trans ?_⟩
    rw [Issuance.save, saveCall, hsession, Issuance.pair_token, Issuance.token_session]
  · obtain ⟨m, -, hm, -⟩ := exists_minted_of_set hr ho hq
    exact absurd (hm.lifetime_le hv k) (Nat.not_le.2 hlong)
  · obtain ⟨t, ht⟩ := ht
    rw [← (hset k).2] at hlong
    exact (attempted_of_reaches hr).fails_of_long hlong ht hout

/-- The two records of a pair are kept for a minute and for ten minutes. -/
theorem small_lifetimes_kept :
    ∃ tr pair, smallLogIn smallServices (smallReactions .works .works) =
        some (tr, .done (.ok pair)) ∧
      (∃ o ∈ tr, ∃ value, o.question =
        .store (.set (storeKey pair.access.session) value (.ofSeconds 60))) ∧
      ∃ o ∈ tr, ∃ key value ttl, o.question = .store (.set key value ttl) ∧
        Store.KeepsFor 600 key value ttl := by
  obtain ⟨tr, pair, h⟩ : ∃ tr pair, smallLogIn smallServices (smallReactions .works .works) =
      some (tr, .done (.ok pair)) := ⟨_, _, rfl⟩
  obtain ⟨hr, -⟩ := reaches_of_play h .start trivial
  obtain ⟨hkept, hpair, -⟩ := records_kept_for_lifetime smallServices_configured
  have haccess := hpair (.logIn "ada@example.com" "secret") tr pair hr .access
  obtain ⟨o, ho, value, hq⟩ := hpair (.logIn "ada@example.com" "secret") tr pair hr .refresh
  obtain ⟨m, k, -, -, -, httl, hkeeps⟩ :=
    hkept (.logIn "ada@example.com" "secret") tr _ hr o ho _ _ _ hq
  have hlifetime : 600 = smallSettings.lifetime k := Duration.ofSeconds_injective httl
  exact ⟨tr, pair, h, haccess, o, ho, _, _, _, hq, hlifetime ▸ hkeeps⟩

end Session

end Gatehouse
