import Gatehouse.Proofs.Session.AllOrNothing
import Gatehouse.Proofs.Session.IssuedTokens
import Gatehouse.Proofs.Session.Reading

/-!
# Lifetimes and the calendar

Settings bound a lifetime from below only. One that can be counted in milliseconds but leads out of
the calendar (`LeavesCalendar`) makes the issuing of a token break off, and with it the login or the
exchange that it is a part of; any other is either too long, which is a failure, or the lifetime of
the token that is issued (`issuing_breaks_off_iff`).
-/

namespace Gatehouse

open Gatehouse.Action
open Time (Instant)

/-! ## Adding a lifetime -/

theorem Time.Instant.addSeconds?_eq_none_iff {t : Instant} {n : Nat}
    (h : Instant.minSeconds ≤ t.seconds) :
    t.addSeconds? n = none ↔ Instant.maxSeconds < t.seconds + n := by
  simp only [Instant.addSeconds?, Instant.inRange, Bool.and_eq_true, decide_eq_true_eq,
    ite_eq_right_iff, reduceCtorEq, imp_false]
  omega

theorem Time.Instant.nanos_addSeconds? {t u : Instant} {n : Nat} (h : t.addSeconds? n = some u)
    (hn : t.nanos < Time.nanosPerSecond) : u.nanos = t.nanos := by
  simp only [Instant.addSeconds?, Option.ite_none_right_eq_some, Option.some.injEq] at h
  rw [← h.2, if_neg fun hle => Nat.not_le.2 hn hle.1]

/-- Whether a lifetime that can be counted in milliseconds leads out of the calendar. -/
def LeavesCalendar (n : Nat) (t : Instant) : Prop :=
  n ≤ TokenIssuer.maxLifetime ∧ Instant.maxSeconds < t.seconds + n

instance (n : Nat) (t : Instant) : Decidable (LeavesCalendar n t) :=
  inferInstanceAs (Decidable (_ ∧ _))

/-- Whether a token was issued at an instant and expires a number of seconds later. -/
structure IssuedToken.Lasts (token : IssuedToken) (t : Instant) (n : Nat) : Prop where
  issuedAt : token.issuedAt = t
  seconds : token.expiresAt.seconds = t.seconds + n
  nanos : t.nanos < Time.nanosPerSecond → token.expiresAt.nanos = t.nanos

theorem IssuedToken.lasts_of_addSeconds? {token : IssuedToken} {t : Instant} {n : Nat}
    (ht : token.issuedAt = t) (h : t.addSeconds? n = some token.expiresAt) : token.Lasts t n :=
  ⟨ht, Instant.seconds_addSeconds? h, Instant.nanos_addSeconds? h⟩

/-- How the issuing of a token at an instant ends, for a lifetime. -/
structure EndsBy (n : Nat) (t : Instant) (out : Outcome IssuedToken) : Prop where
  crashed_iff : out = .crashed ↔ LeavesCalendar n t
  failed_iff : ∀ e, out = .finished (.error e) ↔
    TokenIssuer.maxLifetime < n ∧ e = TokenIssuer.lifetimeOutOfRange
  issued : ∀ token, out = .finished (.ok token) → token.Lasts t n

namespace TokenIssuer

variable {i : TokenIssuer} {σ : Type} {k : TokenKind} {t : Instant}

theorem endsBy_issue (h : Instant.minSeconds ≤ t.seconds)
    (answer : (q : Question) → σ → q.Answer × σ) (st : σ) (subject : Uuid) :
    EndsBy (i.ttl k) t ((i.issue k subject t).run answer st).1 := by
  unfold issue
  by_cases hlong : maxLifetime < i.ttl k
  · rw [if_pos hlong]
    refine ⟨iff_of_false nofun fun hc => Nat.not_le.2 hlong hc.1, fun e => ?_, nofun⟩
    constructor
    · intro he
      cases he
      exact ⟨hlong, rfl⟩
    · rintro ⟨-, rfl⟩
      rfl
  rw [if_neg hlong]
  have hle := Nat.not_lt.1 hlong
  cases hadd : t.addSeconds? (i.ttl k) with
  | none =>
    have hout := (Instant.addSeconds?_eq_none_iff h).1 hadd
    exact ⟨iff_of_true rfl ⟨hle, hout⟩, fun e => iff_of_false nofun fun hf => hlong hf.1, nofun⟩
  | some expiresAt =>
    refine ⟨iff_of_false nofun fun hc => ?_, fun e => iff_of_false nofun fun hf => hlong hf.1,
      fun token ht => ?_⟩
    · rw [(Instant.addSeconds?_eq_none_iff h).2 hc.2] at hadd
      cases hadd
    · cases ht
      exact IssuedToken.lasts_of_addSeconds? rfl hadd

end TokenIssuer

/-! ## Lifetimes that never leave the calendar -/

/-- Before the year 2100 the lifetimes up to 8206164432000 seconds stay in the calendar. -/
theorem forall_not_leavesCalendar_iff {n : Nat} :
    (∀ t : Instant, 0 ≤ t.seconds → t.seconds < 4102444800 → ¬LeavesCalendar n t) ↔
      n ≤ 8206164432000 ∨ TokenIssuer.maxLifetime < n := by
  unfold LeavesCalendar Instant.maxSeconds
  constructor
  · intro h
    have hlast := h ⟨4102444799, 0⟩ (by decide) (by decide)
    simp only at hlast
    omega
  · rintro h t - hlt ⟨hle, hout⟩
    omega

namespace Session

variable {v : Services} {s : Settings.AuthSettings} {tr : Trace} {t : Instant}

/-! ## Openings -/

/-- The refresh token lives longer than the access token, so its lifetime is only added if that of
the access token could be counted. -/
theorem overruns_iff (hv : v.Configured s) (h : Instant.minSeconds ≤ t.seconds) :
    Overruns v.issuer t ↔ ∃ k, LeavesCalendar (s.lifetime k) t := by
  obtain ⟨hvalid, hset⟩ := TokenIssuer.settings_of_ofSettings hv.issuer
  have hlt := hvalid.lifetime_lt
  rw [Overruns, (hset _).2, (hset _).2, Instant.addSeconds?_eq_none_iff h,
    Instant.addSeconds?_eq_none_iff h]
  constructor
  · rintro ⟨hle, hout | ⟨hle', hout⟩⟩
    · exact ⟨.access, hle, hout⟩
    · exact ⟨.refresh, hle', hout⟩
  · rintro ⟨k, hle, hout⟩
    cases k with
    | access => exact ⟨hle, .inl hout⟩
    | refresh => exact ⟨by omega, .inr ⟨hle, hout⟩⟩

theorem attempted_of_reaches {q : Opening} {out : Outcome TokenPair}
    (hr : (q.action v).Reaches tr out.action) : Attempted v.issuer tr out := by
  cases q with
  | logIn email password =>
    exact attempted_of_loggedIn
      (along_action.1 (hr.along (v.along_logIn email password) (Trace.all_true tr)).1)
  | refresh token =>
    exact attempted_of_redeemed
      (along_action.1 (hr.along (v.along_refresh token) (Trace.all_true tr)).1)

/-- How a login or an exchange ends, by the time of issue. -/
structure PairEndsBy (s : Settings.AuthSettings) (tr : Trace) (out : Outcome TokenPair) :
    Prop where
  crashed_iff : out = .crashed ↔ ∃ t, IssuesAt tr t ∧ ∃ k, LeavesCalendar (s.lifetime k) t
  failed : ∀ t k, IssuesAt tr t → TokenIssuer.maxLifetime < s.lifetime k → out ≠ .crashed →
    out = .finished (.error TokenIssuer.lifetimeOutOfRange)
  issued : ∀ pair, out = .finished (.ok pair) → ∃ t, IssuesAt tr t ∧
    pair.access.Lasts t (s.lifetime .access) ∧ pair.refresh.Lasts t (s.lifetime .refresh)

theorem Attempted.pairEndsBy {out : Outcome TokenPair} (h : Attempted v.issuer tr out)
    (hv : v.Configured s) (hdate : ∀ t, IssuesAt tr t → Instant.minSeconds ≤ t.seconds) :
    PairEndsBy s tr out := by
  obtain ⟨-, hset⟩ := TokenIssuer.settings_of_ofSettings hv.issuer
  constructor
  · rw [h.crashed_iff]
    exact exists_congr fun t => and_congr_right fun ht => overruns_iff hv (hdate t ht)
  · intro t k ht hlong hout
    cases h with
    | refused hno => exact absurd ht (hno t)
    | tooLong => rfl
    | breaksOff => exact absurd rfl hout
    | issued hf =>
      have hle := hf.lifetime k
      rw [(hset k).2] at hle
      omega
  · rintro pair rfl
    cases h with
    | @issued m _ hf ht hpair =>
      obtain rfl := hpair pair rfl
      have hlasts : ∀ k, (m.token v.issuer k).Lasts m.issuedAt (s.lifetime k) := fun k =>
        (hset k).2 ▸ IssuedToken.lasts_of_addSeconds? rfl (hf.expiry k)
      exact ⟨m.issuedAt, (ht _).2 rfl, hlasts .access, hlasts .refresh⟩

/-- With settings that satisfy their rule, the issuing of a token breaks off exactly if its lifetime
can be counted and leads out of the calendar; it fails exactly if the lifetime cannot be counted,
and otherwise the token expires its lifetime after it was issued. Before the year 2100 nothing
breaks off exactly with lifetimes up to 8206164432000 seconds and with those that cannot be counted.
A login or an exchange breaks off exactly if it comes to the issuing of a pair and one of the two
lifetimes leads out of the calendar. -/
theorem issuing_breaks_off_iff (hv : v.Configured s) :
    (∀ k subject (t : Instant), Instant.minSeconds ≤ t.seconds →
      ∀ {σ : Type} (answer : (q : Question) → σ → q.Answer × σ) (st : σ),
        EndsBy (s.lifetime k) t ((v.issuer.issue k subject t).run answer st).1) ∧
    (∀ subject {σ : Type} (answer : (q : Question) → σ → q.Answer × σ) (st : σ),
      Instant.minSeconds ≤ (answer .now st).1.seconds →
        EndsBy (s.lifetime .access) (answer .now st).1
          ((v.issuer.issueAccess subject).run answer st).1) ∧
    (∀ k, (∀ t : Instant, 0 ≤ t.seconds → t.seconds < 4102444800 →
        ¬LeavesCalendar (s.lifetime k) t) ↔
      s.lifetime k ≤ 8206164432000 ∨ TokenIssuer.maxLifetime < s.lifetime k) ∧
    ∀ (q : Opening) tr (out : Outcome TokenPair), (q.action v).Reaches tr out.action →
      (∀ t, IssuesAt tr t → Instant.minSeconds ≤ t.seconds) → PairEndsBy s tr out := by
  obtain ⟨-, hset⟩ := TokenIssuer.settings_of_ofSettings hv.issuer
  refine ⟨fun k subject t ht _ answer st => ?_, fun subject _ answer st ht => ?_,
    fun k => forall_not_leavesCalendar_iff,
    fun q tr out hr => (attempted_of_reaches hr).pairEndsBy hv⟩
  · rw [← (hset k).2]
    exact TokenIssuer.endsBy_issue ht answer st subject
  · rw [← (hset .access).2]
    exact TokenIssuer.endsBy_issue ht answer (answer .now st).2 subject

/-- The access token of a pair is issued for a minute, and the refresh token not for three hundred
million years. -/
theorem long_lifetime_breaks_off :
    ∃ (s : Settings.AuthSettings) (v : Services), v.Configured s ∧ s.accessTtl = 60 ∧
      s.refreshTtl = 9223372036854775 ∧
      ((v.issuer.issue .refresh (.ofNat 3) ⟨3786912000, 0⟩).run (memoryAlone 0) .empty).1 =
        .crashed ∧
      (∃ token, ((v.issuer.issueAccess (.ofNat 3)).run (memoryAlone 0) .empty).1 =
        .finished (.ok token) ∧ token.Lasts ⟨0, 0⟩ 60) ∧
      ∃ tr, smallLogIn v ((smallReactions .works .works).take 4) = some (tr, .crash) ∧
        ∃ t, IssuesAt tr t ∧ ∃ k, LeavesCalendar (s.lifetime k) t := by
  let s : Settings.AuthSettings := { smallSettings with refreshTtl := 9223372036854775 }
  let v : Services := { smallServices with issuer :=
    ⟨smallServices.issuer.accessKey, smallServices.issuer.refreshKey, 60, 9223372036854775⟩ }
  have hv : v.Configured s := ⟨rfl, rfl⟩
  obtain ⟨hissue, haccess, -, hopen⟩ := issuing_breaks_off_iff hv
  have hend := hissue .refresh (.ofNat 3) ⟨3786912000, 0⟩ (by decide) (memoryAlone 0) .empty
  have hend' := haccess (.ofNat 3) (memoryAlone 0) .empty (by decide)
  obtain ⟨tr, h⟩ : ∃ tr, smallLogIn v ((smallReactions .works .works).take 4) =
      some (tr, .crash) := ⟨_, rfl⟩
  obtain ⟨hr, -⟩ := reaches_of_play h .start trivial
  have hdate : ∀ t, IssuesAt tr t → Instant.minSeconds ≤ t.seconds := by
    rintro t ⟨o, r, older, u, roles, hsuf, ho, -⟩
    obtain ⟨second, hmem⟩ := shows_of_play h (hsuf.subset List.mem_cons_self) ho
    simp only [smallReactions, List.take, List.mem_cons, Prod.mk.injEq, reduceCtorEq, and_false,
      Reaction.shows.injEq, List.not_mem_nil, or_false, false_or] at hmem
    rw [hmem.2]
    decide
  refine ⟨s, v, hv, rfl, rfl, hend.crashed_iff.2 (by decide), ⟨_, rfl, hend'.issued _ rfl⟩,
    tr, h, ?_⟩
  exact (hopen (.logIn "ada@example.com" "secret") tr .crashed hr hdate).crashed_iff.1 rfl

end Session

end Gatehouse
