import Gatehouse.Proofs.Run.Scope
import Gatehouse.Proofs.Session.Finality

/-!
# How long an access token is accepted

Two limits decide how long an access token is accepted: the whole second in which the token expires,
counted from its issue and taken with the leeway, and the moment up to which its record is kept,
counted to the nanosecond from when it was written. The record is written once, so it is there until
the second limit and never after it, unless it is removed (`deadline_of_saved`, `entry_of_saved`).
With one clock for both, the token is accepted up to its lifetime after the issue, and refused from
its lifetime after the writing on, whatever the leeway is (`access_token_validity_window`).
-/

namespace Gatehouse

/-- The nanoseconds of an instant. -/
def Time.Instant.inNanos (t : Time.Instant) : Int := t.seconds * 1000000000 + t.nanos

namespace Session

open Gatehouse.Action RunState
open Time (Instant)

variable {v : Services} {S₀ S S' T : RunState (workload v)} {a b : Nat} {t u : Thread (workload v)}
  {m : Issuance} {k : TokenKind}

/-! ## The one writing of a record -/

/-- A text that is kept under a session of an issuance is its record, kept after the issuance and
not before by the same request. -/
theorem save_of_key (hS : S.Reachable) (ht : S.threads[a]? = some t)
    (hm : Minted v.issuer m t.trace) {o : Observation} {older : Trace}
    (hs : o :: older <:+ t.trace) {key value : String} {ttl : Time.Duration}
    (hq : o.question = .store (.set key value ttl)) (hk : key = storeKey (m.session k)) :
    o.question = .store (m.save v.issuer k) ∧ Minted v.issuer m older ∧
      WroteOther v.issuer m k older := by
  obtain ⟨m', k', horig, honce, hsave⟩ := saves_origin hS ht hs hq
  obtain ⟨hkey, -, -⟩ := eq_of_set_eq_save (hq.symm.trans hsave)
  have hm' := horig.minted.extend ((List.suffix_cons o older).trans hs)
  obtain ⟨-, rfl, rfl⟩ := hm.unique hS ht ht hm' (storeKey_injective (hk.symm.trans hkey))
  exact ⟨hsave, horig.minted, honce⟩

theorem ne_save_of_earlier (hS : S.Reachable) (ht : S.threads[a]? = some t)
    (hm : Minted v.issuer m t.trace) {o o' : Observation} {older : Trace}
    (hs : o :: older <:+ t.trace) (hq : o.question = .store (m.save v.issuer k))
    (ho' : o' ∈ older) : o'.question ≠ .store (m.save v.issuer k) := by
  intro hq'
  obtain ⟨-, -, honce⟩ := save_of_key hS ht hm hs hq rfl
  have hother := honce o' ho' (writes_of_save hq')
  exact session_other_ne hS ht hm k (session_eq_of_save_eq (hq'.symm.trans hother)).symm

theorem save_unique (hS : S.Reachable) (ht : S.threads[a]? = some t)
    (hm : Minted v.issuer m t.trace) {o o' : Observation} (ho : o ∈ t.trace)
    (hq : o.question = .store (m.save v.issuer k)) (ho' : o' ∈ t.trace)
    (hq' : o'.question = .store (m.save v.issuer k)) : o' = o := by
  obtain ⟨newer, older, htr⟩ := List.append_of_mem ho
  have hs : o :: older <:+ t.trace := ⟨newer, htr.symm⟩
  rw [htr] at ho'
  rcases List.mem_append.1 ho' with hmem | hmem
  · -- the other one is newer, so this one came before it
    obtain ⟨newer', older', rfl⟩ := List.append_of_mem hmem
    have hs' : o' :: (older' ++ o :: older) <:+ t.trace := by
      rw [htr, List.append_assoc, List.cons_append]
      exact List.suffix_append _ _
    exact absurd hq (ne_save_of_earlier hS ht hm hs' hq' (by simp))
  · rcases List.mem_cons.1 hmem with rfl | hmem
    · rfl
    · exact absurd hq' (ne_save_of_earlier hS ht hm hs hq hmem)

/-- Whatever is kept under the session of a token, at any time of a run, is kept up to the lifetime
of the token after the writing of its record. -/
theorem deadline_of_saved (hS : S.Reachable) (ht : S.threads[a]? = some t)
    (hm : Minted v.issuer m t.trace) {o : Observation} (ho : o ∈ t.trace)
    (hq : o.question = .store (m.save v.issuer k)) (hT : T.Reachable) (hr : Runs T S)
    {e : Store.Entry} (he : e ∈ T.world.store.entries) (hk : e.key = storeKey (m.session k)) :
    e.deadline = o.before.moment + (v.issuer.sessionTtl k).nanos := by
  obtain ⟨b, u, older, o', ttl, hu, hs, hq', hd⟩ := hT.written he
  obtain ⟨m', k', hm', hsave⟩ := saves_minted hT hu hs hq'
  obtain ⟨hkey, -, rfl⟩ := eq_of_set_eq_save (hq'.symm.trans hsave)
  obtain ⟨u', hu', -, hsuf⟩ := hr.thread hu
  -- an identifier is drawn once, so the one that wrote it is the request of the token
  have hmu := hm'.extend ((List.suffix_cons o' older).trans (hs.trans hsuf))
  obtain ⟨rfl, rfl, rfl⟩ := hm.unique hS ht hu' hmu (storeKey_injective (hk.symm.trans hkey))
  cases ht.symm.trans hu'
  have ho' : o' ∈ t.trace := hsuf.subset (hs.subset List.mem_cons_self)
  rwa [save_unique hS ht hm ho hq ho' hsave] at hd

/-- Nothing is kept under the session of a token from its lifetime after the writing of its record
on. -/
theorem get?_eq_none_of_saved (hS : S.Reachable) (ht : S.threads[a]? = some t)
    (hm : Minted v.issuer m t.trace) {o : Observation} (ho : o ∈ t.trace)
    (hq : o.question = .store (m.save v.issuer k)) (hT : T.Reachable) (hr : Runs T S)
    (hle : o.before.moment + (v.issuer.sessionTtl k).nanos ≤ T.world.moment) :
    T.world.get? (storeKey (m.session k)) = none := by
  cases hg : T.world.get? (storeKey (m.session k)) with
  | none => rfl
  | some text =>
    obtain ⟨e, he, hk, hlt, -⟩ := Store.Memory.exists_of_get? hg
    rw [deadline_of_saved hS ht hm ho hq hT hr he hk] at hlt
    exact absurd hlt (Nat.not_lt_of_le hle)

/-! ## Records that are not removed -/

/-- Whether a call that removes the record of a session took effect. -/
def Revoked (S : RunState (workload v)) (s : Uuid) : Prop :=
  ∃ (b : Nat) (u : Thread (workload v)) (d : Observation), S.threads[b]? = some u ∧ d ∈ u.trace ∧
    d.question = .store (revokeCall s) ∧ ∀ e, d.how ≠ .fails e

theorem Revoked.runs {s : Uuid} (h : Revoked S s) (hr : Runs S S') : Revoked S' s := by
  obtain ⟨b, u, d, hu, hd, hq, hw⟩ := h
  obtain ⟨u', hu', -, hsuf⟩ := hr.thread hu
  exact ⟨b, u', d, hu', hsuf.subset hd, hq, hw⟩

/-- The record of a spent session stays in a step that does not remove it. -/
theorem entry_stays (hS : S.Reachable) (ht : S.threads[a]? = some t) (hspent : Spent m k t)
    (hm : Minted v.issuer m t.trace) (hstep : Step S S') (hno : ¬Revoked S' (m.session k))
    {e : Store.Entry} (he : e ∈ S.world.store.entries) (hk : e.key = storeKey (m.session k)) :
    e ∈ S'.world.store.entries := by
  obtain ⟨b, older, o, hobs⟩ | hq := hstep.cases
  · have carried : ∀ call, o.question = .store call → (∀ e, o.how ≠ .fails e) →
        e ∈ (o.before.carryOut call).store.entries := by
      intro call hq hw
      rw [hobs.before] at he
      obtain he | rfl | ⟨value, ttl, rfl⟩ := Store.Memory.mem_answer_of_mem call he
      · exact he
      · obtain ⟨r, c, second, next, -, -, hb⟩ := hobs.thread
        rw [hk] at hq
        exact absurd ⟨b, _, o, hb, List.mem_cons_self, hq, hw⟩ hno
      · rw [hk] at hq
        exact absurd hq (no_save_of_spent hS ht hspent hm hstep hobs)
    have htr := hobs.truthful
    rw [hobs.after]
    rw [hobs.before] at he
    obtain ⟨before, q, how, x, after⟩ := o
    cases q with
    | store call =>
      obtain ⟨rfl, -, rfl⟩ | ⟨e', -, -, rfl⟩ | ⟨e', rfl, -, rfl⟩ := htr.store
      · exact carried call rfl nofun
      · exact he
      · exact carried call rfl nofun
    | _ =>
      obtain hst | ⟨call, hq, -⟩ := htr.store_eq
      · exact hst ▸ he
      · cases hq
  · exact hq.store ▸ he

/-- A record that was kept is there up to its deadline, unless it is removed. -/
theorem entry_of_saved (hS₀ : S₀.Reachable) (ht : S₀.threads[a]? = some t)
    (hm : Minted v.issuer m t.trace) {o : Observation} (ho : o ∈ t.trace)
    (hs : o.Saw (.store (m.save v.issuer k)) (.ok ())) (hr : Runs S₀ S)
    (hno : ¬Revoked S (m.session k)) :
    ∃ e ∈ S.world.store.entries, e.key = storeKey (m.session k) ∧
      e.deadline = o.before.moment + (v.issuer.sessionTtl k).nanos := by
  obtain ⟨older, hsuf⟩ := Trace.exists_suffix_of_mem ho
  obtain ⟨T₁, T₂, hT₁, hst, hobs, h₂⟩ := hS₀.observed ht hsuf
  obtain ⟨r, c, second, next, -, -, ht₂⟩ := hobs.thread
  -- right after it was written it is there
  have hwritten : ∃ e ∈ T₂.world.store.entries, e.key = storeKey (m.session k) ∧
      e.deadline = o.before.moment + (v.issuer.sessionTtl k).nanos := by
    have htruth := hobs.truthful
    have hlive := Observation.leaves_of_set htruth hs
    have hl := @Observation.Truthful.live? o (storeKey (m.session k)) htruth
    rw [hlive, Option.getD_some, ← hobs.after] at hl
    obtain ⟨hmem, -, -⟩ := Store.Memory.live?_eq_some hl
    exact ⟨_, hmem, rfl, rfl⟩
  have hm₂ : Minted v.issuer m (o :: older) :=
    (save_of_key hS₀ ht hm hsuf hs.question rfl).2.1.extend (List.suffix_cons o older)
  have hspent₂ : Spent m k (⟨r, o :: older, next o.answer⟩ : Thread (workload v)) :=
    .inr ⟨o, List.mem_cons_self, hs.question⟩
  obtain ⟨e, he, hk, hd⟩ := hwritten
  refine ⟨e, ?_, hk, hd⟩
  -- and it stays in every step after that
  have hrun := h₂.trans hr
  clear hd ht hm ho h₂ hr
  induction hrun with
  | refl => exact he
  | @tail S S' hrun hstep ih =>
    obtain ⟨t', ht', hsuf, hspent⟩ := hspent₂.runs ht₂ hrun
    exact entry_stays ((hT₁.runs (.single hst)).runs hrun) ht' hspent (hm₂.extend hsuf) hstep hno
      (ih fun h => hno (h.runs (.single hstep))) hk

/-- The session of a token is live up to the lifetime of the token after the writing of its record,
unless the record is removed. -/
theorem liveIn_of_saved (hS₀ : S₀.Reachable) (ht : S₀.threads[a]? = some t)
    (hm : Minted v.issuer m t.trace) {o : Observation} (ho : o ∈ t.trace)
    (hs : o.Saw (.store (m.save v.issuer k)) (.ok ())) (hr : Runs S₀ S)
    (hno : ¬Revoked S (m.session k))
    (hlt : S.world.moment < o.before.moment + (v.issuer.sessionTtl k).nanos) :
    LiveIn S.world (m.session k) := by
  obtain ⟨e, he, hk, hd⟩ := entry_of_saved hS₀ ht hm ho hs hr hno
  rw [LiveIn, ← hk]
  exact Store.Memory.exists_get?_of_mem he (hd ▸ hlt)

/-! ## Accepting a token -/

/-- What accepting the access token of an issuance relies on. -/
def validTerms (v : Services) (m : Issuance) : Terms where
  rely _ o := o.Truthful ∧ ¬o.Fails ∧ LiveIn o.before (m.session .access) ∧
    ∀ now, o.Saw .now now → Timely v.verifier.leeway (m.expiresAt .access) now
  guarantee tr _ := tr.length < 2

/-- A token is accepted while it is timely and its session live. -/
theorem along_authenticate_valid (hkey : v.verifier.key .access = v.issuer.key .access)
    (hf : Fits v.issuer m) :
    (v.authenticate (m.token v.issuer .access).text).Along (validTerms v m)
      (fun _ out => out = .finished (.ok ⟨m.session .access, m.claims .access⟩)) [] := by
  refine along_bind.2 (along_check.2 ⟨Nat.zero_lt_two, fun b how now a hr => ?_⟩)
  rw [verify_of_timely hkey hf (hr.2.2.2 now ⟨b, how, a, rfl⟩)]
  refine along_bind.2 ⟨Nat.one_lt_two, fun b how x a hr => ?_⟩
  obtain ⟨ht, hw, ⟨text, hg⟩, -⟩ := hr
  obtain rfl | ⟨-, hf⟩ := ht.isPresent
  · rw [show (m.claims .access).session = m.session .access from rfl, hg]
    rfl
  · exact absurd hf hw

/-- Whether one clock shows the time and counts the moments of the store, which begin at a given
instant; it shows no leap seconds. -/
def OneClock (start : Int) (S : RunState (workload v)) : Prop :=
  ∀ (b : Nat) (u : Thread (workload v)) (o : Observation) (now : Instant), S.threads[b]? = some u →
    o ∈ u.trace → o.Saw .now now →
    now.nanos < 1000000000 ∧ now.inNanos = start + o.before.moment

theorem configured_leeway_eq {s : Settings.AuthSettings} (hv : v.Configured s) :
    v.verifier.leeway = s.leeway := by
  have h := hv.verifier
  unfold TokenVerifier.ofSettings at h
  cases hs : s.validate with
  | error e => simp [hs, Except.map] at h
  | ok =>
    simp only [hs, Except.map, Except.ok.injEq] at h
    rw [← h]

/-- A clock that is less than a lifetime past the issue has not passed the second of expiry. -/
theorem timely_of_lt {i : TokenIssuer} {now : Instant} {leeway : Nat} (hf : Fits i m)
    (hi : m.issuedAt.nanos < 1000000000)
    (hlt : now.inNanos < m.issuedAt.inNanos + (i.ttl k : Int) * 1000000000)
    (hl : (leeway : Int) ≤ now.seconds) : Timely leeway (m.expiresAt k) now := by
  have he := Instant.seconds_addSeconds? (hf.expiry k)
  unfold Instant.inNanos at hlt
  exact ⟨hl, by omega⟩

theorem issued_before_saved (hS : S.Reachable) (ht : S.threads[a]? = some t)
    (hm : Minted v.issuer m t.trace) {w : Observation} (hw : w ∈ t.trace)
    (hq : w.question = .store (m.save v.issuer k)) :
    ∃ o ∈ t.trace, o.Saw .now m.issuedAt ∧ o.before.moment ≤ w.before.moment := by
  obtain ⟨older, hs⟩ := Trace.exists_suffix_of_mem hw
  obtain ⟨-, hm', -⟩ := save_of_key hS ht hm hs hq rfl
  obtain ⟨_, _, _, hsuf, ⟨o₁, o₂, o₃, rfl, h₁, -, -⟩, -⟩ := hm'.observed
  have ho₁ : o₁ ∈ older := hsuf.subset (by simp)
  exact ⟨o₁, hs.subset (List.mem_cons_of_mem _ ho₁), h₁, hS.moment_le ht hs ho₁⟩

/-- Whether a request has accepted the access token of an issuance, or has still to ask: it asks
twice. -/
def Accepted (m : Issuance) (tr : Trace) (rest : Action AuthenticatedSession) : Prop :=
  tr.length < 2 ∧ rest.offer? false ≠ none ∨
    rest = .done (.ok ⟨m.session .access, m.claims .access⟩)

theorem accepted_of_along {tr : Trace} {rest : Action AuthenticatedSession}
    (h : rest.Along (validTerms v m)
      (fun _ out => out = .finished (.ok ⟨m.session .access, m.claims .access⟩)) tr) :
    Accepted m tr rest := by
  obtain ⟨out, hout, rfl⟩ | ⟨q, hq, hlen⟩ := h.over_or_asks
  · exact .inr hout
  · exact .inl ⟨hlen, by simp [hq]⟩

/-- A request with the access token of an issuance that is started after the record was kept accepts
the token if it is made less than the lifetime of the token after the issue, with one clock, the
record not removed and no call failing, for any leeway up to what the clock shows. A request made
the lifetime after the record was kept or later cannot succeed, for any leeway and any clock. Every
access token that is handed out is the one of an issuance. -/
theorem access_token_validity_window {s : Settings.AuthSettings} (hv : v.Configured s)
    (hS₀ : S₀.Reachable) (ht : S₀.threads[a]? = some t) (hm : Minted v.issuer m t.trace)
    {w : Observation} (hw : w ∈ t.trace)
    (hs : w.Saw (.store (m.save v.issuer .access)) (.ok ())) (hr : Runs S₀ S)
    (hb : S₀.threads.length ≤ b) {tr : Trace} {rest : Action AuthenticatedSession}
    (hu : S.threads[b]? = some ⟨.authenticate (m.token v.issuer .access).text, tr, rest⟩) :
    (∀ start, OneClock start S → ¬Revoked S (m.session .access) →
      (∀ o ∈ tr, ¬o.Fails ∧
        start + o.before.moment < m.issuedAt.inNanos + (s.accessTtl : Int) * 1000000000) →
      (∀ o ∈ tr, ∀ now, o.Saw .now now → (s.leeway : Int) ≤ now.seconds) →
      Accepted m tr rest) ∧
    ((∀ o ∈ tr, w.before.moment + s.accessTtl * 1000000000 ≤ o.before.moment) →
      Hopeless (⟨.authenticate (m.token v.issuer .access).text, tr, rest⟩ :
        Thread (workload v))) ∧
    ∀ pair, Returned pair t → ∃ m', Minted v.issuer m' t.trace ∧
      pair.token .access = m'.token v.issuer .access := by
  have hS := hS₀.runs hr
  have httl : v.issuer.ttl .access = s.accessTtl := hv.ttl_eq.2 .access
  have hnanos : (v.issuer.sessionTtl .access).nanos = s.accessTtl * 1000000000 := by
    rw [← httl]
    rfl
  obtain ⟨t', ht', -, hsuf⟩ := hr.thread ht
  have hm' := hm.extend hsuf
  refine ⟨fun start hclock hno hwin hleeway => ?_, fun hlate => ?_, fun pair hp => ?_⟩
  · obtain ⟨o₁, ho₁, hnow₁, hle⟩ := issued_before_saved hS₀ ht hm hw hs.question
    obtain ⟨hi, hissue⟩ := hclock a t' o₁ _ ht' (hsuf.subset ho₁) hnow₁
    have hall : tr.All (validTerms v m).rely := by
      refine .of_forall fun o older ho => ?_
      have hmem : o ∈ tr := ho.subset List.mem_cons_self
      obtain ⟨hworks, hlt⟩ := hwin o hmem
      obtain ⟨S₁, S₂, h₁, h₂, hobs⟩ := hr.observed_of_new hb hu ho
      refine ⟨hobs.truthful, hworks, hobs.before ▸ ?_, fun now hnow => ?_⟩
      · refine liveIn_of_saved hS₀ ht hm hw hs h₁ (fun h => hno (h.runs h₂)) ?_
        rw [hnanos, hobs.before]
        omega
      · have hshown := (hclock b _ o now hu hmem hnow).2
        refine timely_of_lt hm.fits hi ?_ (configured_leeway_eq hv ▸ hleeway o hmem now hnow)
        rw [httl, hshown]
        exact hlt
    have hreach : (v.authenticate (m.token v.issuer .access).text).Reaches tr rest := hS.reaches hu
    exact accepted_of_along
      (hreach.along (along_authenticate_valid (hv.key_eq .access) hm.fits) hall).1
  · have hall : tr.All (absentTerms (m.session .access)).rely := by
      refine .of_forall fun o older ho => ?_
      obtain ⟨S₁, S₂, h₁, h₂, hobs⟩ := hr.observed_of_new hb hu ho
      refine ⟨hobs.truthful, hobs.before ▸ ?_⟩
      refine get?_eq_none_of_saved hS ht' hm' (hsuf.subset hw) hs.question (hS₀.runs h₁) h₂ ?_
      rw [hnanos, hobs.before]
      exact hlate o (ho.subset List.mem_cons_self)
    have hreach : (v.authenticate (m.token v.issuer .access).text).Reaches tr rest := hS.reaches hu
    exact hopeless_of_along
      (hreach.along (along_authenticate_absent (bears_token (hv.key_eq .access) hm.fits)) hall).1
  · obtain ⟨m', hm', htoken⟩ := hp.exists_token hS₀ ht
    exact ⟨m', hm', htoken .access⟩

/-! ## A token at its limits -/

theorem saw_save_of_key (hS : S.Reachable) (ht : S.threads[a]? = some t)
    (hm : Minted v.issuer m t.trace) {o : Observation} (ho : o ∈ t.trace) {key value : String}
    {ttl : Time.Duration} {x : Except Failure Unit}
    (hs : o.Saw (.store (.set key value ttl)) x) (hk : key = storeKey (m.session k)) :
    o.Saw (.store (m.save v.issuer k)) x := by
  obtain ⟨older, hsuf⟩ := Trace.exists_suffix_of_mem ho
  obtain ⟨hq, -, -⟩ := save_of_key hS ht hm hsuf hs.question hk
  obtain ⟨rfl, rfl, rfl⟩ := eq_of_set_eq_save (hs.question.symm.trans hq)
  exact hs

theorem exists_play_authenticate {w : World} {token : String} {c : Claims} {now : Instant}
    (hv : v.verifier.verify .access now token = .ok c) :
    ∃ tr rest, play w [(false, .shows now), (false, .works)] ([], v.authenticate token) =
      some (tr, rest) ∧ tr.length = 2 ∧ tr.world w = { w with clock := now } := by
  rw [Services.authenticate, play, next?_check hv]
  exact ⟨_, _, rfl, rfl, rfl⟩

theorem ne_revoke_of_loggedIn {pair : TokenPair} {tr : Trace}
    (h : v.LoggedIn tr (.finished (.ok pair))) {d : Observation} (hd : d ∈ tr) (s : Uuid) :
    d.question ≠ .store (revokeCall s) := by
  intro hq
  cases h with
  | stopped _ h => cases h
  | issued _ hw h =>
    rcases List.mem_append.1 hd with hd | hd
    · cases h with
      | both h =>
        obtain ⟨k, hsave⟩ := h.saves d hd
        cases hq.symm.trans hsave
    · exact hw d hd (writes_of_revoke hq)

theorem authenticate_ne_revoke (hS : S.Reachable) {token : String} {tr : Trace}
    {rest : Action AuthenticatedSession}
    (hu : S.threads[b]? = some ⟨.authenticate token, tr, rest⟩) {d : Observation} (hd : d ∈ tr)
    (s : Uuid) : d.question ≠ .store (revokeCall s) := by
  intro hq
  have hreach : (v.authenticate token).Reaches tr rest := hS.reaches hu
  have halong : (v.authenticate token).Along asking (fun _ _ => True) [] :=
    along_authenticate_free (fun _ _ hl => hl) token fun _ _ => trivial
  have hlooks : d.question.Looks := hreach.asked halong hd
  exact hlooks.not_writes (writes_of_revoke hq)

/-- After some time a request can authenticate with a token that verifies: it asks twice, at one
moment, with a clock that shows what it should, and no call fails. -/
theorem exists_authentication_after (S : RunState (workload v)) (d : Nat) {token : String}
    {c : Claims} {now : Instant} (hv : v.verifier.verify .access now token = .ok c) :
    ∃ w tr rest, Runs S ⟨w, S.threads ++ [⟨.authenticate token, tr, rest⟩]⟩ ∧
      w.moment = S.world.moment + d ∧ tr.length = 2 ∧ ∀ o ∈ tr,
        o.before.moment = S.world.moment + d ∧ ¬o.Fails ∧ ∀ n, o.Saw .now n → n = now := by
  let S₁ : RunState (workload v) :=
    { S with world := { S.world with moment := S.world.moment + d } }
  obtain ⟨tr, rest, h, hlen, hw⟩ := exists_play_authenticate (w := S₁.world) hv
  refine ⟨tr.world S₁.world, tr, rest, ?_, congrArg World.moment hw, hlen, fun o ho =>
    ⟨moment_of_play h ho, works_of_play h (by simp) ho, fun n hn => ?_⟩⟩
  · exact .head (.tick S d)
      (Runs.played (W := workload v) (S := S₁) (r := .authenticate token) h)
  · obtain ⟨_, hr⟩ := shows_of_play h ho hn
    have hmem := by simpa using hr
    exact hmem.2

/-- An access token of the small world is accepted in the last nanosecond of its lifetime after the
issue, and refused in the next one, which is its lifetime after its record was kept. -/
theorem small_token_validity_window :
    ∃ (S : RunState (workload smallServices)) (pair : TokenPair) (tr tr' : Trace)
      (x : AuthenticatedSession) (e : Failure), S.Reachable ∧
      (∃ t, S.threads[0]? = some t ∧ Returned pair t) ∧
      S.threads[1]? = some ⟨.authenticate (pair.token .access).text, tr, .done (.ok x)⟩ ∧
      (∀ o ∈ tr, o.before.moment = 59999999999) ∧
      S.threads[2]? = some ⟨.authenticate (pair.token .access).text, tr', .done (.error e)⟩ ∧
      (∀ o ∈ tr', o.before.moment = 60000000000) ∧ x.session = (pair.token .access).session ∧
      e.kind = .unauthorized := by
  obtain ⟨tr₁, pair, w, value, ttl, h₁, hw, hs, hm₀, he, hi⟩ : ∃ tr₁ pair w value ttl,
      smallLogIn smallServices (smallReactions .works .works) = some (tr₁, .done (.ok pair)) ∧
      w ∈ tr₁ ∧ w.Saw (.store (.set (storeKey (pair.token .access).session) value ttl)) (.ok ()) ∧
      w.before.moment = 0 ∧ (pair.token .access).expiresAt = ⟨1060, 0⟩ ∧
      (pair.token .access).issuedAt = ⟨1000, 0⟩ :=
    ⟨_, _, _, _, _, rfl, List.mem_cons_of_mem _ List.mem_cons_self, ⟨_, _, _, rfl⟩, rfl, rfl, rfl⟩
  have hS₀ := smallState_reachable h₁
  have hlogin : (smallServices.logIn "ada@example.com" "secret").Reaches tr₁ (done (.ok pair)) :=
    hS₀.reaches (i := 0) rfl
  obtain ⟨m, hm, rfl⟩ := Returned.logIn.minted hS₀ (a := 0) rfl
  rw [Issuance.pair_token] at hs he hi
  have hexp : m.expiresAt .access = ⟨1060, 0⟩ := he
  have hiss : m.issuedAt = ⟨1000, 0⟩ := hi
  have hsave := saw_save_of_key hS₀ (a := 0) rfl hm hw hs rfl
  -- the token verifies up to the second of its expiry
  have hverify : ∀ now, Timely 0 ⟨1060, 0⟩ now →
      smallServices.verifier.verify .access now (m.token smallServices.issuer .access).text =
        .ok (m.claims .access) :=
    fun now h => verify_of_timely rfl hm.fits (hexp.symm ▸ h)
  let S₀ := smallState smallServices tr₁ (.done (.ok (m.pair smallServices.issuer)))
  have hmom : S₀.world.moment = 0 :=
    Trace.Alone.moment_eq (reaches_of_play h₁ .start trivial).2
  -- one request in the last nanosecond of the lifetime, and one in the next
  obtain ⟨w₂, tr, rest, hr₂, hmom₂, hlen, htr⟩ := exists_authentication_after S₀ 59999999999
    (hverify ⟨1059, 999999999⟩ ⟨by decide, by decide⟩)
  let S₁ : RunState (workload smallServices) :=
    ⟨w₂, S₀.threads ++ [⟨.authenticate (m.token _ .access).text, tr, rest⟩]⟩
  obtain ⟨w₃, tr', rest', hr₃, -, hlen', htr'⟩ :=
    exists_authentication_after S₁ 1 (hverify ⟨1060, 0⟩ ⟨by decide, by decide⟩)
  rw [hmom, Nat.zero_add] at hmom₂ htr
  have hmom₁ : S₁.world.moment = 59999999999 := hmom₂
  rw [hmom₁] at htr'
  have hclock : OneClock 1000000000000 S₁ := by
    intro b u o now hu ho hnow
    rcases b with _ | _ | b
    · cases hu
      obtain ⟨_, hr⟩ := shows_of_play h₁ ho hnow
      have hmem := by simpa [smallReactions] using hr
      rw [hmem.2, moment_of_play h₁ ho]
      exact ⟨by decide, rfl⟩
    · cases hu
      rw [(htr o ho).2.2 now hnow, (htr o ho).1]
      exact ⟨by decide, rfl⟩
    · cases hu
  have hno : ¬Revoked S₁ (m.session .access) := by
    rintro ⟨b, u, d, hu, hd, hq, -⟩
    rcases b with _ | _ | b
    · cases hu
      have hend := (hlogin.along (smallServices.along_logIn _ _) (Trace.all_true _)).1
      exact ne_revoke_of_loggedIn hend hd _ hq
    · cases hu
      exact authenticate_ne_revoke (hS₀.runs hr₂) (b := 1) rfl hd _ hq
    · cases hu
  obtain ⟨haccepted, -⟩ := access_token_validity_window smallServices_configured hS₀ (a := 0) rfl
    hm hw hsave hr₂ (b := 1) (Nat.le_refl 1) rfl
  obtain ⟨hlt, -⟩ | rfl := haccepted 1000000000000 hclock hno
    (fun o ho => ⟨(htr o ho).2.1, by rw [(htr o ho).1, hiss]; decide⟩)
    fun o ho now hnow => (htr o ho).2.2 now hnow ▸ Int.natCast_nonneg 1059
  · omega
  obtain ⟨-, hhopeless, -⟩ := access_token_validity_window smallServices_configured hS₀ (a := 0) rfl
    hm hw hsave (hr₂.trans hr₃) (b := 2) (Nat.le_succ 1) rfl
  have hlate : ∀ o ∈ tr', w.before.moment + smallSettings.accessTtl * 1000000000 ≤
      o.before.moment := by
    intro o ho
    rw [hm₀, (htr' o ho).1]
    exact Nat.le_refl _
  obtain ⟨hlt, -⟩ | ⟨e, he', hkind⟩ :=
    (hhopeless hlate).unauthorized fun o ho => (htr' o ho).2.1
  · exact absurd hlt (by rw [hlen']; decide)
  obtain rfl : rest' = .done (.error e) := he'
  exact ⟨_, m.pair _, tr, tr', _, e, hS₀.runs (hr₂.trans hr₃), ⟨_, rfl, .logIn⟩, rfl,
    fun o ho => (htr o ho).1, rfl, fun o ho => (htr' o ho).1, rfl, hkind⟩

end Session

end Gatehouse
