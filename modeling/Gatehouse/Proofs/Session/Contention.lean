import Gatehouse.Proofs.Session.Finality
import Gatehouse.Proofs.Session.Undisturbed

/-!
# Requests that contend for one pair

While nothing but exchanges of one refresh token and requests to end its pair runs, and no call
fails and nothing expires, what a request finds is decided by the log alone: the record of a session
of the pair is there until its removal is logged (`liveIn_iff_not_removes`). So an exchange is
decided by its load, and in the end just the pairs that were handed out are left
(`contention_decided_by_load`).
-/

namespace Gatehouse.Session

open Gatehouse.Action RunState

variable {v : Services} {S₀ S : RunState (workload v)} {log newer older : Log} {a i j : Nat}
  {t u : Thread (workload v)} {m m' : Issuance} {k : TokenKind} {tr : Trace}

/-! ## Sessions in a log -/

/-- Whether the removal of a session is logged. -/
def Removes (log : Log) (s : Uuid) : Prop :=
  ∃ i o, (i, o) ∈ log ∧ o.question = .store (revokeCall s)

/-- Whether no logged call failed. -/
def AllWork (log : Log) : Prop := ∀ i o, (i, o) ∈ log → ¬o.Fails

section

variable (hS₀ : S₀.Reachable) (ht : S₀.threads[a]? = some t) (hs : Spent m k t)
  (hm : Minted v.issuer m t.trace) (hl : Logged S₀ log S)
include hS₀ ht hs hm hl

theorem gone_of_removes (hw : AllWork log) (h : Removes log (m.session k)) : Gone m k S := by
  obtain ⟨i, d, hd, hq⟩ := h
  obtain ⟨newer, older, rfl⟩ := List.append_of_mem hd
  obtain ⟨T, T', tr, hT, hst, hobs, hnew⟩ := hl.split
  obtain ⟨t', ht', hsuf, hs'⟩ := hs.runs ht hT.runs
  have hsaw := hobs.truthful.removed (hw i d hd) hq
  exact (Gone.of_observed (hS₀.runs hT.runs) ht' hs' (hm.extend hsuf) hst hobs hsaw).runs hnew.runs

theorem mem_of_not_removes (hno : ¬Removes log (m.session k)) {e : Store.Entry}
    (he : e ∈ S₀.world.store.entries) (hk : e.key = storeKey (m.session k)) :
    e ∈ S.world.store.entries := by
  obtain h | ⟨i, o, ho, hq⟩ := hl.stays he
  · exact h
  rw [hk] at hq
  rcases hq with hq | ⟨value, ttl, hq⟩
  · exact absurd ⟨i, o, ho, hq⟩ hno
  · -- a spent record is not kept again
    obtain ⟨newer, older, rfl⟩ := List.append_of_mem ho
    obtain ⟨T, T', tr, hT, hst, hobs, -⟩ := hl.split
    obtain ⟨t', ht', hsuf, hs'⟩ := hs.runs ht hT.runs
    exact absurd hq (no_save_of_spent (hS₀.runs hT.runs) ht' hs' (hm.extend hsuf) hst hobs)

/-- A record that does not expire is live until its removal is logged. -/
theorem liveIn_iff_not_removes (hw : AllWork log) (hlive : LiveIn S₀.world (m.session k))
    (hun : ∀ e, S₀.world.store.live? S₀.world.moment (storeKey (m.session k)) = some e →
      S.world.moment < e.deadline) :
    LiveIn S.world (m.session k) ↔ ¬Removes log (m.session k) := by
  constructor
  · intro h hr
    exact (gone_of_removes hS₀ ht hs hm hl hw hr).not_liveIn h
  · intro hno
    obtain ⟨text, hg⟩ := hlive
    obtain ⟨e, he, -⟩ := Option.map_eq_some_iff.1 hg
    obtain ⟨hmem, hk, -⟩ := Store.Memory.live?_eq_some he
    have hstay := mem_of_not_removes hS₀ ht hs hm hl hno hmem hk
    obtain ⟨text', hg'⟩ := Store.Memory.exists_get?_of_mem hstay (hun e he)
    rw [hk] at hg'
    exact ⟨text', hg'⟩

end

/-- A record that was kept in a run is there after it if its removal is not logged since, and it has
not been kept for less than its time. -/
theorem exists_mem_of_kept {o : Observation} (hS₀ : S₀.Reachable)
    (hl : Logged S₀ (newer ++ (j, o) :: older) S) (hu : S.threads[j]? = some u)
    (hm : Minted v.issuer m u.trace) (ho : o.Saw (.store (m.save v.issuer k)) (.ok ()))
    (hno : ¬Removes newer (m.session k)) :
    ∃ e ∈ S.world.store.entries, e.key = storeKey (m.session k) ∧
      S₀.world.moment + (v.issuer.sessionTtl k).nanos ≤ e.deadline := by
  obtain ⟨T, T', old, hT, hst, hobs, hnew⟩ := hl.split
  have hT' : T'.Reachable := (hS₀.runs hT.runs).runs (.single hst)
  obtain ⟨r, rest, second, next, -, -, hj⟩ := hobs.thread
  -- it is there right after it was kept
  have hkept : o.after.store.live? o.before.moment (storeKey (m.session k)) = _ :=
    hobs.truthful.live?
  rw [Observation.leaves_of_set hobs.truthful ho, Option.getD_some, ← hobs.after,
    ← hobs.before] at hkept
  obtain ⟨he, -, -⟩ := Store.Memory.live?_eq_some hkept
  -- it was kept for this issuance, so it is not kept again
  obtain ⟨m', k', hm', hq⟩ := saves_minted hT' hj (List.suffix_refl _) ho.question
  have hid := session_eq_of_save_eq (ho.question.symm.trans hq)
  obtain ⟨u', hu', -, hsuf⟩ := hnew.runs.thread hj
  have hmu := hm'.extend ((List.suffix_cons o old).trans hsuf)
  obtain ⟨-, rfl, -⟩ := hm.unique (hS₀.runs hl.runs) hu hu' hmu hid
  have hmint := hm'.extend (List.suffix_cons o old)
  refine ⟨_, mem_of_not_removes hT' hj ?_ hmint hnew hno he rfl, rfl, ?_⟩
  · exact .inr ⟨o, List.mem_cons_self, ho.question⟩
  · exact Nat.add_le_add_right hT.runs.moment_le _

/-! ## Contention -/

/-- Whether nothing has run since a state but exchanges of the refresh token of a pair and requests
to end it. The pair was live then, no call failed, and neither the token nor a record of the pair
expired meanwhile. -/
structure Contention (S₀ S : RunState (workload v)) (log : Log) (pair : TokenPair) : Prop where
  logged : Logged S₀ log S
  live : ∀ k, LiveIn S₀.world (pair.token k).session
  requests : ∀ i t, S.threads[i]? = some t → S₀.threads.length ≤ i →
    t.request = .refresh (pair.token .refresh).text ∨
      ∃ k, t.request = .logoutPair (pair.token k).session
  newcomers : ∀ i o, (i, o) ∈ log → S₀.threads.length ≤ i
  works : AllWork log
  timely : ∀ i t o now, S.threads[i]? = some t → S₀.threads.length ≤ i → [o] <:+ t.trace →
    o.Saw .now now → Timely v.verifier.leeway (pair.token .refresh).expiresAt now
  unexpired : ∀ k e, S₀.world.store.live? S₀.world.moment (storeKey (pair.token k).session) =
    some e → S.world.moment < e.deadline

/-- Whether a request loaded the record of a session before the first removal of it. -/
def LoadedFirst (log : Log) (j : Nat) (s : Uuid) : Prop :=
  ∃ newer l older, log = newer ++ (j, l) :: older ∧ l.question = .store (.get (storeKey s)) ∧
    ¬Removes older s

/-- Whether a request that was started since a state exchanged the refresh token for a pair. -/
def Exchanged (S₀ S : RunState (workload v)) (pair : TokenPair) (j : Nat) (p : TokenPair) : Prop :=
  S₀.threads.length ≤ j ∧
    ∃ tr, S.threads[j]? = some ⟨.refresh (pair.token .refresh).text, tr, .done (.ok p)⟩

theorem length_lt_of_not_over (hS₀ : S₀.Reachable) {pair : TokenPair}
    (hc : Contention S₀ S log pair) (hu : S.threads[j]? = some u) (hj : S₀.threads.length ≤ j)
    (hno : ¬Over u) : u.trace.length < 12 := by
  have hreach := (hS₀.runs hc.logged.runs).reaches hu
  have hw : (u.request.action v).Within 12 := by
    obtain hr | ⟨k, hr⟩ := hc.requests j u hu hj
    · rw [hr]
      exact within_refresh _
    · rw [hr]
      exact (within_logoutPair _).mono (by decide)
  obtain ⟨hle, hrest⟩ := hreach.within hw
  obtain ⟨second, hoffer⟩ := Classical.not_forall.1 hno
  obtain ⟨⟨q, next⟩, hsome⟩ := Option.ne_none_iff_exists'.1 hoffer
  have := (hrest.step hsome).1
  omega

section

variable (hS₀ : S₀.Reachable) (ht : S₀.threads[a]? = some t) (ho : Over t)
  (hm : Minted v.issuer m t.trace)
include hS₀ ht ho hm

theorem undisturbed_of_contention (hc : Contention S₀ S log (m.pair v.issuer))
    (hu : S.threads[j]? = some u) (hj : S₀.threads.length ≤ j) : Undisturbed v m u.trace := by
  have hr := hc.logged.runs
  refine ⟨rely_of_reachable (hS₀.runs hr) (hr.over ht ho) hm hu, fun o hmem => ?_, ?_⟩
  · exact hc.works j o (hc.logged.mem hu hmem hj)
  · exact fun o now hs hsaw => hc.timely j u o now hu hj hs hsaw

/-- What a request finds is decided by what is logged before it. -/
theorem liveIn_before_iff {l : Observation}
    (hc : Contention S₀ S (newer ++ (j, l) :: older) (m.pair v.issuer)) :
    LiveIn l.before (m.session k) ↔ ¬Removes older (m.session k) := by
  obtain ⟨T, T', tr, hT, hst, hobs, hnew⟩ := hc.logged.split
  have hle : T.world.moment ≤ S.world.moment := Runs.moment_le (.head hst hnew.runs)
  have hlive := hc.live k
  have hun := hc.unexpired k
  rw [Issuance.pair_token, Issuance.token_session] at hlive hun
  rw [← hobs.before]
  refine liveIn_iff_not_removes hS₀ ht (.inl ho) hm hT (fun i o hmem => ?_) hlive fun e he => ?_
  · exact hc.works i o (List.mem_append_right _ (List.mem_cons_of_mem _ hmem))
  · have := hun e he
    omega

theorem loadedFirst_iff (hc : Contention S₀ S log (m.pair v.issuer))
    (hu : S.threads[j]? = some u) (hj : S₀.threads.length ≤ j) :
    LoadedFirst log j (m.session .refresh) ↔ LoadedLive m u.trace := by
  constructor
  · rintro ⟨newer, l, older, rfl, hq, hno⟩
    obtain ⟨u', hu', hmem⟩ := hc.logged.exists_thread (i := j) (o := l) (by simp)
    cases hu.symm.trans hu'
    exact ⟨l, hmem, hq, (liveIn_before_iff hS₀ ht ho hm hc).2 hno⟩
  · rintro ⟨l, hmem, hq, hlive⟩
    obtain ⟨newer, older, rfl⟩ := List.append_of_mem (hc.logged.mem hu hmem hj)
    exact ⟨newer, l, older, rfl, hq, (liveIn_before_iff hS₀ ht ho hm hc).1 hlive⟩

section

variable {s : Settings.AuthSettings} (hv : v.Configured s)
  (hc : Contention S₀ S log (m.pair v.issuer))
include hv hc

theorem contested_of_over {rest : Action TokenPair}
    (hu : S.threads[j]? = some ⟨.refresh (m.token v.issuer .refresh).text, tr, rest⟩)
    (hj : S₀.threads.length ≤ j) (hd : ∀ second, rest.offer? second = none) :
    ∃ out : Outcome TokenPair, rest = out.action ∧ Contested v m tr out := by
  obtain ⟨out, rfl⟩ := exists_outcome hd
  have hreach := (hS₀.runs hc.logged.runs).reaches hu
  have hend := (hreach.along (v.along_refresh _) (Trace.all_true _)).1
  exact ⟨out, rfl, contested_of_redeemed hv hm.fits
    (undisturbed_of_contention hS₀ ht ho hm hc hu hj) (along_action.1 hend)⟩

theorem replaces_of_exchanged {p : TokenPair} (h : Exchanged S₀ S (m.pair v.issuer) j p) :
    ∃ u m', S.threads[j]? = some u ∧ p = m'.pair v.issuer ∧ Replaces v.issuer m m' u.trace := by
  obtain ⟨hj, tr, hu⟩ := h
  obtain ⟨out, hout, hcon⟩ := contested_of_over hS₀ ht ho hm hv hc hu hj fun _ => rfl
  cases hcon with
  | late => cases hout
  | broken => cases hout
  | @renewed tr m' hl hr hno =>
    cases hout
    exact ⟨_, m', hu, rfl, hr⟩

/-- When all requests are over, each call that changed the store removed a session of the old pair
or kept one of a pair that was handed out. -/
theorem writes_cases (hall : ∀ j u, S.threads[j]? = some u → S₀.threads.length ≤ j → Over u)
    {o : Observation} (hmem : (i, o) ∈ log) (hw : o.question.Writes) :
    (∃ k, o.question = .store (revokeCall (m.session k))) ∨
      ∃ (m' : Issuance) (k : TokenKind), Exchanged S₀ S (m.pair v.issuer) i (m'.pair v.issuer) ∧
        o.question = .store (m'.save v.issuer k) := by
  have hi := hc.newcomers i o hmem
  obtain ⟨⟨r, tr, rest⟩, hu, htr⟩ := hc.logged.exists_thread hmem
  have hover := hall i _ hu hi
  obtain hr | ⟨k, hr⟩ := hc.requests i _ hu hi
  · dsimp only at hr
    subst hr
    obtain ⟨out, rfl, hcon⟩ := contested_of_over hS₀ ht ho hm hv hc hu hi hover
    cases hcon with
    | @late l o' ho' hl _ =>
      simp only [List.mem_cons, List.not_mem_nil, or_false] at htr
      rcases htr with rfl | rfl
      · rw [hl] at hw
        exact hw.elim
      · rw [ho'] at hw
        exact hw.elim
    | broken _ hwl _ => exact absurd hw (hwl o htr)
    | @renewed tr m' _ hr _ =>
      obtain ⟨k, hq⟩ | hq := hr.only o htr hw
      · exact .inr ⟨m', k, ⟨hi, tr, hu⟩, hq⟩
      · exact .inl hq
  · rw [Issuance.pair_token] at hr
    dsimp only at hr
    subst hr
    have hreads := (undisturbed_of_contention hS₀ ht ho hm hc hu hi).reads
    have hreach := (hS₀.runs hc.logged.runs).reaches hu
    have hend := (hreach.along (along_logoutPair_ending (m := m) (k := k)) hreads).2
    obtain ⟨_, hg⟩ := hend.exists_of_mem htr
    exact .inl (hg hw)

theorem liveIn_of_replaces
    (hall : ∀ j u, S.threads[j]? = some u → S₀.threads.length ≤ j → Over u)
    (hu : S.threads[j]? = some u) (hj : S₀.threads.length ≤ j)
    (hr : Replaces v.issuer m m' u.trace) : LiveIn S.world (m'.session k) := by
  obtain ⟨o, homem, hsaw⟩ := hr.kept k
  obtain ⟨newer, older, rfl⟩ := List.append_of_mem (hc.logged.mem hu homem hj)
  have hno : ¬Removes newer (m'.session k) := by
    rintro ⟨i, d, hd, hq⟩
    have hd' : (i, d) ∈ newer ++ (j, o) :: older := List.mem_append_left _ hd
    obtain ⟨k₁, hq₁⟩ | ⟨m₁, k₁, -, hq₁⟩ :=
      writes_cases hS₀ ht ho hm hv hc hall hd' (writes_of_revoke hq)
    · -- a session of the old pair is not one of the new pair
      have hid := eq_of_revoke_eq (hq.symm.trans hq₁)
      obtain ⟨t', ht', -, hsuf⟩ := hc.logged.runs.thread ht
      have hS := hS₀.runs hc.logged.runs
      obtain ⟨rfl, -, -⟩ := hr.minted.unique hS hu ht' (hm.extend hsuf) hid
      have := (List.getElem?_eq_some_iff.1 ht).1
      omega
    · cases hq.symm.trans hq₁
  obtain ⟨e, he, hk, hd⟩ := exists_mem_of_kept hS₀ hc.logged hu hr.minted hsaw hno
  -- it expires after the access record of the old pair
  obtain ⟨text, hg⟩ := hc.live .access
  obtain ⟨e₀, he₀, -⟩ := Option.map_eq_some_iff.1 hg
  obtain ⟨hmem₀, hk₀, -⟩ := Store.Memory.live?_eq_some he₀
  have hlt := hc.unexpired .access e₀ he₀
  have hle := deadline_le hS₀ ht hm (k := .access) hmem₀ hk₀
  have httl := hv.access_ttl_le k
  change e₀.deadline ≤ S₀.world.moment + v.issuer.ttl .access * 1000000000 at hle
  change S₀.world.moment + v.issuer.ttl k * 1000000000 ≤ e.deadline at hd
  have hlive : S.world.moment < e.deadline := by omega
  obtain ⟨text', hg'⟩ := Store.Memory.exists_get?_of_mem he hlive
  exact ⟨text', hk ▸ hg'⟩

theorem newly_live_iff (hall : ∀ j u, S.threads[j]? = some u → S₀.threads.length ≤ j → Over u)
    (key : String) :
    ((∃ text, S.world.get? key = some text) ∧ S₀.world.get? key = none) ↔
      ∃ j p k, Exchanged S₀ S (m.pair v.issuer) j p ∧ key = storeKey (p.token k).session := by
  constructor
  · rintro ⟨⟨text, hg⟩, hnone⟩
    obtain ⟨e, he, rfl, hd, -⟩ := Store.Memory.exists_of_get? hg
    obtain he₀ | ⟨i, o, ttl, hmem, hq⟩ := hc.logged.written he
    · have hle := hc.logged.runs.moment_le
      obtain ⟨text', hg'⟩ := Store.Memory.exists_get?_of_mem he₀ (Nat.lt_of_le_of_lt hle hd)
      cases hg'.symm.trans hnone
    · have hw : o.question.Writes := by
        rw [hq]
        trivial
      obtain ⟨k, hq'⟩ | ⟨m', k, hex, hq'⟩ := writes_cases hS₀ ht ho hm hv hc hall hmem hw
      · cases hq.symm.trans hq'
      · refine ⟨i, _, k, hex, ?_⟩
        rw [Issuance.pair_token]
        exact (eq_of_set_eq_save (hq.symm.trans hq')).1
  · rintro ⟨j, p, k, hex, rfl⟩
    obtain ⟨u, m', hu, rfl, hr⟩ := replaces_of_exchanged hS₀ ht ho hm hv hc hex
    rw [Issuance.pair_token]
    exact ⟨liveIn_of_replaces hS₀ ht ho hm hv hc hall hu hex.1 hr,
      get?_eq_none_of_later hS₀ hc.logged.runs hu hex.1 hr.minted k⟩

theorem decided_by_load {rest : Action TokenPair}
    (hu : S.threads[j]? = some ⟨.refresh (m.token v.issuer .refresh).text, tr, rest⟩)
    (hj : S₀.threads.length ≤ j) (hd : ∀ second, rest.offer? second = none) :
    ((∃ p, rest = .done (.ok p)) ↔
      LoadedFirst log j (m.session .refresh) ∧ ¬OutOfCalendar v.issuer tr) ∧
    (rest = .crash ↔ LoadedFirst log j (m.session .refresh) ∧ OutOfCalendar v.issuer tr) ∧
    (rest = .crash → tr.Writeless) ∧
    (¬LoadedFirst log j (m.session .refresh) → rest = .done (.error notLive) ∧ tr.Writeless) := by
  obtain ⟨out, rfl, hcon⟩ := contested_of_over hS₀ ht ho hm hv hc hu hj hd
  rw [loadedFirst_iff hS₀ ht ho hm hc hu hj]
  cases hcon with
  | @late l o hq hl hno =>
    have hnot : ¬LoadedLive m [l, o] := by
      rintro ⟨x, hx, hx', hlive⟩
      simp only [List.mem_cons, List.not_mem_nil, or_false] at hx
      rcases hx with rfl | rfl
      · exact hno hlive
      · cases hq.symm.trans hx'
    have hw : Trace.Writeless [l, o] := by
      simp [Trace.writeless_cons, Trace.writeless_nil, hq, hl, Question.Writes]
    refine ⟨iff_of_false ?_ fun h => hnot h.1, iff_of_false ?_ fun h => hnot h.1, ?_,
      fun _ => ⟨rfl, hw⟩⟩
    · rintro ⟨p, hp⟩
      cases hp
    · intro h
      cases h
    · intro h
      cases h
  | broken hl hw hout =>
    refine ⟨iff_of_false ?_ fun h => h.2 hout, iff_of_true rfl ⟨hl, hout⟩, fun _ => hw,
      fun h => absurd hl h⟩
    rintro ⟨p, hp⟩
    cases hp
  | renewed hl hr hout =>
    refine ⟨iff_of_true ⟨_, rfl⟩ ⟨hl, hout⟩, iff_of_false ?_ fun h => hout h.2, ?_,
      fun h => absurd hl h⟩
    · intro h
      cases h
    · intro h
      cases h

end

end

/-- Every request that contends for a pair is over after twelve answers at the latest. Of the
exchanges one succeeds exactly if it loaded the record of the refresh token before the first removal
of it, and its tokens do not lead out of the calendar, where it breaks off; and one that was late is
refused. Neither of these two has written anything. When all requests are over and one exchange has
succeeded, the old pair is gone, and what is newly live are the sessions of the pairs that were
handed out, which are all different. -/
theorem contention_decided_by_load {s : Settings.AuthSettings} (hv : v.Configured s)
    (hS₀ : S₀.Reachable) (ht : S₀.threads[a]? = some t) {pair : TokenPair} (hp : Returned pair t)
    (hc : Contention S₀ S log pair) :
    (∀ j u, S.threads[j]? = some u → S₀.threads.length ≤ j → ¬Over u → u.trace.length < 12) ∧
    (∀ j tr rest, S₀.threads.length ≤ j →
      S.threads[j]? = some ⟨.refresh (pair.token .refresh).text, tr, rest⟩ →
      (∀ second, rest.offer? second = none) →
        ((∃ p, rest = .done (.ok p)) ↔
          LoadedFirst log j (pair.token .refresh).session ∧ ¬OutOfCalendar v.issuer tr) ∧
        (rest = .crash ↔
          LoadedFirst log j (pair.token .refresh).session ∧ OutOfCalendar v.issuer tr) ∧
        (rest = .crash → tr.Writeless) ∧
        (¬LoadedFirst log j (pair.token .refresh).session →
          rest = .done (.error notLive) ∧ tr.Writeless)) ∧
    ((∀ j u, S.threads[j]? = some u → S₀.threads.length ≤ j → Over u) →
      ((∃ j p, Exchanged S₀ S pair j p) → ∀ k, ¬LiveIn S.world (pair.token k).session) ∧
      (∀ key, ((∃ text, S.world.get? key = some text) ∧ S₀.world.get? key = none) ↔
        ∃ j p k, Exchanged S₀ S pair j p ∧ key = storeKey (p.token k).session) ∧
      ∀ j p k j' p' k', Exchanged S₀ S pair j p → Exchanged S₀ S pair j' p' →
        (p.token k).session = (p'.token k').session → j = j' ∧ p = p' ∧ k = k') := by
  obtain ⟨m, hm, rfl⟩ := hp.minted hS₀ ht
  have ho := hp.over
  refine ⟨fun j u hu hj => length_lt_of_not_over hS₀ hc hu hj,
    fun j tr rest hj hu hd => decided_by_load hS₀ ht ho hm hv hc hu hj hd,
    fun hall => ⟨?_, newly_live_iff hS₀ ht ho hm hv hc hall, ?_⟩⟩
  · rintro ⟨j, p, hex⟩ k
    obtain ⟨u, m', hu, rfl, hr⟩ := replaces_of_exchanged hS₀ ht ho hm hv hc hex
    obtain ⟨d, hd, hq⟩ := hr.removed k
    have hrem : Removes log (m.session k) := ⟨j, d, hc.logged.mem hu hd hex.1, hq⟩
    rw [Issuance.pair_token]
    exact (gone_of_removes hS₀ ht (.inl ho) hm hc.logged hc.works hrem).not_liveIn
  · intro j p k j' p' k' hex hex' hid
    obtain ⟨u, m', hu, rfl, hr⟩ := replaces_of_exchanged hS₀ ht ho hm hv hc hex
    obtain ⟨u', m'', hu', rfl, hr'⟩ := replaces_of_exchanged hS₀ ht ho hm hv hc hex'
    rw [Issuance.pair_token, Issuance.pair_token] at hid
    obtain ⟨rfl, rfl, rfl⟩ := hr.minted.unique (hS₀.runs hc.logged.runs) hu hu' hr'.minted hid
    exact ⟨rfl, rfl, rfl⟩

/-- Whether the world works and its clock stands still. -/
def Calm (how : Reaction) : Prop :=
  how = .works ∨ how = .shows ⟨1010, 0⟩ ∨ ∃ id, how = .draws id

theorem calm_of_play {α : Type} {w : World} {x y : Action α} {rs : List (Bool × Reaction)}
    (h : play w rs ([], x) = some (tr, y)) (hrs : ∀ r ∈ rs, Calm r.2) : ∀ o ∈ tr, Calm o.how := by
  intro o ho
  obtain ho | ⟨r, hr, he⟩ := exists_mem_of_play h ho
  · cases ho
  · rw [he]
    exact hrs r hr

theorem contention_of_calm {pair : TokenPair} (hl : Logged S₀ log S)
    (hlive : ∀ k, LiveIn S₀.world (pair.token k).session)
    (hreq : ∀ i t, S.threads[i]? = some t → S₀.threads.length ≤ i →
      t.request = .refresh (pair.token .refresh).text)
    (hcalm : ∀ x ∈ log, S₀.threads.length ≤ x.1 ∧ Calm x.2.how)
    (htime : Timely v.verifier.leeway (pair.token .refresh).expiresAt ⟨1010, 0⟩)
    (hmo : S.world.moment = S₀.world.moment) : Contention S₀ S log pair := by
  refine ⟨hl, hlive, fun i t ht hi => .inl (hreq i t ht hi), fun i o h => (hcalm _ h).1, ?_, ?_, ?_⟩
  · rintro i o hmem ⟨e, he⟩
    have hc := (hcalm _ hmem).2
    rcases he with he | he <;> simp [Calm, he] at hc
  · intro i t o now ht hi hs hsaw
    have hmem := hl.mem ht (hs.subset List.mem_cons_self) hi
    have hc := (hcalm _ hmem).2
    have htr := hl.truthful hmem
    obtain ⟨b, how, a, rfl⟩ := hsaw
    obtain ⟨rfl, -⟩ := htr.now
    simp only [Calm, reduceCtorEq, Reaction.shows.injEq, exists_false, or_false, false_or] at hc
    rw [hc]
    exact htime
  · intro k e he
    rw [hmo]
    exact (Store.Memory.live?_eq_some he).2.2

/-- The reactions to an exchange from its third question on; the second record is kept first. -/
def smallRest : List (Bool × Reaction) :=
  [(false, .works), (false, .shows ⟨1010, 0⟩), (false, .draws (.ofNat 8)),
    (false, .draws (.ofNat 9)), (true, .works), (false, .works), (false, .works), (false, .works)]

/-- The parts of the run below: only the verification of tokens is not left to evaluation. -/
theorem exists_small_parts :
    ∃ tr₁ pair r text tr₂ p₂ tr₃ p₁ w,
      smallLogIn smallServices (smallReactions .works .works) = some (tr₁, .done (.ok pair)) ∧
      { tr₁.world smallWorld with clock := ⟨1010, 0⟩ } = w ∧
      w.get? (storeKey (pair.token .refresh).session) = some (recordText r) ∧
      w.get? (storeKey (pair.token .access).session) = some text ∧
      (pair.token .refresh).expiresAt = ⟨1600, 0⟩ ∧
      play w (smallRenewal.drop 2)
        ([⟨w, .store (.get (storeKey (pair.token .refresh).session)),
          .works, .ok (some (recordText r)), w⟩,
          ⟨w, .now, .shows ⟨1010, 0⟩, ⟨1010, 0⟩, w⟩],
          smallServices.renew (pair.token .refresh).session r) = some (tr₂, .done (.ok p₂)) ∧
      play (tr₂.world w) smallRest ([], smallServices.renew (pair.token .refresh).session r) =
        some (tr₃, .done (.ok p₁)) ∧
      (tr₃.world (tr₂.world w)).get? (storeKey (pair.token .refresh).session) = none := by
  exact ⟨_, _, (SessionRecord.fresh (.ofNat 1) [⟨.ofNat 2, "Admin"⟩]).bind (.ofNat 4), _, _, _, _,
    _, _, rfl, rfl, rfl, rfl, rfl, rfl, rfl, rfl⟩

/-- Two exchanges have both loaded the record before one of them removes it, and a third one comes
late. -/
theorem exists_small_contention :
    ∃ (S₀ S : RunState (workload smallServices)) (log : Log) (t : Thread (workload smallServices))
      (pair p p' : TokenPair) (tr : Trace),
      S₀.Reachable ∧ S₀.threads = [t] ∧ Returned pair t ∧ Contention S₀ S log pair ∧
      (∀ i u, S.threads[i]? = some u → S₀.threads.length ≤ i → Over u) ∧
      Exchanged S₀ S pair 1 p ∧ Exchanged S₀ S pair 2 p' ∧
      S.threads[3]? =
        some ⟨.refresh (pair.token .refresh).text, tr, .done (.error notLive)⟩ := by
  obtain ⟨tr₁, pair, r, text, tr₂, p', tr₃, p, w, h₁, hw, hg, hga, he, h₂, h₃, hnone⟩ :=
    exists_small_parts
  have hS₀ := smallState_reachable h₁
  obtain ⟨m, hm, rfl⟩ := Returned.logIn.minted hS₀ (a := 0) rfl
  have htime : Timely smallServices.verifier.leeway (m.expiresAt .refresh) ⟨1010, 0⟩ := by
    rw [show m.expiresAt .refresh = ⟨1600, 0⟩ from he]
    exact ⟨by decide, by decide⟩
  have hv := verify_of_timely (v := smallServices) (k := .refresh) rfl hm.fits htime
  let S₀ := smallState smallServices tr₁ (.done (.ok (m.pair smallServices.issuer)))
  let q : Request := .refresh (m.token smallServices.issuer .refresh).text
  -- the first exchange loads the record, then the second one runs
  obtain ⟨tr, hA, hwA⟩ : ∃ tr, play S₀.world (smallRenewal.take 2) ([], q.action smallServices) =
      some (tr, smallServices.renew (m.session .refresh) r) ∧ tr.world S₀.world = w := by
    subst hw
    exact ⟨_, play_refresh (w := S₀.world) hv hg [], rfl⟩
  have hB : play w smallRenewal ([], q.action smallServices) = some (tr₂, .done (.ok p')) := by
    subst hw
    exact (play_refresh hv hg (smallRenewal.drop 2)).trans h₂
  have lA := Logged.played (W := workload smallServices) (S := S₀) (r := q) hA
  rw [hwA] at lA
  have lB := lA.trans (Logged.played (W := workload smallServices) (r := q) hB)
  -- the first one goes on, and the third one comes late
  obtain ⟨hrC, haC⟩ := reaches_of_play h₃ .start trivial
  have lC := lB.trans (Logged.alone (W := workload smallServices) (i := 1) rfl hrC haC)
  obtain ⟨tr₄, hD⟩ := exists_play_refresh_absent hv hnone
  let S : RunState (workload smallServices) := ⟨tr₄.world (tr₃.world (tr₂.world w)), S₀.threads ++
    [⟨q, tr₃ ++ tr, .done (.ok p)⟩, ⟨q, tr₂, .done (.ok p')⟩, ⟨q, tr₄, .done (.error notLive)⟩]⟩
  let log : Log := tr₄.map (3, ·) ++ (tr₃.map (1, ·) ++ (tr₂.map (2, ·) ++ tr.map (1, ·)))
  have lD : Logged S₀ log S := lC.trans (Logged.played (W := workload smallServices) (r := q) hD)
  have hlive : ∀ k, LiveIn S₀.world ((m.pair smallServices.issuer).token k).session := by
    subst hw
    rintro (_ | _)
    · exact ⟨text, hga⟩
    · exact ⟨_, hg⟩
  have hthreads : ∀ i u, S.threads[i]? = some u → S₀.threads.length ≤ i →
      u.request = q ∧ Over u := by
    intro i u hu hi
    match i, hi, hu with
    | 1, _, hu | 2, _, hu | 3, _, hu =>
      cases hu
      exact ⟨rfl, fun _ => rfl⟩
  have hcalm : ∀ x ∈ log, S₀.threads.length ≤ x.1 ∧ Calm x.2.how := by
    have calm : ∀ {i : Nat} {tr : Trace}, 1 ≤ i → (∀ o ∈ tr, Calm o.how) →
        ∀ x ∈ tr.map (i, ·), S₀.threads.length ≤ x.1 ∧ Calm x.2.how := by
      intro i tr hi h
      exact List.forall_mem_map.2 fun o ho => ⟨hi, h o ho⟩
    simp only [log, List.forall_mem_append]
    refine ⟨calm (by decide) (calm_of_play hD ?_), calm (by decide) (calm_of_play h₃ ?_),
      calm (by decide) (calm_of_play hB ?_), calm (by decide) (calm_of_play hA ?_)⟩ <;>
      simp [smallRest, smallRenewal, Calm]
  have hmo : S.world.moment = S₀.world.moment := by
    have hmD := (reaches_of_play hD .start trivial).2.moment_eq
    have hmB := (reaches_of_play hB .start trivial).2.moment_eq
    have hmA := (reaches_of_play hA .start trivial).2.moment_eq
    rw [hwA] at hmA
    exact hmD.trans (haC.moment_eq.trans (hmB.trans hmA))
  exact ⟨S₀, S, log, _, _, p, p', tr₄, hS₀, rfl, .logIn, contention_of_calm (S := S) lD hlive
    (fun i u hu hi => (hthreads i u hu hi).1) hcalm htime hmo, fun i u hu hi =>
    (hthreads i u hu hi).2, ⟨Nat.le_refl 1, _, rfl⟩, ⟨Nat.le_succ 1, _, rfl⟩, rfl⟩

/-- Both new pairs are live in the end, and the third exchange did not load in time. -/
theorem small_contention_leaves_both_pairs :
    ∃ (S₀ S : RunState (workload smallServices)) (log : Log) (pair p p' : TokenPair),
      S₀.Reachable ∧ Contention S₀ S log pair ∧ Exchanged S₀ S pair 1 p ∧
      Exchanged S₀ S pair 2 p' ∧ ¬LoadedFirst log 3 (pair.token .refresh).session ∧
      (∀ k, ¬LiveIn S.world (pair.token k).session) ∧
      ∀ k, LiveIn S.world (p.token k).session ∧ LiveIn S.world (p'.token k).session := by
  obtain ⟨S₀, S, log, t, pair, p, p', tr, hS₀, hthreads, hp, hc, hall, hex, hex', hu⟩ :=
    exists_small_contention
  have ht : S₀.threads[0]? = some t := by
    rw [hthreads]
    rfl
  have hlen : S₀.threads.length ≤ 3 := by
    rw [hthreads]
    exact Nat.le_add_left 1 2
  obtain ⟨-, hload, hend⟩ := contention_decided_by_load smallServices_configured hS₀ ht hp hc
  obtain ⟨hold, hnew, -⟩ := hend hall
  refine ⟨S₀, S, log, pair, p, p', hS₀, hc, hex, hex', fun hl => ?_, hold ⟨1, p, hex⟩, fun k =>
    ⟨((hnew _).2 ⟨1, p, k, hex, rfl⟩).1, ((hnew _).2 ⟨2, p', k, hex', rfl⟩).1⟩⟩
  -- had it been in time, it would have succeeded or broken off
  obtain ⟨hok, hcrash, -, -⟩ := hload 3 tr (.done (.error notLive)) hlen hu fun _ => rfl
  by_cases hout : OutOfCalendar smallServices.issuer tr
  · cases hcrash.2 ⟨hl, hout⟩
  · obtain ⟨p₃, hp₃⟩ := hok.2 ⟨hl, hout⟩
    cases hp₃

end Gatehouse.Session
