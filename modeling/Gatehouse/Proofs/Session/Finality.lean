import Gatehouse.Proofs.Session.Lineage

/-!
# Sessions that are over for good

A record is kept once. So a session whose record was kept and removed, or removed after its pair was
handed out, never has a record again (`Gone.runs`), and no request about it that is started later
succeeds (`Final`). This is how a session ends by logging out, and how the session of a refresh
token ends by its exchange (`removed_session_is_final`).
-/

namespace Gatehouse.Session

open Gatehouse.Action RunState

variable {v : Services} {S₀ S S' : RunState (workload v)} {a b : Nat} {t u : Thread (workload v)}
  {m : Issuance} {k : TokenKind}

/-! ## Removed for good -/

/-- Whether the record of a session is not kept any more: the request of its issuance is over, or
has kept it already. -/
def Spent (m : Issuance) (k : TokenKind) (t : Thread (workload v)) : Prop :=
  Over t ∨ ∃ o ∈ t.trace, o.question = .store (m.save v.issuer k)

theorem Spent.runs (h : Spent m k t) (ht : S.threads[a]? = some t) (hr : Runs S S') :
    ∃ t', S'.threads[a]? = some t' ∧ t.trace <:+ t'.trace ∧ Spent m k t' := by
  obtain ho | ⟨o, ho, hq⟩ := h
  · exact ⟨t, hr.over ht ho, List.suffix_refl _, .inl ho⟩
  · obtain ⟨t', ht', -, hs⟩ := hr.thread ht
    exact ⟨t', ht', hs, .inr ⟨o, hs.subset ho, hq⟩⟩

/-- A record that is spent is not kept again. -/
theorem no_save_of_spent (hS : S.Reachable) (ht : S.threads[a]? = some t) (h : Spent m k t)
    (hm : Minted v.issuer m t.trace) (hstep : Step S S') {older : Trace} {o : Observation}
    (hobs : Observed S S' b older o) {value : String} {ttl : Time.Duration} :
    o.question ≠ .store (.set (storeKey (m.session k)) value ttl) := by
  intro hq
  have hS' := hS.runs (.single hstep)
  obtain ⟨r, c, second, next, hb, hn, hb'⟩ := hobs.thread
  obtain ⟨m', k', ho, honce, hs⟩ := saves_origin hS' hb' (List.suffix_refl _) hq
  have hid : m.session k = m'.session k' :=
    storeKey_injective (eq_of_set_eq_save (hq.symm.trans hs)).1
  obtain ⟨t', ht', -, hsuf⟩ := hstep.thread ht
  have hm' := ho.minted.extend (List.suffix_cons o older)
  obtain ⟨rfl, rfl, rfl⟩ := (hm.extend hsuf).unique hS' ht' hb' hm' hid
  cases ht.symm.trans hb
  obtain hover | ⟨o', ho', hq'⟩ := h
  · exact absurd hn (by simp [hover second])
  · -- the earlier call can only have been the one for the other session
    have hother := honce o' ho' (writes_of_save hq')
    exact session_other_ne hS ht hm k (session_eq_of_save_eq (hq'.symm.trans hother)).symm

/-- Whether a session is spent and has no record. -/
structure Gone (m : Issuance) (k : TokenKind) (S : RunState (workload v)) : Prop where
  reachable : S.Reachable
  spent : ∃ (a : Nat) (t : Thread (workload v)),
    S.threads[a]? = some t ∧ Spent m k t ∧ Minted v.issuer m t.trace
  lacks : S.world.store.Lacks (storeKey (m.session k))

theorem Gone.step (h : Gone m k S) (hstep : Step S S') : Gone m k S' := by
  obtain ⟨a, t, ht, hset, hm⟩ := h.spent
  obtain ⟨t', ht', hs, hset'⟩ := hset.runs ht (.single hstep)
  refine ⟨h.reachable.runs (.single hstep), ⟨a, t', ht', hset', hm.extend hs⟩, ?_⟩
  intro e he hk
  obtain he | ⟨b, older, o, ttl, hobs, hq, -⟩ := hstep.written he
  · exact h.lacks e he hk
  · exact no_save_of_spent h.reachable ht hset hm hstep hobs (hk ▸ hq)

/-- A session that was removed stays removed. -/
theorem Gone.runs (h : Gone m k S) (hr : Runs S S') : Gone m k S' := by
  induction hr with
  | refl => exact h
  | tail _ hs ih => exact ih.step hs

theorem Gone.not_liveIn (h : Gone m k S) : ¬LiveIn S.world (m.session k) := by
  rintro ⟨text, ht⟩
  cases ht.symm.trans (h.lacks.get? _)

/-- What a request that was started later finds under the session. -/
theorem Gone.get?_before (h : Gone m k S) (hr : Runs S S')
    (hu : S'.threads[b]? = some u) (hb : S.threads.length ≤ b) {o : Observation} {older : Trace}
    (ho : o :: older <:+ u.trace) :
    o.Truthful ∧ o.before.get? (storeKey (m.session k)) = none := by
  obtain ⟨S₁, S₂, h₁, -, hobs⟩ := hr.observed_of_new hb hu ho
  have hg := (h.runs h₁).lacks.get? S₁.world.moment
  rw [hobs.before] at hg
  exact ⟨hobs.truthful, hg⟩

/-- A spent session is gone when its removal is reported. -/
theorem Gone.of_observed {older : Trace} {d : Observation} (hS : S.Reachable)
    (ht : S.threads[a]? = some t) (hset : Spent m k t) (hm : Minted v.issuer m t.trace)
    (hstep : Step S S') (hobs : Observed S S' b older d)
    (hd : d.Saw (.store (revokeCall (m.session k))) (.ok ())) : Gone m k S' := by
  obtain ⟨t', ht', hs, hset'⟩ := hset.runs ht (.single hstep)
  refine ⟨hS.runs (.single hstep), ⟨a, t', ht', hset', hm.extend hs⟩, ?_⟩
  have htr := hobs.truthful
  rw [hobs.after]
  obtain ⟨w, how, w', rfl⟩ := hd
  have he : w'.store = w.store.erase (storeKey (m.session k)) :=
    (congrArg Prod.snd htr.store_ok.1).symm
  rw [he]
  exact Store.Memory.lacks_erase

/-- A session is removed for good when its removal is reported after its pair was made. -/
theorem Gone.of_removed_since (hS₀ : S₀.Reachable) (ht : S₀.threads[a]? = some t) (ho : Over t)
    (hm : Minted v.issuer m t.trace) (hr : Runs S₀ S) (hu : S.threads[b]? = some u)
    {d : Observation} (hd : d ∈ u.trace) (hnew : ∀ u₀, S₀.threads[b]? = some u₀ → d ∉ u₀.trace)
    (hs : d.Saw (.store (revokeCall (m.session k))) (.ok ())) : Gone m k S := by
  obtain ⟨newer, older, hu'⟩ := List.append_of_mem hd
  have hsuf : d :: older <:+ u.trace := ⟨newer, hu'.symm⟩
  obtain ⟨u₀, hu₀, hold⟩ | ⟨S₁, S₂, h₁, hst, hobs, h₂⟩ := hr.observed hu hsuf
  · exact absurd (hold.subset List.mem_cons_self) (hnew u₀ hu₀)
  · exact (Gone.of_observed (hS₀.runs h₁) (h₁.over ht ho) (.inl ho) hm hst hobs hs).runs h₂

theorem Gone.of_removed (hS₀ : S₀.Reachable) (ht : S₀.threads[a]? = some t) (ho : Over t)
    (hm : Minted v.issuer m t.trace) (hr : Runs S₀ S) (hu : S.threads[b]? = some u)
    (hb : S₀.threads.length ≤ b) {d : Observation} (hd : d ∈ u.trace)
    (hs : d.Saw (.store (revokeCall (m.session k))) (.ok ())) : Gone m k S := by
  refine Gone.of_removed_since hS₀ ht ho hm hr hu hd (fun u₀ hu₀ => ?_) hs
  rw [List.getElem?_eq_none hb] at hu₀
  cases hu₀

/-! ## Requests about a session that is over -/

/-- Whether a request is about a session: it asks for its record, or shows a token that bears it. -/
def Concerns (v : Services) (s : Uuid) : Request → Prop
  | .describe session => session = s
  | .authenticate token | .authorize token _ => Bears v .access token s
  | .refresh token => Bears v .refresh token s
  | .logIn _ _ | .logout _ | .logoutPair _ => False

/-- What such a request relies on, which is that there is no record of the session; it asks at most
twice. -/
def absentTerms (s : Uuid) : Terms where
  rely _ o := o.Truthful ∧ o.before.get? (storeKey s) = none
  guarantee tr _ := tr.length < 2

/-- Whether a request has failed, as unauthorized unless a call failed. -/
def TurnedDown {α : Type} (tr : Trace) (out : Outcome α) : Prop :=
  ∃ e, out = .finished (.error e) ∧ ((∀ o ∈ tr, ¬o.Fails) → e.kind = .unauthorized)

theorem along_bind_turnedDown {α β : Type} {T : Terms} {x : Action α} {f : α → Action β}
    {tr : Trace} (h : x.Along T TurnedDown tr) : (x >>= f).Along T TurnedDown tr := by
  refine along_bind.2 (h.mono fun tr out ho => ?_)
  obtain ⟨e, rfl, he⟩ := ho
  exact ⟨e, rfl, he⟩

section

variable {s : Uuid} {token : String} {tr : Trace}

/-- The record is not found, or the call fails. -/
theorem along_describe_absent (h : tr.length < 2) :
    (describe s).Along (absentTerms s) TurnedDown tr := by
  refine along_bind.2 (along_mapFailure.2 (along_load.2 ⟨h, fun b how x a hr => ?_⟩))
  obtain ⟨ht, hnone⟩ := hr
  obtain rfl | ⟨⟨e, rfl⟩, hf⟩ := ht.get
  · rw [hnone]
    exact ⟨_, rfl, fun _ => rfl⟩
  · exact ⟨_, rfl, fun hw => absurd hf (hw _ List.mem_cons_self)⟩

theorem along_authenticate_absent (h : Bears v .access token s) :
    (v.authenticate token).Along (absentTerms s) TurnedDown [] := by
  refine along_bind.2 (along_check.2 ⟨Nat.zero_lt_two, fun b how now a _ => ?_⟩)
  cases hv : v.verifier.verify .access now token with
  | error e => exact ⟨_, rfl, fun _ => rfl⟩
  | ok c =>
    obtain rfl := h now c hv
    refine along_bind.2 ⟨Nat.one_lt_two, fun b how x a hr => ?_⟩
    obtain ⟨ht, hnone⟩ := hr
    obtain rfl | ⟨⟨e, rfl⟩, hf⟩ := ht.isPresent
    · rw [hnone]
      exact ⟨_, rfl, fun _ => rfl⟩
    · exact ⟨_, rfl, fun hw => absurd hf (hw _ List.mem_cons_self)⟩

/-- The first two steps of an exchange are those of asking for the record. -/
theorem along_refresh_absent (h : Bears v .refresh token s) :
    (v.refresh token).Along (absentTerms s) TurnedDown [] := by
  refine along_bind.2 (along_check.2 ⟨Nat.zero_lt_two, fun b how now a _ => ?_⟩)
  cases hv : v.verifier.verify .refresh now token with
  | error e => exact ⟨_, rfl, fun _ => rfl⟩
  | ok c =>
    obtain rfl := h now c hv
    show Action.Along _ _ (_ >>= fun found => orFail notLive found >>= v.renew c.session) _
    rw [← bind_assoc]
    exact along_bind_turnedDown (along_describe_absent Nat.one_lt_two)

/-- No request about a session succeeds while there is no record of it. -/
theorem along_concerns_absent {r : Request} (h : Concerns v s r) :
    (r.action v).Along (absentTerms s) TurnedDown [] := by
  cases r with
  | describe session =>
    obtain rfl : session = s := h
    exact along_describe_absent Nat.zero_lt_two
  | authenticate token => exact along_authenticate_absent h
  | authorize token permission => exact along_bind_turnedDown (along_authenticate_absent h)
  | refresh token => exact along_refresh_absent h
  | logIn | logout | logoutPair => cases h

end

/-- Whether a request cannot succeed. If none of its calls fails it is over after two answers at the
latest, as unauthorized. -/
structure Hopeless (u : Thread (workload v)) : Prop where
  fails : ∀ x, u.rest ≠ .done (.ok x)
  unauthorized : (∀ o ∈ u.trace, ¬o.Fails) → u.trace.length < 2 ∧ ¬Over u ∨
    ∃ e, u.rest = .done (.error e) ∧ e.kind = .unauthorized

theorem hopeless_of_along {s : Uuid}
    (h : u.rest.Along (absentTerms s) TurnedDown u.trace) : Hopeless u := by
  obtain ⟨out, hout, e, rfl, hkind⟩ | ⟨q, hq, hlen⟩ := h.over_or_asks
  · refine ⟨fun x hx => ?_, fun hw => .inr ⟨e, hout, hkind hw⟩⟩
    cases hout.symm.trans hx
  · refine ⟨fun x hx => ?_, fun _ => .inl ⟨hlen, fun ho => ?_⟩⟩
    · rw [hx] at hq
      cases hq
    · cases (ho false).symm.trans hq

/-- Whether a session is over for good: it has no record from now on, and no request about it that
is started from now on succeeds. -/
structure Final (S : RunState (workload v)) (s : Uuid) : Prop where
  not_live : ∀ S', Runs S S' → ¬LiveIn S'.world s
  hopeless : ∀ (S' : RunState (workload v)) (b : Nat) (u : Thread (workload v)), Runs S S' →
    S'.threads[b]? = some u → S.threads.length ≤ b → Concerns v s u.request → Hopeless u

theorem Gone.final (h : Gone m k S) : Final S (m.session k) := by
  refine ⟨fun S' hr => (h.runs hr).not_liveIn, fun S' b u hr hu hb hc => ?_⟩
  have hall : u.trace.All (absentTerms (m.session k)).rely :=
    .of_forall fun o older ho => h.get?_before hr hu hb ho
  have hreach := (h.reachable.runs hr).reaches hu
  exact hopeless_of_along (hreach.along (along_concerns_absent hc) hall).1

/-! ## How sessions end -/

/-- A request to log out asks once. -/
theorem along_logout (s : Uuid) : (logout s).Along ⟨fun _ _ => True, fun tr _ => tr = []⟩
    (fun tr out => out = .finished (.ok ()) → ∃ d ∈ tr, d.Saw (.store (revokeCall s)) (.ok ()))
    [] := by
  refine ⟨rfl, fun b how x w _ hx => ?_⟩
  cases x with
  | error e => cases hx
  | ok => exact ⟨_, List.mem_cons_self, b, how, w, rfl⟩

/-- A session of a pair that was handed out is gone when it has been logged out after that. -/
theorem Gone.of_logout (hS₀ : S₀.Reachable) (ht : S₀.threads[a]? = some t) (ho : Over t)
    (hm : Minted v.issuer m t.trace) (hr : Runs S₀ S)
    (hb : ∀ u₀, S₀.threads[b]? = some u₀ → ¬Over u₀) {tr : Trace}
    (hu : S.threads[b]? = some ⟨.logout (m.session k), tr, .done (.ok ())⟩) : Gone m k S := by
  have hreach := (hS₀.runs hr).reaches hu
  obtain ⟨d, hd, hs⟩ :=
    (hreach.along (along_logout _) (.of_forall fun _ _ _ => trivial)).1 rfl
  refine Gone.of_removed_since hS₀ ht ho hm hr hu hd (fun u₀ hu₀ hd₀ => ?_) hs
  -- it asks once, so it had asked nothing while it was not over
  obtain ⟨u₁, hu₁, hreq, -⟩ := hr.thread hu₀
  cases hu.symm.trans hu₁
  obtain ⟨r, tr₀, rest⟩ := u₀
  obtain rfl : Request.logout (m.session k) = r := hreq
  have hreach₀ := hS₀.reaches hu₀
  have halong := (hreach₀.along (along_logout _) (.of_forall fun _ _ _ => trivial)).1
  obtain ⟨out, hout, -⟩ | ⟨q, -, rfl⟩ := halong.over_or_asks
  · refine hb _ hu₀ fun second => ?_
    show rest.offer? second = none
    rw [show rest = out.action from hout]
    cases out <;> rfl
  · cases hd₀

/-- The session of a refresh token is gone when the token has been exchanged. -/
theorem Gone.of_refresh (hS : S.Reachable) {token : String} {tr : Trace} {pair : TokenPair}
    (hu : S.threads[b]? = some ⟨.refresh token, tr, .done (.ok pair)⟩) :
    ∃ c r m k, v.Presented token c r tr ∧ c.session = m.session k ∧ Gone m k S := by
  have hend := ((hS.reaches hu).along (v.along_refresh _) (Trace.all_true _)).1
  cases (hend : v.Redeemed token tr (.finished (.ok pair))) with
  | stopped _ hs => cases hs
  | @rotated c r m' gone newer older o hrn hn ho hg =>
    have hsuf : o :: (newer ++ older) <:+ gone ++ o :: (newer ++ older) :=
      List.suffix_append gone _
    have hmem : ∀ x ∈ older, x ∈ newer ++ older := fun x hx => List.mem_append_right _ hx
    obtain ⟨S₁, S₂, hS₁, hst, hobs, h₂⟩ := hS.observed hu hsuf
    obtain ⟨_, _, _, _, hb₁, -, -⟩ := hobs.thread
    -- the record was found, so it had been kept for an issuance
    have hfound : Found (newer ++ older) c.session := (hrn.presented.mono hmem).found
    obtain ⟨T, text, hT, hr, hg⟩ := exists_state_of_found hS₁ hb₁ hfound
    obtain ⟨e, he, hk, -, -⟩ := Store.Memory.exists_of_get? hg
    obtain ⟨a, t, m, k, ht, hm, hkept, hkey, -⟩ := kept_by hT he
    have hid : c.session = m.session k := storeKey_injective (hk.symm.trans hkey)
    obtain ⟨t', ht', hs, hspent⟩ := Spent.runs (.inr hkept) ht hr
    rw [hid] at ho
    have hgone := Gone.of_observed hS₁ ht' hspent (hm.extend hs) hst hobs ho
    refine ⟨c, r, m, k, hrn.presented.mono fun x hx => ?_, hid, hgone.runs h₂⟩
    exact hsuf.subset (List.mem_cons_of_mem _ (hmem x hx))

/-- A session of a pair that was handed out is over for good when it has been logged out after that,
and the session of a refresh token is when the token has been exchanged: there is no record of it
ever again, and no request about it that is started later succeeds. -/
theorem removed_session_is_final {s : Settings.AuthSettings} (hv : v.Configured s) :
    (∀ (S₀ S : RunState (workload v)) (a b : Nat) (t : Thread (workload v)) (pair : TokenPair)
      (k : TokenKind) (tr : Trace), S₀.Reachable → S₀.threads[a]? = some t → Returned pair t →
      Runs S₀ S → (∀ u₀, S₀.threads[b]? = some u₀ → ¬Over u₀) →
      S.threads[b]? = some ⟨.logout (pair.token k).session, tr, .done (.ok ())⟩ →
        Bears v k (pair.token k).text (pair.token k).session ∧
          Final S (pair.token k).session) ∧
    (∀ (S : RunState (workload v)) (b : Nat) (token : String) (tr : Trace) (pair : TokenPair),
      S.Reachable → S.threads[b]? = some ⟨.refresh token, tr, .done (.ok pair)⟩ →
        ∃ c r, v.Presented token c r tr ∧ Bears v .refresh token c.session ∧
          Final S c.session) := by
  refine ⟨fun S₀ S a b t pair k tr hS₀ ht hp hr hb hu => ?_, fun S b token tr pair hS hu => ?_⟩
  · obtain ⟨m, hm, rfl⟩ := hp.minted hS₀ ht
    rw [Issuance.pair_token] at hu ⊢
    exact ⟨bears_token (hv.key_eq k) hm.fits, (Gone.of_logout hS₀ ht hp.over hm hr hb hu).final⟩
  · obtain ⟨c, r, m, k, hp, hid, hgone⟩ := Gone.of_refresh hS hu
    obtain ⟨o, now, -, -, hverify⟩ := hp.verified
    exact ⟨c, r, hp, bears_of_verify hverify, hid ▸ hgone.final⟩

/-- In the small world the refresh token of the login is exchanged, and the access session of the
new pair is logged out: both the old and the new session are over for good. -/
theorem small_exchange_is_final :
    ∃ (S : RunState (workload smallServices)) (pair pair' : TokenPair) (tr tr' : Trace),
      S.Reachable ∧
      S.threads[1]? = some ⟨.refresh (pair.token .refresh).text, tr, .done (.ok pair')⟩ ∧
      S.threads[2]? = some ⟨.logout (pair'.token .access).session, tr', .done (.ok ())⟩ ∧
      Final S (pair.token .refresh).session ∧ Final S (pair'.token .access).session := by
  obtain ⟨tr₁, pair, tr₂, pair', text, hS₀, h, -, -⟩ := exists_small_exchange true
  let S₀ := smallStateAfter tr₁ pair true
  let S₁ : RunState (workload smallServices) := ⟨tr₂.world S₀.world,
    S₀.threads ++ [⟨.refresh (pair.token .refresh).text, tr₂, .done (.ok pair')⟩]⟩
  have hS₁ : S₁.Reachable := hS₀.runs (Runs.played (W := workload smallServices) (S := S₀)
    (r := .refresh (pair.token .refresh).text) h)
  obtain ⟨tr₃, h₃⟩ : ∃ tr₃, play S₁.world [(false, .works)]
      ([], logout (pair'.token .access).session) = some (tr₃, .done (.ok ())) := ⟨_, rfl⟩
  have hr : Runs S₁ ⟨tr₃.world S₁.world,
      S₁.threads ++ [⟨.logout (pair'.token .access).session, tr₃, .done (.ok ())⟩]⟩ :=
    Runs.played (W := workload smallServices) (r := .logout (pair'.token .access).session) h₃
  obtain ⟨hlogout, hrefresh⟩ := removed_session_is_final smallServices_configured
  obtain ⟨c, r, hp, -, hfinal⟩ :=
    hrefresh _ 1 (pair.token .refresh).text tr₂ pair' (hS₁.runs hr) rfl
  obtain ⟨-, hnew⟩ := hlogout S₁ _ 1 2 _ pair' .access tr₃ hS₁ rfl .refresh hr
    (fun u₀ hu₀ => by cases hu₀) rfl
  -- the token that was shown is the one that the login handed out
  obtain ⟨m, hm, rfl⟩ := Returned.logIn.minted hS₀ (a := 0) rfl
  obtain ⟨o, now, -, -, hverify⟩ := hp.verified
  have hid : c.session = m.session .refresh :=
    bears_token (smallServices_configured.key_eq .refresh) hm.fits now c hverify
  rw [hid] at hfinal
  exact ⟨_, _, pair', tr₂, tr₃, hS₁.runs hr, rfl, rfl, hfinal, hnew⟩

end Gatehouse.Session
