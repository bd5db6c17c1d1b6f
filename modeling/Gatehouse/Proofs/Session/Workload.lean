import Gatehouse.Session.Access
import Gatehouse.Proofs.Session.Alone

/-!
# Requests about sessions

The requests of the service that concern sessions, as a workload over any services. In every
reachable state each text of the store is the record of an issuance of some request, under the
session of one of its tokens (`attested`), so the text under the session of a token is always the
record that was made for it (`text_eq`), and the store knows no identifier that is not in use
(`covers_of_reachable`).
-/

namespace Gatehouse

/-- The token of a kind. -/
def TokenPair.token (p : TokenPair) : TokenKind → IssuedToken
  | .access => p.access
  | .refresh => p.refresh

namespace Session

open Gatehouse.Action RunState

@[simp] theorem Issuance.pair_token (m : Issuance) (i : TokenIssuer) (k : TokenKind) :
    (m.pair i).token k = m.token i k := by
  cases k <;> rfl

@[simp] theorem Issuance.token_session (m : Issuance) (i : TokenIssuer) (k : TokenKind) :
    (m.token i k).session = m.session k := rfl

theorem Issuance.token_text (m : Issuance) (i : TokenIssuer) (k : TokenKind) :
    (m.token i k).text = i.encode (m.claims k) := rfl

/-- A request about sessions. -/
inductive Request where
  | logIn (email password : String)
  | refresh (token : String)
  | logout (session : Uuid)
  | logoutPair (session : Uuid)
  | describe (session : Uuid)
  | authenticate (token : String)
  | authorize (token permission : String)

/-- The values of a request. -/
def Request.Result : Request → Type
  | .logIn _ _ | .refresh _ => TokenPair
  | .logout _ | .logoutPair _ => Unit
  | .describe _ => SessionRecord
  | .authenticate _ => AuthenticatedSession
  | .authorize _ _ => Principal

/-- What a request does. -/
def Request.action (v : Services) : (r : Request) → Action r.Result
  | .logIn email password => v.logIn email password
  | .refresh token => v.refresh token
  | .logout session => Session.logout session
  | .logoutPair session => Session.logoutPair session
  | .describe session => Session.describe session
  | .authenticate token => v.authenticate token
  | .authorize token permission => v.authorize token permission

/-- The requests of given services. -/
def workload (v : Services) : Workload where
  Request := Request
  Result := Request.Result
  action := Request.action v

/-! ## Only issuances are kept -/

/-- Where an issuance comes from: the request that made it, with what the request had found. -/
inductive Origin (v : Services) (m : Issuance) : Request → Trace → Prop where
  | logIn {email password : String} {older tr : Trace} (h : v.LogsIn email password m older)
      (hs : older <:+ tr) : Origin v m (.logIn email password) tr
  | refresh {token : String} {c : Claims} {r : SessionRecord} {older tr : Trace}
      (h : v.Renews token c r m older) (hs : older <:+ tr) : Origin v m (.refresh token) tr

theorem Origin.minted {v : Services} {m : Issuance} {r : Request} {tr : Trace}
    (h : Origin v m r tr) : Minted v.issuer m tr := by
  cases h with
  | logIn h hs => exact h.minted.extend hs
  | refresh h hs => exact h.minted.extend hs

theorem Origin.extend {v : Services} {m : Issuance} {r : Request} {tr newer : Trace}
    (h : Origin v m r tr) (hs : tr <:+ newer) : Origin v m r newer := by
  cases h with
  | logIn h hs' => exact .logIn h (hs'.trans hs)
  | refresh h hs' => exact .refresh h (hs'.trans hs)

/-- Whether nothing was written but, perhaps, the other record of an issuance. -/
def WroteOther (i : TokenIssuer) (m : Issuance) (k : TokenKind) (tr : Trace) : Prop :=
  ∀ o ∈ tr, o.question.Writes → o.question = .store (m.save i k.other)

theorem WroteOther.of_writeless {i : TokenIssuer} {m : Issuance} {k : TokenKind} {tr : Trace}
    (h : tr.Writeless) : WroteOther i m k tr :=
  fun o ho hw => absurd hw (h o ho)

theorem WroteOther.cons {i : TokenIssuer} {m : Issuance} {k : TokenKind} {o : Observation}
    {tr : Trace} (h : tr.Writeless) (ho : o.question = .store (m.save i k.other)) :
    WroteOther i m k (o :: tr) := by
  intro x hx hw
  rcases List.mem_cons.1 hx with rfl | hx
  · exact ho
  · exact absurd hw (h x hx)

/-- The terms of every request: a record is kept for an issuance of the request only, and kept
once. -/
def keepingTerms (v : Services) (r : Request) : Terms where
  rely _ _ := True
  guarantee tr q := ∀ key value ttl, q = .store (.set key value ttl) →
    ∃ m k, Origin v m r tr ∧ WroteOther v.issuer m k tr ∧ q = .store (m.save v.issuer k)

/-- Whether an action may look at anything. -/
def FreeToLook (T : Terms) : Prop := ∀ tr q, q.Looks → T.guarantee tr q

/-- Whether an action may look at anything and remove anything. -/
def FreeButToKeep (T : Terms) : Prop :=
  ∀ tr q, q.Looks ∨ (∃ key, q = .store (.delete key)) → T.guarantee tr q

variable {v : Services} {i : TokenIssuer} {tr : Trace} {T : Terms}

theorem keepingTerms_of_ne_set {r : Request} {q : Question}
    (h : ∀ key value ttl, q ≠ .store (.set key value ttl)) : (keepingTerms v r).guarantee tr q :=
  fun key value ttl he => absurd he (h key value ttl)

theorem keepingTerms_freeButToKeep (r : Request) : FreeButToKeep (keepingTerms v r) := by
  intro tr q hq
  refine keepingTerms_of_ne_set fun key value ttl he => ?_
  obtain hq | ⟨key', hq⟩ := hq
  · exact hq.not_writes (he ▸ trivial)
  · cases hq.symm.trans he

theorem FreeButToKeep.freeToLook (h : FreeButToKeep T) : FreeToLook T :=
  fun tr q hq => h tr q (.inl hq)

theorem FreeButToKeep.delete (h : FreeButToKeep T) (tr : Trace) (key : String) :
    T.guarantee tr (.store (.delete key)) :=
  h tr _ (.inr ⟨key, rfl⟩)

theorem FreeToLook.freeToAsk (h : FreeToLook T) : FreeToAsk T :=
  fun tr q _ hq => h tr q hq

theorem along_isGrantedBy_free (hT : ∀ tr role, T.guarantee tr (.directory (.permissionsOf role)))
    (permission : String) (roles : List RoleRef) :
    (isGrantedBy permission roles).Along T (fun _ _ => True) tr := by
  induction roles generalizing tr with
  | nil => trivial
  | cons role roles ih =>
    refine along_bind.2 ⟨hT _ _, fun b how x a _ => ?_⟩
    rcases x with e | granted
    · trivial
    · show Action.Along _ _ (if _ then _ else _) _
      split
      · trivial
      · exact ih

section

variable (hT : FreeToLook T)
include hT

theorem along_load_free (s : Uuid) {ends : Trace → Outcome (Option SessionRecord) → Prop}
    (h : ∀ tr out, ends tr out) : (load s).Along T ends tr :=
  along_load.2 ⟨hT _ _ trivial, fun _ _ _ _ _ => h _ _⟩

theorem along_describe_free (s : Uuid) {ends : Trace → Outcome SessionRecord → Prop}
    (h : ∀ tr out, ends tr out) : (describe s).Along T ends tr := by
  refine along_bind.2 (along_mapFailure.2 (along_load_free hT s fun tr out => ?_))
  rcases out with (e | _ | r) | _ <;> exact h _ _

theorem along_authenticate_free (token : String)
    {ends : Trace → Outcome AuthenticatedSession → Prop} (h : ∀ tr out, ends tr out) :
    (v.authenticate token).Along T ends tr := by
  refine along_bind.2 (along_check.2 ⟨hT _ _ trivial, fun b how t a _ => ?_⟩)
  cases v.verifier.verify .access t token with
  | error e => exact h _ _
  | ok c =>
    refine along_bind.2 ⟨hT _ _ trivial, fun b how x a _ => ?_⟩
    rcases x with e | _ | _ <;> exact h _ _

theorem along_authorize_free (token permission : String) :
    (v.authorize token permission).Along T (fun _ _ => True) tr := by
  refine along_bind.2 (along_authenticate_free hT token fun tr out => ?_)
  rcases out with (e | caller) | _
  · trivial
  · refine along_bind.2 (along_bind.2 (along_describe_free hT _ fun tr out => ?_))
    rcases out with (e | r) | _
    · trivial
    · refine along_bind.2 ((along_isGrantedBy_free (fun _ _ => hT _ _ trivial) permission
        r.roles).mono fun tr out _ => ?_)
      rcases out with (e | _ | _) | _ <;> trivial
    · trivial
  · trivial

end

section

variable (hT : FreeButToKeep T)
include hT

theorem along_logoutPair_free (s : Uuid) : (logoutPair s).Along T (fun _ _ => True) tr := by
  refine along_bind.2 (along_mapFailure.2 (along_load_free hT.freeToLook s fun tr out => ?_))
  rcases out with (e | found) | _
  · trivial
  · refine along_bind.2 ⟨hT.delete _ _, fun b how x a _ => ?_⟩
    cases x with
    | error e => trivial
    | ok =>
      dsimp only
      split
      · exact ⟨hT.delete _ _, fun _ _ _ _ _ => trivial⟩
      · trivial
  · trivial

/-- The rotation of sessions keeps nothing. -/
theorem along_rotate_free (s : Uuid) (r : SessionRecord) (pair : TokenPair) :
    (Services.rotate s r pair).Along T (fun _ _ => True) tr := by
  refine ⟨hT.delete _ _, fun b how x a _ => ?_⟩
  cases x with
  | error e =>
    refine ⟨⟨hT.delete _ _, fun _ _ _ _ _ => ?_⟩, ⟨hT.delete _ _, fun _ _ _ _ _ => ?_⟩⟩ <;>
      exact ⟨hT.delete _ _, fun _ _ _ _ _ => trivial⟩
  | ok =>
    cases r.pairedWith with
    | none => trivial
    | some p =>
      refine ⟨hT.delete _ _, fun b how x a _ => ?_⟩
      cases x <;> trivial

end

/-- The keeping of an issuance keeps each of its two records once. -/
theorem along_keepPair_keeping {r : Request} {m : Issuance}
    {ends : Trace → Outcome TokenPair → Prop} (ho : Origin v m r tr) (hw : tr.Writeless)
    (hends : ∀ tr out, ends tr out) :
    (keepPair v.issuer m).Along (keepingTerms v r) ends tr := by
  refine along_keepPair (fun k => ?_) (fun k o x hs _ => ?_) (fun _ _ _ _ _ _ _ _ => ?_)
    fun _ _ _ _ => hends _ _
  · exact fun _ _ _ _ => ⟨m, k, ho, .of_writeless hw, rfl⟩
  · refine fun _ _ _ _ => ⟨m, k.other, ho.extend (List.suffix_cons o tr), .cons hw ?_, rfl⟩
    rw [TokenKind.other_other]
    exact hs.question
  · exact (keepingTerms_freeButToKeep r).delete _ _

/-- Whether a request opens sessions. -/
def Request.Opens : Request → Prop
  | .logIn _ _ | .refresh _ => True
  | _ => False

/-- A request that opens no sessions keeps nothing. -/
theorem along_request_free (hT : FreeButToKeep T) {r : Request} (h : ¬r.Opens) :
    (r.action v).Along T (fun _ _ => True) [] := by
  cases r with
  | logIn | refresh => exact absurd trivial h
  | logout s => exact ⟨hT.delete _ _, fun _ _ _ _ _ => trivial⟩
  | logoutPair s => exact along_logoutPair_free hT s
  | describe s => exact along_describe_free hT.freeToLook s fun _ _ => trivial
  | authenticate token => exact along_authenticate_free hT.freeToLook token fun _ _ => trivial
  | authorize token permission => exact along_authorize_free hT.freeToLook token permission

/-- Every request keeps records for its issuances only. -/
theorem along_request (r : Request) :
    (r.action v).Along (keepingTerms v r) (fun _ _ => True) [] := by
  have hT := keepingTerms_freeButToKeep (v := v) r
  cases r with
  | logIn email password =>
    refine Services.along_logIn_of hT.freeToLook.freeToAsk (keepingTerms_of_ne_set nofun)
      (fun _ _ _ => trivial) (fun _ _ _ _ _ _ => trivial) fun m older h => ?_
    exact along_keepPair_keeping (.logIn h (List.suffix_refl _)) h.writeless fun _ _ => trivial
  | refresh token =>
    refine Services.along_refresh_of hT.freeToLook.freeToAsk (fun _ _ _ _ => trivial)
      (fun _ _ _ _ _ _ _ _ _ => trivial) fun c r m older h => along_bind.2 ?_
    refine along_keepPair_keeping (.refresh h (List.suffix_refl _)) h.writeless fun tr out => ?_
    rcases out with (e | pair) | _
    · trivial
    · exact along_rotate_free hT _ _ _
    · trivial
  | _ => exact along_request_free hT id

/-! ## The texts of the store -/

variable {S S' : RunState (workload v)} {a b : Nat} {t u : Thread (workload v)}

/-- A record that is written is the record of an issuance of the request that writes it, and is
written once. -/
theorem saves_origin (hS : S.Reachable) (ht : S.threads[a]? = some t) {o : Observation}
    {older : Trace} (ho : o :: older <:+ t.trace) {key value : String} {ttl : Time.Duration}
    (hq : o.question = .store (.set key value ttl)) :
    ∃ m k, Origin v m t.request older ∧ WroteOther v.issuer m k older ∧
      o.question = .store (m.save v.issuer k) := by
  have hr := hS.reaches ht
  have hall := (hr.along (along_request t.request) (Trace.all_true _)).2
  exact hall.of_suffix ho key value ttl hq

theorem saves_minted (hS : S.Reachable) (ht : S.threads[a]? = some t) {o : Observation}
    {older : Trace} (ho : o :: older <:+ t.trace) {key value : String} {ttl : Time.Duration}
    (hq : o.question = .store (.set key value ttl)) :
    ∃ m k, Minted v.issuer m older ∧ o.question = .store (m.save v.issuer k) := by
  obtain ⟨m, k, hm, -, hs⟩ := saves_origin hS ht ho hq
  exact ⟨m, k, hm.minted, hs⟩

/-- The two sessions of an issuance are different. -/
theorem session_other_ne (hS : S.Reachable) (ht : S.threads[a]? = some t)
    {m : Issuance}
    (hm : Minted v.issuer m t.trace) (k : TokenKind) : m.session k.other ≠ m.session k := by
  intro he
  obtain ⟨-, -, hk⟩ := hm.unique hS ht ht hm he
  cases k <;> cases hk

/-- Every text of the store was kept for an issuance, under the session of one of its tokens. -/
theorem kept_by (hS : S.Reachable) {e : Store.Entry} (he : e ∈ S.world.store.entries) :
    ∃ (a : Nat) (t : Thread (workload v)) (m : Issuance) (k : TokenKind),
      S.threads[a]? = some t ∧ Minted v.issuer m t.trace ∧
      (∃ o ∈ t.trace, o.question = .store (m.save v.issuer k)) ∧
      e.key = storeKey (m.session k) ∧ e.value = recordText (m.bound k) := by
  obtain ⟨a, t, older, o, ttl, ht, ho, hq, -⟩ := hS.written he
  obtain ⟨m, k, hm, hs⟩ := saves_minted hS ht ho hq
  refine ⟨a, t, m, k, ht, hm.extend ((List.suffix_cons _ _).trans ho),
    ⟨o, ho.subset List.mem_cons_self, hs⟩, ?_⟩
  obtain ⟨hkey, hvalue, -⟩ := eq_of_set_eq_save (hq.symm.trans hs)
  exact ⟨hkey, hvalue⟩

theorem attested (hS : S.Reachable) {e : Store.Entry} (he : e ∈ S.world.store.entries) :
    ∃ (a : Nat) (t : Thread (workload v)) (m : Issuance) (k : TokenKind),
      S.threads[a]? = some t ∧ Minted v.issuer m t.trace ∧ e.key = storeKey (m.session k) ∧
        e.value = recordText (m.bound k) := by
  obtain ⟨a, t, m, k, ht, hm, -, hk⟩ := kept_by hS he
  exact ⟨a, t, m, k, ht, hm, hk⟩

/-- A text that a request was answered was in the store at an earlier time of the run. -/
theorem exists_state_of_saw (hS : S.Reachable) (ht : S.threads[a]? = some t) {o : Observation}
    (ho : o ∈ t.trace) {key text : String} (hs : o.Saw (.store (.get key)) (.ok (some text))) :
    ∃ T : RunState (workload v), T.Reachable ∧ Runs T S ∧ T.world.get? key = some text := by
  obtain ⟨newer, older, hnew⟩ := List.append_of_mem ho
  obtain ⟨T, T', hT, hst, hobs, hr⟩ := hS.observed ht ⟨newer, hnew.symm⟩
  refine ⟨T, hT, .head hst hr, ?_⟩
  have htr := hobs.truthful
  have hb := hobs.before
  obtain ⟨w, how, w', rfl⟩ := hs
  rw [hb]
  obtain hx | ⟨⟨e, hx⟩, -⟩ := htr.get
  · exact (Except.ok.inj hx).symm
  · cases hx

/-- A record that a request found was in the store at an earlier time of the run. -/
theorem exists_state_of_found (hS : S.Reachable) (ht : S.threads[a]? = some t) {s : Uuid}
    (h : Found t.trace s) :
    ∃ (T : RunState (workload v)) (text : String), T.Reachable ∧ Runs T S ∧
      T.world.get? (storeKey s) = some text := by
  obtain ⟨o, text, ho, hs⟩ := h
  obtain ⟨T, hT, hr, hg⟩ := exists_state_of_saw hS ht ho hs
  exact ⟨T, text, hT, hr, hg⟩

/-- In a reachable state every identifier that the store knows is in use. -/
theorem covers_of_reachable (hS : S.Reachable) : Covers S.world := by
  intro e he s hs
  obtain ⟨a, t, m, k, ht, hm, hk, hv⟩ := attested hS he
  have drawn : ∀ j, m.session j ∈ S.world.drawn := by
    intro j
    obtain ⟨_, _, _, _, _, -, -, -, hd⟩ := hm.draws j
    exact hS.mem_drawn ht hd
  obtain hs | ⟨r, hr, hp⟩ := hs
  · rw [hk] at hs
    exact storeKey_injective hs ▸ drawn k
  · rw [hv, readRecord?_recordText] at hr
    cases hr
    cases hp
    exact drawn k.other

/-- The text under the session of a token is the record that was made for it, now or at any earlier
time of the run. -/
theorem text_eq (hS : S.Reachable) (hS' : S'.Reachable) (hr : Runs S S')
    (ht : S'.threads[a]? = some t) {m : Issuance} (hm : Minted v.issuer m t.trace)
    {k : TokenKind} {text : String} (hg : S.world.get? (storeKey (m.session k)) = some text) :
    text = recordText (m.bound k) := by
  obtain ⟨e, he, hk, -, rfl⟩ := Store.Memory.exists_of_get? hg
  obtain ⟨b, u, m', k', hu, hm', hk', hv⟩ := attested hS he
  obtain ⟨u', hu', -, hs⟩ := hr.thread hu
  have hid : m.session k = m'.session k' := storeKey_injective (hk.symm.trans hk')
  obtain ⟨-, rfl, rfl⟩ := hm.unique hS' ht hu' (hm'.extend hs) hid
  exact hv

/-- The store knows nothing of the sessions of a request that has not started yet. -/
theorem get?_eq_none_of_later (hS : S.Reachable) (hr : Runs S S') (ht : S'.threads[a]? = some t)
    (ha : S.threads.length ≤ a) {m : Issuance} (hm : Minted v.issuer m t.trace) (k : TokenKind) :
    S.world.get? (storeKey (m.session k)) = none := by
  cases hg : S.world.get? (storeKey (m.session k)) with
  | none => rfl
  | some text =>
    obtain ⟨e, he, hk, -, -⟩ := Store.Memory.exists_of_get? hg
    obtain ⟨b, u, m', k', hu, hm', hk', -⟩ := attested hS he
    obtain ⟨u', hu', -, hs⟩ := hr.thread hu
    have hid : m.session k = m'.session k' := storeKey_injective (hk.symm.trans hk')
    obtain ⟨rfl, -, -⟩ := hm.unique (hS.runs hr) ht hu' (hm'.extend hs) hid
    have hlt := (List.getElem?_eq_some_iff.1 hu).1
    omega

/-- A record is not kept longer than its token lives. -/
theorem deadline_le (hS : S.Reachable) (ht : S.threads[a]? = some t) {m : Issuance}
    (hm : Minted v.issuer m t.trace) {k : TokenKind} {e : Store.Entry}
    (he : e ∈ S.world.store.entries) (hk : e.key = storeKey (m.session k)) :
    e.deadline ≤ S.world.moment + (v.issuer.sessionTtl k).nanos := by
  obtain ⟨b, u, older, o, ttl, hu, ho, hq, hd⟩ := hS.written he
  obtain ⟨m', k', hm', hs⟩ := saves_minted hS hu ho hq
  obtain ⟨hkey, -, rfl⟩ := eq_of_set_eq_save (hq.symm.trans hs)
  have hid : m.session k = m'.session k' := storeKey_injective (hk.symm.trans hkey)
  have hmu := hm'.extend ((List.suffix_cons o older).trans ho)
  obtain ⟨-, -, rfl⟩ := hm.unique hS ht hu hmu hid
  obtain ⟨S₁, S₂, -, hst, hobs, hr⟩ := hS.observed hu ho
  have hle : S₁.world.moment ≤ S.world.moment := Runs.moment_le (.head hst hr)
  rw [hobs.before] at hle
  omega

/-- What an observation found under the session of a token. -/
theorem text_eq_of_observed (hS : S.Reachable) (ht : S.threads[a]? = some t) {m : Issuance}
    (hm : Minted v.issuer m t.trace) (hu : S.threads[b]? = some u) {o : Observation}
    {older : Trace} (ho : o :: older <:+ u.trace) {k : TokenKind} {text : String}
    (hg : o.before.get? (storeKey (m.session k)) = some text) : text = recordText (m.bound k) := by
  obtain ⟨S₁, S₂, hS₁, hst, hobs, hr⟩ := hS.observed hu ho
  rw [← hobs.before] at hg
  exact text_eq hS₁ hS (.head hst hr) ht hm hg

/-! ## Pairs that are handed out -/

/-- Whether a request is over. -/
def Over (t : Thread (workload v)) : Prop := ∀ second, t.rest.offer? second = none

/-- Whether a request has handed out a pair. -/
inductive Returned (pair : TokenPair) : Thread (workload v) → Prop where
  | logIn {email password : String} {tr : Trace} :
      Returned pair ⟨.logIn email password, tr, .done (.ok pair)⟩
  | refresh {token : String} {tr : Trace} : Returned pair ⟨.refresh token, tr, .done (.ok pair)⟩

theorem Returned.over {pair : TokenPair} (h : Returned pair t) : Over t := by
  cases h <;> exact fun _ => rfl

/-- A login that hands out a pair has made the issuance of it. -/
theorem along_logIn_origin (email password : String) :
    (v.logIn email password).Along ⟨fun _ _ => True, fun _ _ => True⟩
      (fun tr out => ∀ pair, out = .finished (.ok pair) →
        ∃ m, Origin v m (.logIn email password) tr ∧ pair = m.pair v.issuer) [] := by
  refine Services.along_logIn_of (fun _ _ _ _ => trivial) trivial (fun _ _ _ => nofun)
    (fun newer older out _ hs _ pair hp => ?_) fun m older h => ?_
  · subst hp
    cases hs
  · refine along_keepPair (fun _ => trivial) (fun _ _ _ _ _ => trivial)
      (fun _ _ _ _ _ _ _ _ => trivial) fun newer out hk _ pair hp => ?_
    subst hp
    cases hk with
    | both => exact ⟨m, .logIn h (List.suffix_append _ _), rfl⟩

/-- A pair that is handed out is the pair of an issuance of the request. -/
theorem Returned.origin {pair : TokenPair} (h : Returned pair t) (hS : S.Reachable)
    (ht : S.threads[a]? = some t) : ∃ m, Origin v m t.request t.trace ∧ pair = m.pair v.issuer := by
  have hr := hS.reaches ht
  cases h with
  | logIn => exact (hr.along (along_logIn_origin _ _) (Trace.all_true _)).1 _ rfl
  | refresh =>
    have hend := (hr.along (v.along_refresh _) (Trace.all_true _)).1
    cases (hend : v.Redeemed _ _ (.finished (.ok pair))) with
    | stopped _ hs => cases hs
    | @rotated c r m gone newer older o hrn hn ho hg =>
      refine ⟨m, .refresh hrn ?_, rfl⟩
      exact (List.suffix_append newer older).trans
        ((List.suffix_cons o _).trans (List.suffix_append gone _))

theorem Returned.minted {pair : TokenPair} (h : Returned pair t) (hS : S.Reachable)
    (ht : S.threads[a]? = some t) :
    ∃ m, Minted v.issuer m t.trace ∧ pair = m.pair v.issuer := by
  obtain ⟨m, ho, hp⟩ := h.origin hS ht
  exact ⟨m, ho.minted, hp⟩

/-- The tokens of a pair that is handed out are the tokens of an issuance of the request. -/
theorem Returned.exists_token {pair : TokenPair} (h : Returned pair t) (hS : S.Reachable)
    (ht : S.threads[a]? = some t) :
    ∃ m, Minted v.issuer m t.trace ∧ ∀ k, pair.token k = m.token v.issuer k := by
  obtain ⟨m, hm, rfl⟩ := h.minted hS ht
  exact ⟨m, hm, fun k => m.pair_token v.issuer k⟩

/-- The state after the login of the small world. -/
def smallState (v : Services) (tr : Trace) (rest : Action TokenPair) : RunState (workload v) :=
  ⟨tr.world smallWorld, [⟨.logIn "ada@example.com" "secret", tr, rest⟩]⟩

theorem smallState_reachable {tr : Trace} {rs : List (Bool × Reaction)} {rest : Action TokenPair}
    (h : smallLogIn v rs = some (tr, rest)) : (smallState v tr rest).Reachable := by
  refine ⟨smallWorld, rfl, ?_⟩
  exact Runs.played (W := workload v) (S := ⟨smallWorld, []⟩)
    (r := .logIn "ada@example.com" "secret") h

end Session

end Gatehouse
