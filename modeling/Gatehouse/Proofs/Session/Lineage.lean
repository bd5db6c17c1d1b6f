import Gatehouse.Proofs.Session.Authority

/-!
# Where a session comes from

In every reachable state a live record belongs to one signed token, is paired with the other token
of its issuance, and descends from a login by a chain of exchanges (`Descends`), each of which
presented a record of the issuance before; and the tokens of a pair that is handed out are signed
tokens of this kind (`live_record_lineage`). That a token is signed is said of the issuer itself
(`Issues`). The invariant that carries the descent is `Traced`: whatever the store holds, and
whatever a request has loaded from it, is a record whose issuance descends from a login.
-/

namespace Gatehouse.Session

open Gatehouse.Action RunState
open Time (Instant)

variable {v : Services} {i : TokenIssuer} {S S' : RunState (workload v)} {a b : Nat}
  {t u : Thread (workload v)} {m root : Issuance} {k : TokenKind} {tr older : Trace} {c c' : Claims}

/-! ## Signed tokens -/

/-- Whether the issuer, asked for a token at some time, signs one with these claims as soon as it
draws their session. -/
def Issues (i : TokenIssuer) (c : Claims) (now : Instant) : Prop :=
  ∀ o : Observation, o.Saw .freshId c.session → ∃ token,
    (i.issue c.kind c.subject now).Reaches [o] (.done (.ok token)) ∧
      token.session = c.session ∧ token.text = i.encode c

/-- The tokens of an issuance are what the issuer hands out for it. -/
theorem Fits.issues (h : Fits i m) (k : TokenKind) : Issues i (m.claims k) m.issuedAt := by
  rintro _ ⟨b, how, a, rfl⟩
  have hissue : i.issue k m.record.subject m.issuedAt = .ask .freshId fun s => .done (.ok
      ⟨s, i.encode ⟨m.record.subject, s, k, m.issuedAt.seconds, (m.expiresAt k).seconds⟩,
        m.issuedAt, m.expiresAt k⟩) := by
    rw [TokenIssuer.issue, if_neg (Nat.not_lt.2 (h.lifetime k)), h.expiry k]
    rfl
  refine ⟨m.token i k, ?_, rfl, rfl⟩
  show (i.issue k m.record.subject m.issuedAt).Reaches _ _
  rw [hissue]
  exact .step_ask (q := .freshId) .start b how (m.session k) a

/-- Whether the token that is signed with the session drawn next has these claims. An access token
is signed right after the roles of its user were resolved and the clock was read, the refresh token
of the pair right after that. -/
inductive Signs (i : TokenIssuer) : Claims → Trace → Prop where
  | access {s subject : Uuid} {d o : Observation} {older : Trace} {roles : List RoleRef}
      {now e : Instant} (hd : d.Saw (.directory (.rolesOf subject)) (.ok roles))
      (ho : o.Saw .now now) (he : now.addSeconds? (i.ttl .access) = some e)
      (hi : Issues i ⟨subject, s, .access, now.seconds, e.seconds⟩ now) :
      Signs i ⟨subject, s, .access, now.seconds, e.seconds⟩ (o :: d :: older)
  | refresh {s subject : Uuid} {d o x : Observation} {older : Trace} {roles : List RoleRef}
      {now e : Instant} (hd : d.Saw (.directory (.rolesOf subject)) (.ok roles))
      (ho : o.Saw .now now) (hx : x.question = .freshId)
      (he : now.addSeconds? (i.ttl .refresh) = some e)
      (hi : Issues i ⟨subject, s, .refresh, now.seconds, e.seconds⟩ now) :
      Signs i ⟨subject, s, .refresh, now.seconds, e.seconds⟩ (x :: o :: d :: older)

/-- Whether a trace signed a token with these claims. -/
def Signed (i : TokenIssuer) (c : Claims) (tr : Trace) : Prop :=
  ∃ older, tr.Draws c.session older ∧ Signs i c older

/-- One draw signs one token. -/
theorem Signs.unique (h : Signs i c tr) (h' : Signs i c' tr) (hs : c.session = c'.session) :
    c = c' := by
  have subject_eq : ∀ {d : Observation} {u u' : Uuid} {roles roles' : List RoleRef},
      d.Saw (.directory (.rolesOf u)) (.ok roles) → d.Saw (.directory (.rolesOf u')) (.ok roles') →
        u = u' := by
    intro d u u' roles roles' hd hd'
    simpa using hd.question.symm.trans hd'.question
  cases h with
  | access hd ho he _ =>
    cases h' with
    | access hd' ho' he' _ =>
      cases subject_eq hd hd'
      cases ho.unique ho'
      cases he.symm.trans he'
      cases hs
      rfl
    | refresh hd' ho' hx' he' _ => cases ho.question.symm.trans hx'
  | refresh hd ho hx he _ =>
    cases h' with
    | access hd' ho' he' _ => cases ho'.question.symm.trans hx
    | refresh hd' ho' hx' he' _ =>
      cases subject_eq hd hd'
      cases ho.unique ho'
      cases he.symm.trans he'
      cases hs
      rfl

theorem Minted.signed (h : Minted i m tr) (k : TokenKind) : Signed i (m.claims k) tr := by
  obtain ⟨o₁, o₂, o₃, o, older, -, hd, hr, hdr⟩ := h.draws k
  obtain ⟨_, _, _, he, h₁, h₂, -⟩ := hd
  cases he
  refine ⟨_, hdr, ?_⟩
  cases k with
  | access => exact .access hr.roles h₁ (h.fits.expiry .access) (h.fits.issues .access)
  | refresh =>
    exact .refresh hr.roles h₁ h₂.question (h.fits.expiry .refresh) (h.fits.issues .refresh)

/-- Whether a request signed a token, and no other token of the run has its session. -/
structure SoleToken (S : RunState (workload v)) (a : Nat) (c : Claims) : Prop where
  signed : ∃ t, S.threads[a]? = some t ∧ Signed v.issuer c t.trace
  drawn : ∀ b u older, S.threads[b]? = some u → u.trace.Draws c.session older →
    b = a ∧ Signs v.issuer c older
  only : ∀ b u c', S.threads[b]? = some u → Signed v.issuer c' u.trace → c'.session = c.session →
    b = a ∧ c' = c

theorem soleToken_of_signed (hS : S.Reachable) (ht : S.threads[a]? = some t)
    (h : Signed v.issuer c t.trace) : SoleToken S a c := by
  obtain ⟨older, hd, hs⟩ := id h
  refine ⟨⟨t, ht, h⟩, fun b u older' hu hd' => ?_, fun b u c' hu h' hc => ?_⟩
  · obtain ⟨rfl, rfl⟩ := hS.drew_unique ht hu hd hd'
    exact ⟨rfl, hs⟩
  · obtain ⟨older', hd', hs'⟩ := h'
    rw [hc] at hd'
    obtain ⟨rfl, rfl⟩ := hS.drew_unique ht hu hd hd'
    exact ⟨rfl, hs'.unique hs hc⟩

/-! ## Descent -/

/-- Whether an issuance goes back to a login, the root: it was made by that login, or by an exchange
that presented a record of an issuance that does. -/
inductive Descends (S : RunState (workload v)) : Issuance → Issuance → Prop where
  | logIn {a : Nat} {t : Thread (workload v)} {email password : String} {m : Issuance}
      {older : Trace} (ht : S.threads[a]? = some t) (hr : t.request = .logIn email password)
      (h : v.LogsIn email password m older) (hs : older <:+ t.trace) : Descends S m m
  | refresh {a : Nat} {t : Thread (workload v)} {token : String} {c : Claims} {r : SessionRecord}
      {m parent root : Issuance} {k : TokenKind} {older : Trace} (ht : S.threads[a]? = some t)
      (hr : t.request = .refresh token) (h : v.Renews token c r m older) (hs : older <:+ t.trace)
      (hc : c.session = parent.session k) (hp : r = parent.bound k)
      (hroot : Descends S parent root) : Descends S m root

theorem Descends.mono (h : Descends S m root) (hr : Runs S S') : Descends S' m root := by
  induction h with
  | logIn ht hq h hs =>
    obtain ⟨t', ht', hq', hs'⟩ := hr.thread ht
    exact .logIn ht' (hq'.trans hq) h (hs.trans hs')
  | refresh ht hq h hs hc hp _ ih =>
    obtain ⟨t', ht', hq', hs'⟩ := hr.thread ht
    exact .refresh ht' (hq'.trans hq) h (hs.trans hs') hc hp ih

/-- User and attributes are those of the login at the root. -/
theorem Descends.record_eq (h : Descends S m root) :
    m.record.subject = root.record.subject ∧ m.record.extra = root.record.extra := by
  induction h with
  | logIn => exact ⟨rfl, rfl⟩
  | refresh _ _ h _ _ hp _ ih =>
    subst hp
    exact ⟨h.subject.trans ih.1, h.extra.trans ih.2⟩

/-- The root is the issuance of a login. -/
theorem Descends.logsIn (h : Descends S m root) :
    ∃ (a : Nat) (t : Thread (workload v)) (email password : String) (older : Trace),
      S.threads[a]? = some t ∧ t.request = .logIn email password ∧
      v.LogsIn email password root older ∧ older <:+ t.trace := by
  induction h with
  | logIn ht hq h hs => exact ⟨_, _, _, _, _, ht, hq, h, hs⟩
  | refresh _ _ _ _ _ _ _ ih => exact ih

/-! ## The invariant -/

/-- Whether a text under a key is a record of an issuance that goes back to a login. -/
def Rooted (S : RunState (workload v)) (key text : String) : Prop :=
  ∃ (a : Nat) (t : Thread (workload v)) (m root : Issuance) (k : TokenKind),
    S.threads[a]? = some t ∧ Minted v.issuer m t.trace ∧ Descends S m root ∧
      key = storeKey (m.session k) ∧ text = recordText (m.bound k)

/-- Whether all that the store holds, and all that was loaded from it, goes back to logins. -/
structure Traced (S : RunState (workload v)) : Prop where
  kept : ∀ e ∈ S.world.store.entries, Rooted S e.key e.value
  loaded : ∀ (a : Nat) (t : Thread (workload v)) (o : Observation) (older : Trace),
    S.threads[a]? = some t → o :: older <:+ t.trace → ∀ key text,
      o.Saw (.store (.get key)) (.ok (some text)) → Rooted S key text

theorem Rooted.mono {key text : String} (h : Rooted S key text) (hr : Runs S S') :
    Rooted S' key text := by
  obtain ⟨a, t, m, root, k, ht, hm, hd, hk, hv⟩ := h
  obtain ⟨t', ht', -, hs⟩ := hr.thread ht
  exact ⟨a, t', m, root, k, ht', hm.extend hs, hd.mono hr, hk, hv⟩

/-- Where the records that a request loads go back to logins, its issuance does. -/
theorem Traced.descends (h : Traced S) (ht : S.threads[a]? = some t)
    (ho : Origin v m t.request t.trace) : ∃ root, Descends S m root := by
  obtain ⟨r, tr, rest⟩ := t
  cases ho with
  | logIn h hs => exact ⟨m, .logIn ht rfl h hs⟩
  | refresh hn hs =>
    obtain ⟨o, text, ho, hsaw, hr⟩ := hn.presented.loaded
    obtain ⟨newer, older, rfl⟩ := List.append_of_mem ho
    have hsuf : o :: older <:+ tr := (List.suffix_append newer _).trans hs
    obtain ⟨_, _, parent, root, k, -, -, hroot, hk, hv⟩ := h.loaded _ _ o older ht hsuf _ _ hsaw
    rw [hv, readRecord?_recordText] at hr
    exact ⟨root, .refresh ht rfl hn hs (storeKey_injective hk) (Option.some.inj hr).symm hroot⟩

theorem Traced.step (h : Traced S) (hS : S.Reachable) (hstep : Step S S') : Traced S' := by
  have hr : Runs S S' := .single hstep
  have hS' := hS.runs hr
  have loaded : ∀ (a : Nat) (t : Thread (workload v)) (o : Observation) (older : Trace),
      S'.threads[a]? = some t → o :: older <:+ t.trace → ∀ key text,
        o.Saw (.store (.get key)) (.ok (some text)) → Rooted S' key text := by
    intro a t o older ht hs key text hsaw
    obtain ⟨t₀, ht₀, hs₀⟩ | hobs := hstep.observed ht hs
    · exact (h.loaded a t₀ o older ht₀ hs₀ key text hsaw).mono hr
    · have htr := hobs.truthful
      have hb := hobs.before
      obtain ⟨w, how, w', rfl⟩ := hsaw
      obtain hx | ⟨⟨e, hx⟩, -⟩ := htr.get
      · obtain ⟨e, he, rfl, -, rfl⟩ := Store.Memory.exists_of_get? (Except.ok.inj hx).symm
        exact (h.kept e (hb ▸ he)).mono hr
      · cases hx
  refine ⟨fun e he => ?_, loaded⟩
  obtain he | ⟨a, older, o, ttl, hobs, hq, -⟩ := hstep.written he
  · exact (h.kept e he).mono hr
  -- the records that the writing request loaded were loaded before
  obtain ⟨r, rest, second, next, ht, -, ht'⟩ := hobs.thread
  obtain ⟨m, k, ho, -, hs⟩ := saves_origin hS' ht' (List.suffix_refl _) hq
  obtain ⟨hkey, hvalue, -⟩ := eq_of_set_eq_save (hq.symm.trans hs)
  obtain ⟨root, hroot⟩ := h.descends ht ho
  have hm := ho.minted.extend (List.suffix_cons o older)
  exact ⟨a, _, m, root, k, ht', hm, hroot.mono hr, hkey, hvalue⟩

theorem traced_of_reachable (hS : S.Reachable) : Traced S := by
  obtain ⟨w, hw, hr⟩ := hS
  induction hr with
  | refl =>
    refine ⟨fun e he => ?_, fun a t o older ht => ?_⟩
    · rw [show w.store.entries = [] by rw [hw]; rfl] at he
      cases he
    · simp at ht
  | tail hr hs ih => exact ih.step ⟨w, hw, hr⟩ hs

/-! ## Live records -/

/-- What is known of a live record: its token, its pair, and where it comes from. -/
structure Lineage (S : RunState (workload v)) (s : Uuid) (r : SessionRecord) (a : Nat)
    (m root : Issuance) (k : TokenKind) : Prop where
  minted : ∃ t, S.threads[a]? = some t ∧ Minted v.issuer m t.trace
  session : (m.claims k).session = s
  subject : (m.claims k).subject = r.subject
  token : SoleToken S a (m.claims k)
  other : SoleToken S a (m.claims k.other)
  /-- A token that is handed out with this session is this token. -/
  handedOut : ∀ (b : Nat) (t : Thread (workload v)) (pair : TokenPair) (j : TokenKind),
    S.threads[b]? = some t → Returned pair t → (pair.token j).session = s →
      b = a ∧ j = k ∧ (pair.token j).text = v.issuer.encode (m.claims k)
  paired : r.pairedWith = some (m.claims k.other).session
  apart : (m.claims k.other).session ≠ s
  back : ∀ text, S.world.get? (storeKey (m.claims k.other).session) = some text →
    ∃ r', readRecord? text = some r' ∧ r'.pairedWith = some s ∧ r'.subject = r.subject ∧
      r'.roles = r.roles ∧ r'.extra = r.extra
  resolved : ∃ t newer o older, S.threads[a]? = some t ∧ newer ++ o :: older <:+ t.trace ∧
    Drawn m newer ∧ o.Saw (.directory (.rolesOf r.subject)) (.ok r.roles)
  descends : Descends S m root
  root_subject : r.subject = root.record.subject
  root_extra : r.extra = root.record.extra

/-- What is known of a token that is handed out: it is the one signed token of its session, its text
says exactly its claims, and the record under its session, if there is one, is of its user. -/
structure Handed (S : RunState (workload v)) (a : Nat) (token : IssuedToken) (m : Issuance)
    (k : TokenKind) : Prop where
  text : token.text = v.issuer.encode (m.claims k)
  session : (m.claims k).session = token.session
  kind : (m.claims k).kind = k
  sole : SoleToken S a (m.claims k)
  accepted : ∀ now c, v.verifier.verify k now token.text = .ok c → c = m.claims k
  record : ∀ text, S.world.get? (storeKey token.session) = some text →
    ∃ r, readRecord? text = some r ∧ r.subject = (m.claims k).subject

theorem handed_of_minted {settings : Settings.AuthSettings} (hv : v.Configured settings)
    (hS : S.Reachable) (ht : S.threads[a]? = some t) (hm : Minted v.issuer m t.trace)
    (k : TokenKind) : Handed S a (m.token v.issuer k) m k where
  text := rfl
  session := rfl
  kind := rfl
  sole := soleToken_of_signed hS ht (hm.signed k)
  accepted _ _ h := claims_of_verify (hv.key_eq k) hm.fits h
  record text hg := by
    have htext : text = recordText (m.bound k) := text_eq hS hS .refl ht hm hg
    exact ⟨m.bound k, by rw [htext, readRecord?_recordText], rfl⟩

/-- Every live record has one signed token of its user; it is paired with the other token of the
same issuance, whose record, if it is live, points back and agrees with it; its roles are those that
were resolved for the issuance; and its user and attributes are those of the login that the issuance
goes back to. The tokens of a pair that is handed out are the two signed tokens of an issuance of
the request, each with its own session. -/
theorem live_record_lineage {settings : Settings.AuthSettings} (hv : v.Configured settings)
    (hS : S.Reachable) :
    (∀ s text, S.world.get? (storeKey s) = some text →
      ∃ r a m root k, readRecord? text = some r ∧ Lineage S s r a m root k) ∧
    (∀ (a : Nat) (t : Thread (workload v)) (pair : TokenPair), S.threads[a]? = some t →
      Returned pair t → ∃ m, Minted v.issuer m t.trace ∧
        ∀ k, Handed S a (pair.token k) m k) := by
  refine ⟨fun s text hg => ?_, fun a t pair ht hp => ?_⟩
  · obtain ⟨e, he, hk, -, rfl⟩ := Store.Memory.exists_of_get? hg
    obtain ⟨a, t, m, root, k, ht, hm, hd, hkey, hval⟩ := (traced_of_reachable hS).kept e he
    obtain rfl : s = m.session k := storeKey_injective (hk.symm.trans hkey)
    obtain ⟨newer, o, older, hs, hdrawn, hres⟩ := hm.observed
    have sole : ∀ j, SoleToken S a (m.claims j) :=
      fun j => soleToken_of_signed hS ht (hm.signed j)
    refine ⟨m.bound k, a, m, root, k, by rw [hval, readRecord?_recordText], ?_⟩
    refine ⟨⟨t, ht, hm⟩, rfl, rfl, sole k, sole k.other,
      fun b u pair j hu hp hsession => ?_, rfl, session_other_ne hS ht hm k, fun text hg' => ?_,
      ⟨t, newer, o, older, ht, hs, hdrawn, hres.roles⟩, hd, hd.record_eq.1, hd.record_eq.2⟩
    · obtain ⟨m', hm', rfl⟩ := hp.minted hS hu
      rw [Issuance.pair_token] at hsession ⊢
      obtain ⟨rfl, rfl, rfl⟩ := hm'.unique hS hu ht hm hsession
      exact ⟨rfl, rfl, rfl⟩
    · have htext : text = recordText (m.bound k.other) := text_eq hS hS .refl ht hm hg'
      refine ⟨m.bound k.other, by rw [htext, readRecord?_recordText], ?_, rfl, rfl, rfl⟩
      show some (m.session k.other.other) = _
      rw [TokenKind.other_other]
  · obtain ⟨m, hm, rfl⟩ := hp.minted hS ht
    refine ⟨m, hm, fun k => ?_⟩
    rw [Issuance.pair_token]
    exact handed_of_minted hv hS ht hm k

/-- The state after the login of the small world, when its user was set to be active or not. -/
def smallStateAfter (tr : Trace) (pair : TokenPair) (active : Bool) :
    RunState (workload smallServices) :=
  let S := smallState smallServices tr (.done (.ok pair))
  { S with world := { S.world with
      directory := S.world.directory.edit (.setActive (.ofNat 1) active) } }

/-- The refresh token of that login can be exchanged, whether or not the user is active. -/
theorem exists_small_exchange (active : Bool) : ∃ tr₁ pair tr₂ pair' text,
    (smallStateAfter tr₁ pair active).Reachable ∧
    play (smallStateAfter tr₁ pair active).world smallRenewal
      ([], smallServices.refresh (pair.token .refresh).text) = some (tr₂, .done (.ok pair')) ∧
    (∀ o ∈ tr₂, o.before.directory.users.map User.active = [active]) ∧
    (tr₂.world (smallStateAfter tr₁ pair active).world).get?
      (storeKey (pair'.token .refresh).session) = some text := by
  -- only the verification of the token is not left to evaluation
  obtain ⟨tr₁, pair, tr₂, pair', text, r, w, h₁, hw, hg, he, h₂, hd, h₃⟩ :
      ∃ tr₁ pair tr₂ pair' text r w,
      smallLogIn smallServices (smallReactions .works .works) = some (tr₁, .done (.ok pair)) ∧
      (smallStateAfter tr₁ pair active).world = w ∧
      w.get? (storeKey (pair.token .refresh).session) = some (recordText r) ∧
      (pair.token .refresh).expiresAt = ⟨1600, 0⟩ ∧
      play w (smallRenewal.drop 2)
        ([⟨{ w with clock := ⟨1010, 0⟩ }, .store (.get (storeKey (pair.token .refresh).session)),
          .works, .ok (some (recordText r)), { w with clock := ⟨1010, 0⟩ }⟩,
          ⟨w, .now, .shows ⟨1010, 0⟩, ⟨1010, 0⟩, { w with clock := ⟨1010, 0⟩ }⟩],
          smallServices.renew (pair.token .refresh).session r) = some (tr₂, .done (.ok pair')) ∧
      (tr₂.map fun o => o.before.directory.users.map User.active) = List.replicate 10 [active] ∧
      (tr₂.world w).get? (storeKey (pair'.token .refresh).session) = some text := by
    cases active <;> exact ⟨_, _, _, _, _,
      (SessionRecord.fresh (.ofNat 1) [⟨.ofNat 2, "Admin"⟩]).bind (.ofNat 4), _,
      rfl, rfl, rfl, rfl, rfl, rfl, rfl⟩
  have hS := smallState_reachable h₁
  obtain ⟨m, hm, rfl⟩ := Returned.logIn.minted hS (a := 0) rfl
  rw [Issuance.pair_token] at hg he h₂
  have ht : Timely smallServices.verifier.leeway (m.expiresAt .refresh) ⟨1010, 0⟩ := by
    rw [show m.expiresAt .refresh = ⟨1600, 0⟩ from he]
    exact ⟨by decide, by decide⟩
  have hv := verify_of_timely (v := smallServices) (k := .refresh) rfl hm.fits ht
  refine ⟨tr₁, _, tr₂, pair', text, hS.runs (.single (.edit _ _)), ?_, fun o ho => ?_, ?_⟩
  · rw [hw, Issuance.pair_token, ← h₂]
    exact play_refresh hv hg (smallRenewal.drop 2)
  · refine List.eq_of_mem_replicate (n := 10) ?_
    rw [← hd]
    exact List.mem_map_of_mem ho
  · rw [hw, h₃]

/-- A record that an exchange has kept goes back to the login before it, and the token that is
handed out with its session is the one that was signed for it. -/
theorem small_exchange_lineage :
    ∃ (S : RunState (workload smallServices)) (t : Thread (workload smallServices))
      (pair : TokenPair) (text : String) (r : SessionRecord) (m root : Issuance),
      S.Reachable ∧ S.threads[1]? = some t ∧ Returned pair t ∧
      S.world.get? (storeKey (pair.token .refresh).session) = some text ∧
      readRecord? text = some r ∧ Lineage S (pair.token .refresh).session r 1 m root .refresh ∧
      root ≠ m ∧ (∀ k, Handed S 1 (pair.token k) m k) ∧
      (pair.token .refresh).text = smallServices.issuer.encode (m.claims .refresh) ∧
      (m.claims .refresh).subject = r.subject := by
  obtain ⟨tr₁, pair, tr₂, pair', text, hS₁, h, -, hg⟩ := exists_small_exchange true
  let S₁ := smallStateAfter tr₁ pair true
  let S : RunState (workload smallServices) := ⟨tr₂.world S₁.world,
    S₁.threads ++ [⟨.refresh (pair.token .refresh).text, tr₂, .done (.ok pair')⟩]⟩
  have hS : S.Reachable := hS₁.runs (Runs.played (W := workload smallServices) (S := S₁)
    (r := .refresh (pair.token .refresh).text) h)
  obtain ⟨hlive, hreturned⟩ := live_record_lineage smallServices_configured hS
  obtain ⟨r, a, m, root, k, hr, hl⟩ := hlive _ _ hg
  -- the pair was made by the exchange, the root by the login
  obtain ⟨rfl, rfl, htext⟩ := hl.handedOut 1 _ pair' .refresh rfl .refresh rfl
  obtain ⟨m', hm', hhanded⟩ := hreturned 1 _ pair' rfl .refresh
  obtain ⟨t, ht, hm⟩ := hl.minted
  have hsession : m'.session .refresh = m.session .refresh :=
    (hhanded .refresh).session.trans hl.session.symm
  obtain ⟨-, rfl, -⟩ := hm'.unique hS (a := 1) rfl ht hm hsession
  refine ⟨S, _, pair', text, r, m', root, hS, rfl, .refresh, hg, hr, hl, ?_, hhanded, htext,
    hl.subject⟩
  rintro rfl
  obtain ⟨b, t, email, password, older, ht, hq, hlog, hsuf⟩ := hl.descends.logsIn
  obtain ⟨rfl, -⟩ := hl.token.only b t _ ht ((hlog.minted.extend hsuf).signed .refresh) rfl
  cases ht
  cases hq

end Gatehouse.Session
