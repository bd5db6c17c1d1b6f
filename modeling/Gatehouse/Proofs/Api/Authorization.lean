import Gatehouse.Proofs.Api.BearerToken
import Gatehouse.Proofs.Api.Refusal
import Gatehouse.Proofs.Session.Authority

/-!
# Only authorized requests change sessions

`Entitled` says, of the world that a request met, what makes it one that may change sessions, and
which. `only_authorized_requests_change_sessions`: a request that runs alone leaves all sessions as
they were, or is entitled to the ones that it changed; and a request to end a session that is
answered 401 or 403 changes nothing, and its answer does not depend on which session it names. The
second half is about stores that fail on this side of the wire, as the stores of the program do
(`StoreFailsInside`).
-/

namespace Gatehouse.Api

open Gatehouse.Action Http
open Session (storeKey loaded readRecord? recordText smallWorld smallServices smallLogIn
  smallReactions)

variable {tr older : Trace} {app : App} {r : Request} {w : World}

/-- The live record of a session in a world. -/
def recordIn (w : World) (s : Uuid) : Option SessionRecord :=
  w.get? (storeKey s) >>= readRecord?

/-- Whether an identifier is new to a world and was drawn after it. -/
def Fresh (w : World) (tr : Trace) (s : Uuid) : Prop :=
  s ∉ w.drawn ∧ ∃ o ∈ tr, o.Saw .freshId s

/-- Whether a token was accepted at a time that the clock showed. -/
def Accepts (v : Services) (k : TokenKind) (token : String) (c : Claims) (tr : Trace) : Prop :=
  ∃ o t, o ∈ tr ∧ o.Saw .now t ∧ v.verifier.decode k t token = .ok c

/-- Which sessions a request may change in a world, and what makes it do so. -/
inductive Entitled (app : App) (r : Request) (w : World) (tr : Trace) : List Uuid → Prop where
  /-- A login of an active user with the right password may keep two new sessions. -/
  | login {q : LoginRequest} {user : User} {access refresh : Uuid} (method : r.method = "POST")
      (route : Route.ofPath? r.path = some .login) (body : LoginRequest.ofRequest r = .ok q)
      (rules : q.faults = []) (found : w.directory.byEmail q.email = some user)
      (active : user.canLogIn = true)
      (password : app.services.checkPassword q.password user = .ok true)
      (fresh : ∀ s ∈ [access, refresh], Fresh w tr s) : Entitled app r w tr [access, refresh]
  /-- An accepted refresh token with a live record may keep two new sessions, and change its own and
  the one that its record names. -/
  | refresh {q : RefreshRequest} {c : Claims} {old : SessionRecord} {access refresh : Uuid}
      (method : r.method = "POST") (route : Route.ofPath? r.path = some .refresh)
      (body : RefreshRequest.ofRequest r = .ok q) (rules : q.faults = [])
      (token : Accepts app.services .refresh q.token c tr) (live : recordIn w c.session = some old)
      (fresh : ∀ s ∈ [access, refresh], Fresh w tr s) :
      Entitled app r w tr (pairOf c.session (some old) ++ [access, refresh])
  /-- An accepted access token whose session is there may change this session, and the one that its
  record names. -/
  | logout {token : String} {c : Claims} (method : r.method = "DELETE")
      (route : Route.ofPath? r.path = some .logout) (bearer : bearerToken r = .ok token)
      (accepted : Accepts app.services .access token c tr)
      (live : (w.get? (storeKey c.session)).isSome = true) :
      Entitled app r w tr (pairOf c.session (recordIn w c.session))
  /-- A caller that is authorized to may change the session named, and the one that its record
  names. -/
  | session {name : List Char} {s : Uuid} {token : String} {p : Principal} {older : Trace}
      (method : r.method = "DELETE") (route : Route.ofPath? r.path = some (.session name))
      (named : sessionOfName? name = some s) (bearer : bearerToken r = .ok token)
      (before : older <:+ tr)
      (authorized : (app.services.authorize token Catalog.revokeSession).Reaches older
        (.done (.ok p))) : Entitled app r w tr (pairOf s (recordIn w s))

/-! ## From what was observed to what was there -/

theorem fresh_of_minted {i : TokenIssuer} {m : Session.Issuance} (h : Session.Minted i m older)
    (hs : older <:+ tr) (ha : tr.Alone w) :
    ∀ s ∈ [m.session .access, m.session .refresh], Fresh w tr s := by
  have drawn : ∀ k, Fresh w tr (m.session k) := by
    intro k
    obtain ⟨o₁, o₂, o₃, o, rest, -, -, -, ⟨x, hx, hsuf⟩⟩ := h.draws k
    have hsuf' := hsuf.trans hs
    exact ⟨ha.not_mem_drawn ⟨x, hx, hsuf'⟩, x, hsuf'.subset List.mem_cons_self, hx⟩
  intro s hm
  simp only [List.mem_cons, List.not_mem_nil, or_false] at hm
  rcases hm with rfl | rfl
  · exact drawn .access
  · exact drawn .refresh

/-- What a trace of mere questions loaded of a session is what was there. -/
theorem eq_recordIn {s : Uuid} {found : Option SessionRecord} (ha : older.Alone w)
    (hw : older.Writeless) (h : Loads s found older) : found = recordIn w s := by
  obtain ⟨o, x, ho, hs, hx⟩ := h
  have htrue := ha.truthful o ho
  have hbefore : o.before.get? (storeKey s) = w.get? (storeKey s) := ha.get?_eq hw ho
  obtain ⟨b, how, a, rfl⟩ := hs
  obtain rfl | ⟨⟨e, rfl⟩, -⟩ := htrue.get
  · dsimp only at hbefore
    rw [hbefore] at hx
    rw [recordIn]
    cases hg : w.get? (storeKey s) with
    | none =>
      rw [hg] at hx
      cases hx
      rfl
    | some text =>
      rw [hg] at hx
      cases hr : readRecord? text with
      | none => simp [loaded, hr] at hx
      | some record =>
        simp only [loaded, hr, Except.ok.injEq] at hx
        rw [← hx]
        exact hr.symm
  · cases hx

theorem accepts_of_verify {v : Services} {k : TokenKind} {token : String} {c : Claims}
    (h : ∃ o t, o ∈ older ∧ o.Saw .now t ∧ v.verifier.verify k t token = .ok c)
    (hs : older <:+ tr) : Accepts v k token c tr := by
  obtain ⟨o, t, ho, hsaw, hv⟩ := h
  exact ⟨o, t, hs.subset ho, hsaw, TokenVerifier.decode_eq_ok_iff.2 hv⟩

/-- A request that was permitted to change sessions was entitled to. -/
theorem Permits.entitled {keys : List String} (h : Permits app r older keys)
    (hw : older.Writeless) (he : ∀ o ∈ older, ¬o.question.Edits) (hs : older <:+ tr)
    (ha : tr.Alone w) : ∃ sessions, keys = keysOf sessions ∧ Entitled app r w tr sessions := by
  obtain ⟨newer, rfl⟩ := hs
  have hold := ha.of_append
  have hs := List.suffix_append newer older
  cases h with
  | login method route body rules h =>
    obtain ⟨o, user, ho, hsaw, hactive, hpw, -⟩ := h.found
    refine ⟨_, rfl, .login method route body rules ?_ hactive hpw (fresh_of_minted h.minted hs ha)⟩
    have htrue := hold.truthful o ho
    have hdir := hold.before_directory_eq he ho
    obtain ⟨b, how, a, rfl⟩ := hsaw
    obtain ⟨id, hx⟩ := htrue.directory_ok
    rw [← hdir]
    exact Except.ok.inj (congrArg Prod.fst hx)
  | @refresh q c old m _ method route body rules h =>
    obtain ⟨o, text, ho, hsaw, hr⟩ := h.presented.loaded
    have hl : Loads c.session (some old) older :=
      ⟨o, _, ho, hsaw, by simp only [loaded, hr]⟩
    exact ⟨_, rfl, .refresh method route body rules (accepts_of_verify h.presented.verified hs)
      (eq_recordIn hold hw hl).symm (fresh_of_minted h.minted hs ha)⟩
  | @logout c found _ method route caller h =>
    obtain ⟨⟨token, o, t, hb, ho, hsaw, hv⟩, ⟨o', ho', hsaw'⟩⟩ := caller
    rw [eq_recordIn hold hw h]
    refine ⟨_, rfl, .logout method route hb (accepts_of_verify ⟨o, t, ho, hsaw, hv⟩ hs) ?_⟩
    have htrue := hold.truthful o' ho'
    have hbefore : o'.before.get? (storeKey c.session) = w.get? (storeKey c.session) :=
      hold.get?_eq hw ho'
    obtain ⟨b, how, a, rfl⟩ := hsaw'
    obtain hx | ⟨⟨e, hx⟩, -⟩ := htrue.isPresent
    · rw [← hbefore]
      exact (Except.ok.inj hx).symm
    · cases hx
  | @session name s token p found before _ method route named bearer hb authorized h =>
    rw [eq_recordIn hold hw h]
    exact ⟨_, rfl, .session method route named bearer (hb.trans hs) authorized⟩

/-! ## Requests to log in -/

theorem reaches_respond {α : Type} {a b : Action α} (h : a.Reaches tr b) (json : α → Json) :
    (App.respond a json).Reaches tr (App.respond b json) :=
  h.change (F := fun a => App.respond a json) (fun _ _ => rfl) fun _ _ _ => rfl

/-- Whether a request is a well-formed one to log in. -/
structure LogsIn (r : Request) (q : LoginRequest) : Prop where
  method : r.method = "POST"
  route : Route.ofPath? r.path = some .login
  body : LoginRequest.ofRequest r = .ok q
  rules : q.faults = []

/-- A request to log in is answered with what the login comes to. -/
theorem handle_of_logsIn {q : LoginRequest} (h : LogsIn r q) :
    app.handle r = App.respond (app.services.logIn q.email q.password) pairJson := by
  have hanswer : app.answer r = App.respond (app.services.logIn q.email q.password) pairJson := by
    rw [App.answer, h.route]
    show app.serveMethod r .login = _
    rw [serveMethod_of_method h.method]
    show app.logIn r = _
    rw [App.logIn, h.body, App.withBody, h.rules]
    rfl
  rw [App.handle, hanswer]
  simp only [h.method, String.reduceEq, if_false]
  exact bind_pure _

/-! ## Requests to a small service -/

/-- The small service, without a database. -/
def smallApp : App := ⟨smallServices, false⟩

/-- A request of the user of the small world to log in. -/
def smallLogInRequest : Request :=
  ⟨"POST", "/api/v1/auth/login", [("Content-Type", "application/json")],
    "\x7b\"email\":\"ada@example.com\",\"password\":\"secret\"\x7d"⟩

theorem logsIn_smallLogInRequest : LogsIn smallLogInRequest ⟨"ada@example.com", "secret"⟩ := by
  have hroute : Route.ofPath? smallLogInRequest.path = some .login := by decide +kernel
  have hrules : (⟨"ada@example.com", "secret"⟩ : LoginRequest).faults = [] := by decide +kernel
  have h : (LoginRequest.ofRequest smallLogInRequest).toOption =
      some ⟨"ada@example.com", "secret"⟩ := by decide +kernel
  refine ⟨rfl, hroute, ?_, hrules⟩
  cases hq : LoginRequest.ofRequest smallLogInRequest with
  | error fault =>
    rw [hq] at h
    cases h
  | ok q =>
    rw [hq] at h
    exact congrArg Except.ok (Option.some.inj h)

/-- The user of the small world logs in, which keeps a session. -/
theorem exists_small_logIn :
    ∃ tr b, (smallApp.handle smallLogInRequest).Reaches tr b ∧ tr.Alone smallWorld ∧
      (tr.live? smallWorld (storeKey (.ofNat 4))).isSome = true := by
  obtain ⟨tr, pair, h, hlive⟩ : ∃ tr pair,
      smallLogIn smallServices (smallReactions .works .works) = some (tr, .done (.ok pair)) ∧
        (tr.live? smallWorld (storeKey (.ofNat 4))).isSome = true := ⟨_, _, rfl, rfl⟩
  obtain ⟨hlogin, ha⟩ := reaches_of_play h .start trivial
  refine ⟨tr, App.respond (.done (.ok pair)) pairJson, ?_, ha, hlive⟩
  rw [handle_of_logsIn logsIn_smallLogInRequest]
  exact reaches_respond hlogin pairJson

/-- The record of a session of the user of the small world. -/
def smallRecord : SessionRecord :=
  (SessionRecord.fresh (.ofNat 1) [⟨.ofNat 2, "Admin"⟩]).bind (.ofNat 5)

/-- The small world with this session. -/
def smallOpenWorld : World :=
  { smallWorld with store := ⟨[⟨storeKey (.ofNat 4), recordText smallRecord, 1⟩]⟩ }

theorem get?_smallOpenWorld :
    smallOpenWorld.get? (storeKey (.ofNat 4)) = some (recordText smallRecord) := by
  simp [smallOpenWorld, smallWorld, World.get?, Store.Memory.get?]

/-- A request to end this session, with given header fields. -/
def smallEndRequest (headers : List (String × String)) : Request :=
  ⟨"DELETE", "/api/v1/admin/sessions/00000000-0000-0000-0000-000000000004", headers, ""⟩

theorem route_smallEndRequest (headers : List (String × String)) :
    Route.ofPath? (smallEndRequest headers).path =
      some (.session "00000000-0000-0000-0000-000000000004".toList) := by
  show Route.ofPath? (smallEndRequest []).path = _
  decide +kernel

/-- What a call that works fails with is a failure of the store. -/
theorem failing_of_works {o : Observation} {call : Store.Call} {e : Failure} (h : o.Truthful)
    (hw : ¬o.Fails) (hs : o.Saw (.store call) (.error e)) : Store.Failing call e := by
  obtain ⟨b, how, a, rfl⟩ := hs
  exact .memory (Prod.ext (h.answer_of_works hw).symm rfl)

/-- The user is not admitted to end any session, as its role does not grant that. -/
theorem exists_small_refusal :
    ∃ headers tr, (admission smallApp Catalog.revokeSession (smallEndRequest headers)).Reaches tr
        (.done (.error (lacksPermission Catalog.revokeSession))) ∧ tr.Alone smallOpenWorld ∧
      ∀ o ∈ tr, ¬o.Fails := by
  let c : Claims := ⟨.ofNat 1, .ofNat 4, .access, 1000, 1060⟩
  have hv : smallServices.verifier.verify .access ⟨1010, 0⟩ (smallServices.issuer.encode c) =
      .ok c :=
    TokenVerifier.verify_encode_of_le (c := c) rfl (by constructor <;> decide)
      (by constructor <;> decide) (by decide) (by decide)
  have hno : ¬smallOpenWorld.directory.Grants (.ofNat 2) Catalog.revokeSession := by
    rintro ⟨id, p, hgrant, hp, hname⟩
    obtain rfl : id = .ofNat 3 := by
      simpa [smallOpenWorld, smallWorld, Session.smallDirectory] using hgrant
    obtain rfl : ⟨.ofNat 3, "Delete-User"⟩ = p := Option.some.inj hp
    exact absurd hname (by decide)
  obtain ⟨tr, h⟩ := Session.exists_play_forbidden hv get?_smallOpenWorld rfl hno
  obtain ⟨hr, ha⟩ := reaches_of_play h .start trivial
  refine ⟨[("Authorization", bearerValue (smallServices.issuer.encode c))], tr, ?_, ha,
    fun o ho => works_of_play h (by simp) ho⟩
  rw [admission_of_bearerToken (bearerToken_encode rfl)]
  exact hr

/-! ## All requests -/

/-- A request that runs alone changes only sessions that it is entitled to change. -/
theorem changes_of_reaches {b : Action Response} (h : (app.handle r).Reaches tr b)
    (ha : tr.Alone w) :
    (∀ key, tr.live? w key = w.store.live? w.moment key) ∨
      ∃ sessions, Entitled app r w tr sessions ∧
        ∀ key, tr.live? w key ≠ w.store.live? w.moment key → ∃ s ∈ sessions, key = storeKey s := by
  have hall := (h.along (along_handle app r) (Trace.all_true tr)).2
  have he := not_edits_of_permitted hall
  obtain hw | ⟨keys, newer, older, rfl, hw, hp, hn⟩ := scoped_of_permitted hall
  · exact .inl fun key => Trace.live?_of_writeless ha hw
  · obtain ⟨sessions, rfl, hent⟩ := hp.entitled hw
      (fun o ho => he o (List.mem_append_right _ ho)) (List.suffix_append newer older) ha
    refine .inr ⟨sessions, hent, fun key hk => ?_⟩
    have hmem : key ∈ keysOf sessions :=
      Classical.byContradiction fun hno => hk (Trace.live?_of_confined ha hw hn hno)
    obtain ⟨s, hs, he⟩ := List.mem_map.1 hmem
    exact ⟨s, hs, he.symm⟩

/-- A request that changes what is live is a login, an exchange, a logout, or the ending of a
session by a caller that is authorized to, and changes only the sessions that this entitles it to. A
request to end a session that is answered 401 or 403, by a store that fails on this side of the wire
if it fails, changes nothing; it has asked the store about no session but the one of its own token;
and any other with the same header fields comes to the same answer by the same observations,
whichever session it names. -/
theorem only_authorized_requests_change_sessions {b : Action Response}
    (h : (app.handle r).Reaches tr b) (ha : tr.Alone w) :
    ((∃ key, tr.live? w key ≠ w.store.live? w.moment key) →
      ∃ sessions, Entitled app r w tr sessions ∧
        ∀ key, tr.live? w key ≠ w.store.live? w.moment key → ∃ s ∈ sessions, key = storeKey s) ∧
    (StoreFailsInside tr → ∀ name response, r.method = "DELETE" →
      Route.ofPath? r.path = some (.session name) → b = .done (.ok response) →
      (response.status = 401 ∨ response.status = 403) →
      (∀ key, tr.live? w key = w.store.live? w.moment key) ∧
      (∀ o ∈ tr, AboutCaller r o.question) ∧
      ∀ (r' : Request) (name' : List Char), r'.method = "DELETE" → r'.headers = r.headers →
        Route.ofPath? r'.path = some (.session name') →
        (app.handle r').Reaches tr (.done (.ok response))) := by
  refine ⟨fun ⟨key, hk⟩ => ?_, fun hf name response hm hr hb hs => ?_⟩
  · obtain hsame | hent := changes_of_reaches h ha
    · exact absurd (hsame key) hk
    · exact hent
  · subst hb
    obtain ⟨e, rfl, hrefused⟩ := refusal_of_reaches hm hr h hs
    have hgate := hrefused.not_admitted (status_failed_iff.1 hs) hf
    obtain ⟨hw, habout⟩ := asked_of_admission hgate
    exact ⟨fun key => Trace.live?_of_writeless ha hw, habout,
      fun r' name' hm' hh hr' => refusal_whatever_is_named hgate hm' hh hr'⟩

/-- A login keeps a session that was not there; and a request to end a session by a user whose role
does not grant that is answered 403, ends nothing, and would be answered alike whichever session it
names. -/
theorem login_adds_and_refusal_does_not :
    (∃ (app : App) (r : Request) (tr : Trace) (b : Action Response),
      (app.handle r).Reaches tr b ∧ tr.Alone smallWorld ∧
      smallWorld.store.live? smallWorld.moment (storeKey (.ofNat 4)) = none ∧
      tr.live? smallWorld (storeKey (.ofNat 4)) ≠ none ∧
      ∃ sessions, Entitled app r smallWorld tr sessions ∧ .ofNat 4 ∈ sessions) ∧
    ∃ (app : App) (r : Request) (tr : Trace) (response : Response),
      (app.handle r).Reaches tr (.done (.ok response)) ∧ tr.Alone smallOpenWorld ∧
      StoreFailsInside tr ∧ r.method = "DELETE" ∧ response.status = 403 ∧
      (∀ key, tr.live? smallOpenWorld key =
        smallOpenWorld.store.live? smallOpenWorld.moment key) ∧
      ∀ (r' : Request) (name : List Char), r'.method = "DELETE" → r'.headers = r.headers →
        Route.ofPath? r'.path = some (.session name) →
        (app.handle r').Reaches tr (.done (.ok response)) := by
  constructor
  · obtain ⟨tr, b, hr, ha, hlive⟩ := exists_small_logIn
    have hnone : smallWorld.store.live? smallWorld.moment (storeKey (.ofNat 4)) = none := rfl
    have hsome : tr.live? smallWorld (storeKey (.ofNat 4)) ≠ none := by
      intro he
      rw [he] at hlive
      cases hlive
    have hne : tr.live? smallWorld (storeKey (.ofNat 4)) ≠
        smallWorld.store.live? smallWorld.moment (storeKey (.ofNat 4)) := by rwa [hnone]
    obtain ⟨sessions, hent, hall⟩ := (only_authorized_requests_change_sessions hr ha).1 ⟨_, hne⟩
    obtain ⟨s, hs, he⟩ := hall _ hne
    rw [← Session.storeKey_injective he] at hs
    exact ⟨smallApp, _, tr, b, hr, ha, hnone, hsome, sessions, hent, hs⟩
  · obtain ⟨headers, tr, hrefused, ha, hworks⟩ := exists_small_refusal
    have hr : (smallApp.handle (smallEndRequest headers)).Reaches tr
        (.done (.ok (failed (lacksPermission Catalog.revokeSession)))) :=
      refusal_whatever_is_named hrefused rfl rfl (route_smallEndRequest headers)
    have hf : StoreFailsInside tr := .of_failing fun o ho call e hs =>
      failing_of_works (ha.truthful o ho) (hworks o ho) hs
    obtain ⟨hsame, -, hany⟩ := (only_authorized_requests_change_sessions hr ha).2 hf _ _ rfl
      (route_smallEndRequest headers) rfl (.inr rfl)
    exact ⟨smallApp, _, tr, _, hr, ha, hf, rfl, rfl, hsame, hany⟩

end Gatehouse.Api
