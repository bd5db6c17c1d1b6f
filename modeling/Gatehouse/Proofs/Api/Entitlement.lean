import Gatehouse.Api.Service
import Gatehouse.Proofs.Run.Scope
import Gatehouse.Proofs.Session.Workload

/-!
# Which requests change sessions

`Permits` lists what a request must have asked and been told before it may change anything, with the
keys that it may change then: a login that found its user, an exchange that made an issuance, and
the ending of a session, the caller's own or one that the caller is authorized to end.
`along_handle` says that every request keeps to this, whatever its method, path, header fields and
body are.
-/

namespace Gatehouse.Api

open Gatehouse.Action Http
open Session (storeKey loaded along_load along_check along_keepPair FreeToLook)

variable {α : Type} {T : Terms} {tr older : Trace} {app : App} {r : Request}
  {P : Trace → List String → Prop}

/-! ## Routes -/

theorem Route.takes_iff {route : Route} (h : route.method ≠ "GET") {m : String} :
    route.takes m = true ↔ m = route.method := by
  simp [takes, h]

/-! ## Conditions -/

/-- The keys of sessions in the store. -/
def keysOf (sessions : List Uuid) : List String := sessions.map storeKey

theorem storeKey_mem_keysOf {s : Uuid} {sessions : List Uuid} (h : s ∈ sessions) :
    storeKey s ∈ keysOf sessions := List.mem_map_of_mem h

/-- Whether a trace accepted the token of a request as an access token with these claims, and found
its session. -/
structure Recognizes (v : Services) (r : Request) (c : Claims) (tr : Trace) : Prop where
  verified : ∃ token o t, bearerToken r = .ok token ∧ o ∈ tr ∧ o.Saw .now t ∧
    v.verifier.verify .access t token = .ok c
  live : ∃ o ∈ tr, o.Saw (.store (.isPresent (storeKey c.session))) (.ok true)

/-- Whether a trace loaded the record of a session, or found that there is none. -/
def Loads (s : Uuid) (found : Option SessionRecord) (tr : Trace) : Prop :=
  ∃ o x, o ∈ tr ∧ o.Saw (.store (.get (storeKey s))) x ∧ loaded x = .ok found

/-- A session, and the one that its record names. -/
def pairOf (s : Uuid) (found : Option SessionRecord) : List Uuid :=
  s :: (found.bind SessionRecord.pairedWith).toList

/-- When a request may change the store, and under which keys. -/
inductive Permits (app : App) (r : Request) : Trace → List String → Prop where
  | login {q : LoginRequest} {m : Session.Issuance} {tr : Trace} (method : r.method = "POST")
      (route : Route.ofPath? r.path = some .login) (body : LoginRequest.ofRequest r = .ok q)
      (rules : q.faults = []) (h : app.services.LogsIn q.email q.password m tr) :
      Permits app r tr (keysOf [m.session .access, m.session .refresh])
  | refresh {q : RefreshRequest} {c : Claims} {old : SessionRecord} {m : Session.Issuance}
      {tr : Trace} (method : r.method = "POST") (route : Route.ofPath? r.path = some .refresh)
      (body : RefreshRequest.ofRequest r = .ok q) (rules : q.faults = [])
      (h : app.services.Renews q.token c old m tr) :
      Permits app r tr
        (keysOf (pairOf c.session (some old) ++ [m.session .access, m.session .refresh]))
  | logout {c : Claims} {found : Option SessionRecord} {tr : Trace} (method : r.method = "DELETE")
      (route : Route.ofPath? r.path = some .logout) (caller : Recognizes app.services r c tr)
      (h : Loads c.session found tr) : Permits app r tr (keysOf (pairOf c.session found))
  | session {name : List Char} {s : Uuid} {token : String} {p : Principal}
      {found : Option SessionRecord} {older tr : Trace} (method : r.method = "DELETE")
      (route : Route.ofPath? r.path = some (.session name)) (named : sessionOfName? name = some s)
      (bearer : bearerToken r = .ok token) (hs : older <:+ tr)
      (authorized : (app.services.authorize token Catalog.revokeSession).Reaches older
        (.done (.ok p)))
      (h : Loads s found tr) : Permits app r tr (keysOf (pairOf s found))

theorem freeToLook_permitting : FreeToLook (permitting P) :=
  fun _ _ hq => permitting_of_not_writes hq.not_edits hq.not_writes

theorem freeToAsk_permitting : Session.FreeToAsk (permitting P) :=
  freeToLook_permitting.freeToAsk

/-! ## Actions on sessions -/

theorem confining_delete {keys : List String} {s : Uuid} (h : storeKey s ∈ keys) :
    (confining keys).guarantee tr (.store (Session.revokeCall s)) :=
  ⟨id, Question.confined_store h⟩

theorem confining_save {keys : List String} {i : TokenIssuer} {m : Session.Issuance}
    {k : TokenKind} (h : storeKey (m.session k) ∈ keys) :
    (confining keys).guarantee tr (.store (m.save i k)) :=
  ⟨id, Question.confined_store h⟩

/-- Keeping an issuance changes the two sessions of it. -/
theorem along_keepPair_confining {keys : List String} {i : TokenIssuer} {m : Session.Issuance}
    (h : ∀ k, storeKey (m.session k) ∈ keys) {ends : Trace → Outcome TokenPair → Prop}
    (hends : ∀ tr out, (∀ pair, out = .finished (.ok pair) → pair = m.pair i) → ends tr out) :
    (Session.keepPair i m).Along (confining keys) ends tr := by
  refine along_keepPair (fun k => confining_save (h k))
    (fun k _ _ _ _ => confining_save (h k.other))
    (fun _ _ j _ _ _ _ _ => confining_delete (h j)) fun newer out hk _ => hends _ _ ?_
  intro pair hp
  subst hp
  cases hk
  rfl

/-- Rotation changes the old session, the one that its record names, and those of the new pair. -/
theorem along_rotate_confining {keys : List String} {i : TokenIssuer} {m : Session.Issuance}
    {s : Uuid} {old : SessionRecord} (hs : ∀ p ∈ pairOf s (some old), storeKey p ∈ keys)
    (hm : ∀ k, storeKey (m.session k) ∈ keys) :
    (Services.rotate s old (m.pair i)).Along (confining keys) (fun _ _ => True) tr := by
  refine ⟨confining_delete (hs s List.mem_cons_self), fun b how x a _ => ?_⟩
  cases x with
  | error e =>
    refine ⟨⟨confining_delete (hm .access), fun _ _ _ _ _ => ?_⟩,
      ⟨confining_delete (hm .refresh), fun _ _ _ _ _ => ?_⟩⟩
    · exact ⟨confining_delete (hm .refresh), fun _ _ _ _ _ => trivial⟩
    · exact ⟨confining_delete (hm .access), fun _ _ _ _ _ => trivial⟩
  | ok =>
    cases hp : old.pairedWith with
    | none => trivial
    | some p =>
      have hmem : p ∈ pairOf s (some old) := by simp [pairOf, hp]
      refine ⟨confining_delete (hs p hmem), fun b how x a _ => ?_⟩
      cases x <;> trivial

/-- A login is permitted to change the two sessions of the issuance that it made. -/
theorem along_logIn_permitted {v : Services} {email password : String}
    (hp : ∀ m older, v.LogsIn email password m older →
      P older (keysOf [m.session .access, m.session .refresh])) :
    (v.logIn email password).Along (permitting P) (fun _ _ => True) [] := by
  refine Services.along_logIn_of freeToAsk_permitting (permitting_of_not_writes id id)
    (fun _ _ _ => trivial) (fun _ _ _ _ _ _ => trivial) fun m older h => ?_
  refine Along.permitted (along_keepPair_confining (fun k => storeKey_mem_keysOf ?_)
    fun _ _ _ => trivial) ⟨[], older, rfl, h.writeless, hp m older h, by simp⟩
  cases k <;> simp

/-- An exchange is permitted to change these two, its own session and the one that its record
names. -/
theorem along_refresh_permitted {v : Services} {token : String}
    (hp : ∀ c old m older, v.Renews token c old m older →
      P older (keysOf (pairOf c.session (some old) ++ [m.session .access, m.session .refresh]))) :
    (v.refresh token).Along (permitting P) (fun _ _ => True) [] := by
  refine Services.along_refresh_of freeToAsk_permitting (fun _ _ _ _ => trivial)
    (fun _ _ _ _ _ _ _ _ _ => trivial) fun c old m older h => ?_
  have hnew : ∀ k, storeKey (m.session k) ∈ keysOf
      (pairOf c.session (some old) ++ [m.session .access, m.session .refresh]) := by
    intro k
    refine storeKey_mem_keysOf (List.mem_append_right _ ?_)
    cases k <;> simp
  refine Along.permitted (along_bind.2 (along_keepPair_confining hnew fun tr out hout => ?_))
    ⟨[], older, rfl, h.writeless, hp c old m older h, by simp⟩
  rcases out with (e | pair) | _
  · trivial
  · obtain rfl := hout pair rfl
    exact along_rotate_confining
      (fun p hp => storeKey_mem_keysOf (List.mem_append_left _ hp)) hnew
  · trivial

/-- Ending a session and its pair is permitted once the record of the session was looked for. -/
theorem along_logoutPair_permitted {s : Uuid} (hw : tr.Writeless)
    (hp : ∀ o found, Loads s found (o :: tr) → P (o :: tr) (keysOf (pairOf s found))) :
    (Session.logoutPair s).Along (permitting P) (fun _ _ => True) tr := by
  refine along_bind.2 (along_mapFailure.2 (along_load.2
    ⟨freeToLook_permitting _ _ trivial, fun b how x a _ => ?_⟩))
  have ho : (⟨b, .store (.get (storeKey s)), how, x, a⟩ : Observation).Saw
    (.store (.get (storeKey s))) x := ⟨b, how, a, rfl⟩
  generalize (⟨b, .store (.get (storeKey s)), how, x, a⟩ : Observation) = o at *
  rcases hx : loaded x with e | found
  · trivial
  have hw' : Trace.Writeless (o :: tr) := by
    simp [Trace.writeless_cons, hw, ho.question, Question.Writes]
  have hl : Loads s found (o :: tr) := ⟨o, x, List.mem_cons_self, ho, hx⟩
  have hs : Scoped P (keysOf (pairOf s found)) (o :: tr) :=
    ⟨[], o :: tr, rfl, hw', hp o found hl, by simp⟩
  refine Along.permitted ?_ hs
  refine along_bind.2 ⟨confining_delete (storeKey_mem_keysOf List.mem_cons_self),
    fun b how x a _ => ?_⟩
  cases x with
  | error e => trivial
  | ok =>
    dsimp only
    split
    · rename_i p hpair
      refine ⟨confining_delete (storeKey_mem_keysOf ?_), fun _ _ _ _ _ => trivial⟩
      exact List.mem_cons_of_mem _ (by simp [hpair])
    · trivial

/-! ## Answers -/

/-- What a response is made of when an action is over. -/
def responseTo (json : α → Json) : Outcome α → Outcome Response
  | .finished (.ok x) => .finished (.ok (answered 200 (json x)))
  | .finished (.error e) => .finished (.ok (failed e))
  | .crashed => .crashed

theorem along_respond {a : Action α} {json : α → Json} {ends : Trace → Outcome Response → Prop} :
    (App.respond a json).Along T ends tr ↔
      a.Along T (fun tr out => ends tr (responseTo json out)) tr := by
  refine along_change (F := (App.respond · json)) (fun _ _ => rfl) (fun _ _ _ => rfl)
    fun tr out => ?_
  rcases out with (e | x) | _ <;> exact Iff.rfl

/-- An action behind rules runs only if none is broken. -/
theorem along_checked {faults : List FieldFault} {a : Action α}
    {ends : Trace → Outcome α → Prop}
    (hbroken : faults ≠ [] → ends tr (.finished (.error (.invalid (FieldFault.lines faults)))))
    (h : faults = [] → a.Along T ends tr) : (App.checked faults a).Along T ends tr := by
  cases faults with
  | nil => exact h rfl
  | cons fault faults => exact hbroken (by simp)

theorem along_withBody {body : Except BodyFault α} {act : α → Action Response}
    {ends : Trace → Outcome Response → Prop}
    (hwrong : ∀ fault, body = .error fault → ends tr (.finished (.ok (.bare fault.status))))
    (h : ∀ x, body = .ok x → (act x).Along T ends tr) :
    (App.withBody body act).Along T ends tr := by
  cases body with
  | error fault => exact hwrong fault rfl
  | ok x => exact h x rfl

/-! ## Routes that change something -/

theorem along_logIn (hm : r.method = "POST") (hr : Route.ofPath? r.path = some .login) :
    (app.logIn r).Along (permitting (Permits app r)) (fun _ _ => True) [] :=
  along_withBody (fun _ _ => trivial) fun _ hq => along_respond.2 (along_checked
    (fun _ => trivial) fun hf => along_logIn_permitted fun _ _ h => .login hm hr hq hf h)

theorem along_refresh (hm : r.method = "POST") (hr : Route.ofPath? r.path = some .refresh) :
    (app.refresh r).Along (permitting (Permits app r)) (fun _ _ => True) [] :=
  along_withBody (fun _ _ => trivial) fun _ hq => along_respond.2 (along_checked
    (fun _ => trivial) fun hf => along_refresh_permitted fun _ _ _ _ h => .refresh hm hr hq hf h)

/-- Who makes a request is known when its token was accepted and its session found. -/
theorem along_caller (hT : FreeToLook T) {ends : Trace → Outcome AuthenticatedSession → Prop}
    (hfail : ∀ tr e, ends tr (.finished (.error e)))
    (hok : ∀ tr c, tr.Writeless → Recognizes app.services r c tr →
      ends tr (.finished (.ok ⟨c.session, c⟩))) : (app.caller r).Along T ends [] := by
  show Action.Along T ends (Action.ofExcept (bearerToken r) >>= app.services.authenticate) []
  cases hb : bearerToken r with
  | error e => exact hfail [] e
  | ok token =>
    show Action.Along T ends (app.services.authenticate token) []
    refine along_bind.2 (along_check.2 ⟨hT _ _ trivial, fun b how t a _ => ?_⟩)
    cases hv : app.services.verifier.verify .access t token with
    | error why => exact hfail _ _
    | ok c =>
      refine along_bind.2 ⟨hT _ _ trivial, fun b' how' x a' _ => ?_⟩
      rcases x with e | _ | _
      · exact hfail _ _
      · exact hfail _ _
      · refine hok _ c ?_ ⟨⟨token, ⟨b, .now, how, t, a⟩, t, hb, by simp, ⟨b, how, a, rfl⟩, hv⟩,
          ⟨_, List.mem_cons_self, ⟨b', how', a', rfl⟩⟩⟩
        simp [Trace.writeless_cons, Trace.writeless_nil, Question.Writes]

theorem along_logOut (hm : r.method = "DELETE") (hr : Route.ofPath? r.path = some .logout) :
    (app.logOut r).Along (permitting (Permits app r)) (fun _ _ => True) [] := by
  refine along_respond.2 (along_bind.2 (along_caller freeToLook_permitting (fun _ _ => trivial)
    fun tr c hw hc => along_logoutPair_permitted hw fun o found hl => ?_))
  obtain ⟨⟨token, o', t, hb, ho', hs, hv⟩, ⟨o'', ho'', hs'⟩⟩ := hc
  exact .logout hm hr ⟨⟨token, o', t, hb, List.mem_cons_of_mem _ ho', hs, hv⟩,
    ⟨o'', List.mem_cons_of_mem _ ho'', hs'⟩⟩ hl

theorem along_ownSession :
    (app.ownSession r).Along (permitting P) (fun _ _ => True) [] := by
  refine along_respond.2 (along_bind.2 (along_caller freeToLook_permitting (fun _ _ => trivial)
    fun tr c _ _ => along_bind.2 (Session.along_describe_free freeToLook_permitting _
      fun tr out => ?_)))
  rcases out with (e | found) | _ <;> trivial

theorem along_checkHealth : app.checkHealth.Along (permitting P) (fun _ _ => True) [] := by
  refine ⟨permitting_of_not_writes id id, fun b how x a _ => ?_⟩
  show Action.Along _ _ (app.databaseState >>= _) _
  unfold App.databaseState
  split
  · refine along_bind.2 ⟨permitting_of_not_writes id id, fun b how y a _ => ?_⟩
    rcases y with e | _ | _ <;> trivial
  · trivial

theorem along_serveMethod {route : Route} (hr : Route.ofPath? r.path = some route)
    (hs : ∀ name, route ≠ .session name) :
    (app.serveMethod r route).Along (permitting (Permits app r)) (fun _ _ => True) [] := by
  unfold App.serveMethod
  split
  · rename_i ht
    cases route with
    | login => exact along_logIn ((Route.takes_iff (by decide)).1 ht) hr
    | refresh => exact along_refresh ((Route.takes_iff (by decide)).1 ht) hr
    | logout => exact along_logOut ((Route.takes_iff (by decide)).1 ht) hr
    | own => exact along_ownSession
    | session name => exact absurd rfl (hs name)
    | health => exact along_checkHealth
  · trivial

theorem along_session {name : List Char} (hr : Route.ofPath? r.path = some (.session name)) :
    (app.guarded Catalog.revokeSession r (app.serveMethod r (.session name))).Along
      (permitting (Permits app r)) (fun _ _ => True) [] := by
  refine along_bind.2 (along_attempt.2 ?_)
  cases hb : bearerToken r with
  | error e => trivial
  | ok token =>
    have hlook : (app.services.authorize token Catalog.revokeSession).Along asking _ [] :=
      Session.along_authorize_free (fun _ _ hq => hq) token _
    refine ((hlook.reaching .start).looked (P := Permits app r) Trace.writeless_nil).mono
      fun older out h => ?_
    obtain ⟨⟨-, hreach⟩, hw⟩ := h
    rcases out with (e | p) | _
    · trivial
    · show Action.Along _ _ (app.serveMethod r (.session name)) _
      unfold App.serveMethod
      split
      · rename_i ht
        show Action.Along _ _ (App.endSession name) _
        unfold App.endSession
        split
        · trivial
        · rename_i s hn
          exact along_respond.2 (along_logoutPair_permitted hw fun o found hl =>
            .session ((Route.takes_iff (by simp [Route.method])).1 ht) hr hn hb
              (List.suffix_cons o older) hreach hl)
      · trivial
    · trivial

/-- Every request changes sessions only as it is permitted. -/
theorem along_handle (app : App) (r : Request) :
    (app.handle r).Along (permitting (Permits app r)) (fun _ _ => True) [] := by
  have hanswer : (app.answer r).Along (permitting (Permits app r)) (fun _ _ => True) [] := by
    unfold App.answer
    split
    · trivial
    · rename_i name hr
      exact along_session hr
    · rename_i route hs hr
      exact along_serveMethod hr fun name he => hs name (he ▸ rfl)
  refine along_bind.2 (hanswer.mono fun tr out _ => ?_)
  rcases out with (e | response) | _ <;> trivial

end Gatehouse.Api
