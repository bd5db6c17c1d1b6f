import Gatehouse.Proofs.Api.Entitlement
import Gatehouse.Proofs.Store.Failures
import Gatehouse.Proofs.Token.Acceptance

/-!
# Refused requests to end a session

The place that ends sessions of others first asks whether the caller may (`admission`), and nothing
of the request but its header fields is looked at until then. If it is answered 401 or 403, the
caller was not admitted, or a call to the store failed so after that (`refusal_of_reaches`), which
the stores of the program never do (`StoreFailsInside.of_failing`). A caller that was not admitted
has changed nothing and asked nothing about any session but its own (`asked_of_admission`), and any
other request with these header fields comes to the same answer by the same observations
(`refusal_whatever_is_named`).
-/

namespace Gatehouse.Api

open Gatehouse.Action Http
open Session (storeKey loaded along_load along_check)

variable {α : Type} {T : Terms} {tr : Trace} {app : App} {r : Request}

/-! ## Failures of the caller -/

/-- Whether a failure is answered 401 or 403. -/
def Refuses (e : Failure) : Prop := e.kind = .unauthorized ∨ e.kind = .forbidden

theorem status_failed_iff {e : Failure} :
    (failed e).status = 401 ∨ (failed e).status = 403 ↔ Refuses e := by
  show statusOf e.kind = 401 ∨ statusOf e.kind = 403 ↔ e.kind = .unauthorized ∨ e.kind = .forbidden
  cases e.kind <;> simp [statusOf]

/-- A failure on this side of the wire is none of the caller. -/
theorem not_refuses_of_isServerSide {e : Failure} (h : e.kind.isServerSide = true) :
    ¬Refuses e := by
  rintro (hk | hk) <;> rw [hk] at h <;> cases h

/-- A failure that is surfaced as one of the caller is passed through. -/
theorem surface_of_refuses {e : Failure} {doing : String} (h : Refuses (e.surface doing)) :
    e.surface doing = e := by
  cases hs : e.kind.isServerSide with
  | false => exact Failure.surface_of_not_isServerSide hs doing
  | true =>
    rw [Failure.surface_of_isServerSide hs] at h
    exact absurd h (not_refuses_of_isServerSide rfl)

/-- A record that cannot be read is not a failure of the caller. -/
theorem eq_of_loaded {x : Except Failure (Option String)} {e : Failure}
    (hx : loaded x = .error e) (h : Refuses e) : x = .error e := by
  unfold loaded at hx
  split at hx
  · cases hx
  · split at hx
    · cases hx
    · cases hx
      rcases h with h | h <;> cases h
  · cases hx
    rfl

/-- Whether a call to the store failed with a failure. -/
def StoreFailed (e : Failure) (tr : Trace) : Prop :=
  ∃ o ∈ tr, ∃ call, o.Saw (.store call) (.error e)

/-- Whether whatever calls to the store failed with is a failure on this side of the wire. -/
def StoreFailsInside (tr : Trace) : Prop :=
  ∀ o ∈ tr, ∀ call e, o.Saw (.store call) (.error e) → e.kind.isServerSide = true

/-- The stores of the program fail on this side of the wire only. -/
theorem StoreFailsInside.of_failing
    (h : ∀ o ∈ tr, ∀ call e, o.Saw (.store call) (.error e) → Store.Failing call e) :
    StoreFailsInside tr :=
  fun o ho call e hs => (h o ho call e hs).isServerSide

theorem StoreFailsInside.not_refuses {newer : Trace} {e : Failure}
    (h : StoreFailsInside (newer ++ tr)) (hf : StoreFailed e newer) : ¬Refuses e := by
  obtain ⟨o, ho, call, hs⟩ := hf
  exact not_refuses_of_isServerSide (h o (List.mem_append_left _ ho) call e hs)

/-- Whether an end that is a failure of the caller is one of the store, since some observations. -/
def PassesOn (older tr : Trace) (out : Outcome α) : Prop :=
  ∃ newer, tr = newer ++ older ∧
    ∀ e, out = .finished (.error e) → Refuses e → StoreFailed e newer

/-- An action may do anything. -/
def freely : Terms where
  rely _ _ := True
  guarantee _ _ := True

theorem along_logout_passing (s : Uuid) (newer older : Trace) :
    (Session.logout s).Along freely (PassesOn older) (newer ++ older) := by
  refine ⟨trivial, fun b how x a _ => ⟨⟨b, .store (.delete (storeKey s)), how, x, a⟩ :: newer,
    rfl, ?_⟩⟩
  cases x with
  | error e =>
    rintro _ ⟨⟩ h
    rw [surface_of_refuses h]
    exact ⟨_, List.mem_cons_self, _, b, how, a, rfl⟩
  | ok => exact nofun

/-- The ending of a pair fails as if it were the caller's fault only if the store does. -/
theorem along_logoutPair_passing (s : Uuid) (older : Trace) :
    (Session.logoutPair s).Along freely (PassesOn older) older := by
  refine along_bind.2 (along_mapFailure.2 (along_load.2 ⟨trivial, fun b how x a _ => ?_⟩))
  let o : Observation := ⟨b, .store (.get (storeKey s)), how, x, a⟩
  rcases hx : loaded x with e | found
  · refine ⟨[o], rfl, ?_⟩
    rintro _ ⟨⟩ h
    have hs := surface_of_refuses h
    rw [hs] at h ⊢
    obtain rfl := eq_of_loaded hx h
    exact ⟨o, List.mem_cons_self, _, b, how, a, rfl⟩
  refine along_bind.2 ((along_logout_passing s [o] older).mono fun tr out h => ?_)
  obtain ⟨newer, rfl, h⟩ := h
  rcases out with (e | _) | _
  · refine ⟨newer, rfl, ?_⟩
    rintro _ ⟨⟩
    exact h e rfl
  · simp only [Continues]
    split
    · exact along_logout_passing _ newer older
    · exact ⟨newer, rfl, nofun⟩
  · exact ⟨newer, rfl, nofun⟩

/-! ## Admission -/

/-- The check of the caller, by the header fields of a request alone. -/
def admission (app : App) (permission : String) (r : Request) : Action Principal := do
  let token ← Action.ofExcept (bearerToken r)
  app.services.authorize token permission

theorem guarded_eq (permission : String) (act : Action Response) :
    app.guarded permission r act = (do
      match ← (admission app permission r).attempt with
      | .ok _ => act
      | .error e => return failed e) := rfl

theorem admission_of_bearerToken {permission token : String} (h : bearerToken r = .ok token) :
    admission app permission r = app.services.authorize token permission := by
  rw [admission, h]
  rfl

theorem admission_congr {permission : String} {r' : Request} (h : r'.headers = r.headers) :
    admission app permission r' = admission app permission r := by
  simp only [admission, bearerToken, Request.header?, h]

theorem along_admission_asking (permission : String) :
    (admission app permission r).Along asking (fun _ _ => True) [] := by
  refine along_bind.2 ?_
  cases bearerToken r with
  | error e => trivial
  | ok token => exact Session.along_authorize_free (fun _ _ hq => hq) token permission

/-- Whether a question to the store is about the session that the caller's token names. -/
def AboutCaller (r : Request) (q : Question) : Prop :=
  ∀ call, q = .store call → ∃ token c, bearerToken r = .ok token ∧
    TokenVerifier.read? token = some c ∧ call.key = storeKey c.session

theorem aboutCaller_now : AboutCaller r .now := fun _ hq => by cases hq

theorem aboutCaller_directory (call : Directory.Call) : AboutCaller r (.directory call) :=
  fun _ hq => by cases hq

theorem along_admission_caller (permission : String) :
    (admission app permission r).Along ⟨freely.rely, fun _ q => AboutCaller r q⟩
      (fun _ _ => True) [] := by
  show Action.Along _ _ (Action.ofExcept (bearerToken r) >>= _) []
  cases hb : bearerToken r with
  | error e => trivial
  | ok token =>
    show Action.Along _ _ (app.services.authorize token permission) []
    refine along_bind.2 (along_bind.2 (along_check.2
      ⟨aboutCaller_now, fun b how t a _ => ?_⟩))
    cases hv : app.services.verifier.verify .access t token with
    | error why => trivial
    | ok c =>
      have about : ∀ call : Store.Call, call.key = storeKey c.session →
          AboutCaller r (.store call) := by
        intro call hk _ hq
        cases hq
        exact ⟨token, c, hb, TokenVerifier.read?_of_verify hv, hk⟩
      refine along_bind.2 ⟨about _ rfl, fun b how x a _ => ?_⟩
      rcases x with e | _ | _
      · trivial
      · trivial
      refine along_bind.2 (along_bind.2 (along_bind.2 (along_mapFailure.2 (along_load.2
        ⟨about _ rfl, fun b how x a _ => ?_⟩))))
      rcases loaded x with e | _ | record
      · trivial
      · trivial
      refine along_bind.2 ((Session.along_isGrantedBy_free
        (fun _ _ => aboutCaller_directory _) permission record.roles).mono fun tr out _ => ?_)
      rcases out with (e | _ | _) | _ <;> trivial

/-- What a refused caller was asked for changed nothing, and was about the caller alone. -/
theorem asked_of_admission {permission : String} {b : Action Principal}
    (h : (admission app permission r).Reaches tr b) :
    tr.Writeless ∧ ∀ o ∈ tr, AboutCaller r o.question := by
  have hlooks : ∀ o ∈ tr, o.question.Looks := fun _ ho =>
    h.asked (along_admission_asking permission) ho
  exact ⟨fun o ho => (hlooks o ho).not_writes, fun _ ho =>
    h.asked (along_admission_caller permission) ho⟩

/-! ## Answers -/

theorem serveMethod_of_method {route : Route} (h : r.method = route.method) :
    app.serveMethod r route = app.serve r route := by
  rw [App.serveMethod, if_pos (by simp [Route.takes, h])]

theorem answer_of_session {name : List Char}
    (hr : Route.ofPath? r.path = some (.session name)) :
    app.answer r =
      app.guarded Catalog.revokeSession r (app.serveMethod r (.session name)) := by
  rw [App.answer, hr]

/-- A request other than `HEAD` is answered in full. -/
theorem reaches_handle {response : Response} (hm : r.method ≠ "HEAD")
    (h : (app.answer r).Reaches tr (.done (.ok response))) :
    (app.handle r).Reaches tr (.done (.ok response)) := by
  have hfull : (if r.method = "HEAD" then Response.bare response.status else response) = response :=
    if_neg hm
  have hr := h.bind fun response =>
    return if r.method = "HEAD" then Response.bare response.status else response
  exact hfull ▸ hr

/-! ## Refusal -/

/-- Why a request to end a session fails as if it were the caller's fault. -/
inductive Refused (app : App) (r : Request) (e : Failure) : Trace → Prop where
  /-- The caller was not admitted. -/
  | atGate {tr : Trace}
      (h : (admission app Catalog.revokeSession r).Reaches tr (.done (.error e))) :
      Refused app r e tr
  /-- The caller was admitted, and a call to the store failed so after that. -/
  | byStore {p : Principal} {newer older : Trace}
      (h : (admission app Catalog.revokeSession r).Reaches older (.done (.ok p)))
      (failure : StoreFailed e newer) : Refused app r e (newer ++ older)

/-- Whether an end with a response that is 401 or 403 is a refusal. -/
def Answers (app : App) (r : Request) (tr : Trace) (out : Outcome Response) : Prop :=
  ∀ response, out = .finished (.ok response) → (response.status = 401 ∨ response.status = 403) →
    ∃ e, response = failed e ∧ Refused app r e tr

theorem along_endSession_answers {p : Principal} {older : Trace}
    (h : (admission app Catalog.revokeSession r).Reaches older (.done (.ok p)))
    (name : List Char) : (App.endSession name).Along freely (Answers app r) older := by
  unfold App.endSession
  split
  · rintro _ ⟨⟩ (h | h) <;> cases h
  · rename_i s _
    refine along_respond.2 ((along_logoutPair_passing s older).mono fun tr out hp => ?_)
    obtain ⟨newer, rfl, hp⟩ := hp
    rcases out with (e | _) | _
    · rintro _ ⟨⟩ hs
      exact ⟨e, rfl, .byStore h (hp e rfl (status_failed_iff.1 hs))⟩
    · rintro _ ⟨⟩ (h | h) <;> cases h
    · exact nofun

theorem along_guarded_answers {name : List Char} (hm : r.method = "DELETE") :
    (app.guarded Catalog.revokeSession r (app.serveMethod r (.session name))).Along freely
      (Answers app r) [] := by
  have hfree : (admission app Catalog.revokeSession r).Along freely (fun _ _ => True) [] := by
    refine along_bind.2 ?_
    cases bearerToken r with
    | error e => trivial
    | ok token => exact Session.along_authorize_free (fun _ _ _ => trivial) token _
  rw [guarded_eq]
  refine along_bind.2 (along_attempt.2 ((hfree.reaching .start).mono fun tr out h => ?_))
  rcases out with (e | p) | _
  · rintro _ ⟨⟩ -
    exact ⟨e, rfl, .atGate h.2⟩
  · show Action.Along _ _ (app.serveMethod r (.session name)) _
    rw [serveMethod_of_method hm]
    exact along_endSession_answers h.2 name
  · exact nofun

/-- A request to end a session that is answered 401 or 403 was refused. -/
theorem refusal_of_reaches {name : List Char} {response : Response} (hm : r.method = "DELETE")
    (hr : Route.ofPath? r.path = some (.session name))
    (h : (app.handle r).Reaches tr (.done (.ok response)))
    (hs : response.status = 401 ∨ response.status = 403) :
    ∃ e, response = failed e ∧ Refused app r e tr := by
  have hend : (app.handle r).Along freely (Answers app r) [] := by
    refine along_bind.2 ?_
    rw [answer_of_session hr]
    refine (along_guarded_answers hm).mono fun tr out h => ?_
    rcases out with (e | response) | _
    · exact nofun
    · intro response' hr'
      rw [hm] at hr'
      cases hr'
      exact h response rfl
    · exact nofun
  exact (h.along hend (Trace.all_true tr)).1 response rfl hs

/-- Where the store only fails on this side of the wire, a refused caller was not admitted. -/
theorem Refused.not_admitted {e : Failure} (h : Refused app r e tr) (he : Refuses e)
    (hf : StoreFailsInside tr) :
    (admission app Catalog.revokeSession r).Reaches tr (.done (.error e)) := by
  cases h with
  | atGate h => exact h
  | byStore _ hfailed => exact absurd he (hf.not_refuses hfailed)

/-- A refusal does not depend on which session is named, nor on anything else but the header
fields. -/
theorem refusal_whatever_is_named {name : List Char} {e : Failure} {r' : Request}
    (h : (admission app Catalog.revokeSession r).Reaches tr (.done (.error e)))
    (hm : r'.method = "DELETE") (hh : r'.headers = r.headers)
    (hr : Route.ofPath? r'.path = some (.session name)) :
    (app.handle r').Reaches tr (.done (.ok (failed e))) := by
  rw [← admission_congr hh] at h
  have hg := h.attempt.bind fun
    | .ok _ => app.serveMethod r' (.session name)
    | .error e => return failed e
  refine reaches_handle (by rw [hm]; decide) ?_
  rw [answer_of_session hr]
  exact hg

end Gatehouse.Api
