import Gatehouse.Proofs.Api.Authorization
import Gatehouse.Proofs.Session.Discretion

/-!
# Failures in responses

A response says nothing of a failure on this side but that there was one. Two runs of a request that
differ in the detail of failures ask the same, change the store alike, and are answered with the
same status and body (`agree_handle`). `failure_detail_is_not_disclosed` says so of whole runs, for
every request to the service and for every operation on sessions; an operation that saw a failure on
this side fails with an internal one, if it fails.
-/

namespace Gatehouse.Api

open Gatehouse.Action Http

variable {α : Type} {app : App} {r : Request}

/-! ## Parts of an answer -/

/-- An action whose result decides what is answered. -/
theorem agree_answering {a : Action α} {ends : Prop → Outcome α → Prop}
    {f : Except Failure α → Action Response} (h : Agree upToDetail ends False a a)
    (hf : ∀ seen x, Agree upToDetail AnyEnd seen (f x) (f x)) :
    Agree upToDetail AnyEnd False (a.attempt >>= f) (a.attempt >>= f) := by
  refine agree_bind (agree_attempt (h.mono fun seen out _ => ?_))
  cases out with
  | finished x => exact hf seen x
  | crashed => trivial

theorem agree_respond {a : Action α} {ends : Prop → Outcome α → Prop}
    (h : Agree upToDetail ends False a a) (json : α → Json) :
    Agree upToDetail AnyEnd False (App.respond a json) (App.respond a json) := by
  refine agree_answering h fun seen x => ?_
  cases x <;> exact .done trivial

theorem agree_checked {a : Action α} (faults : List FieldFault)
    (h : Agree upToDetail Reserved False a a) :
    Agree upToDetail Reserved False (App.checked faults a) (App.checked faults a) := by
  refine agree_then (fun _ _ => Closed.reserved) (agree_done _) fun _ => h

theorem agree_withBody {body : Except BodyFault α} {act : α → Action Response}
    (h : ∀ x, Agree upToDetail AnyEnd False (act x) (act x)) :
    Agree upToDetail AnyEnd False (App.withBody body act) (App.withBody body act) := by
  cases body with
  | error fault => exact .done trivial
  | ok x => exact h x

theorem agree_caller : Agree upToDetail Closed False (app.caller r) (app.caller r) :=
  agree_seq (agree_done _) fun token => Session.agree_authenticate token

theorem agree_guarded {permission : String} {act : Action Response}
    (h : ∀ seen, Agree upToDetail AnyEnd seen act act) :
    Agree upToDetail AnyEnd False (app.guarded permission r act)
      (app.guarded permission r act) := by
  refine agree_answering (agree_seq (agree_done _) fun token =>
    Session.agree_authorize token permission) fun seen x => ?_
  cases x with
  | ok p => exact h seen
  | error e => exact .done trivial

theorem agree_databaseState :
    Agree upToDetail AnyEnd False app.databaseState app.databaseState := by
  unfold App.databaseState
  split
  · refine .ask fun x x' hx => ?_
    obtain rfl | ⟨⟨e, rfl, -⟩, ⟨e', rfl, -⟩⟩ := (hx : SameButDetail x x')
    · rcases x with e | _ | _ <;> exact .done trivial
    · exact .done trivial
  · exact .done trivial

theorem agree_health {seen : Prop} (store : Bool) :
    Agree upToDetail AnyEnd seen (app.databaseState >>= fun d => pure (health store d))
      (app.databaseState >>= fun d => pure (health store d)) := by
  refine agree_bind ((agree_any agree_databaseState).mono fun seen out _ => ?_)
  rcases out with (e | state) | _
  · trivial
  · exact .done trivial
  · trivial

theorem agree_checkHealth : Agree upToDetail AnyEnd False app.checkHealth app.checkHealth := by
  refine .ask fun x x' hx => ?_
  obtain rfl | ⟨⟨e, rfl, -⟩, ⟨e', rfl, -⟩⟩ := (hx : SameButDetail x x')
  · exact agree_health _
  · exact agree_health false

/-! ## Answers -/

theorem agree_serve (route : Route) :
    Agree upToDetail AnyEnd False (app.serve r route) (app.serve r route) := by
  cases route with
  | login =>
    exact agree_withBody fun q => agree_respond (agree_checked _
      ((Session.agree_logIn _ _).mono fun _ _ => Closed.reserved)) _
  | refresh =>
    exact agree_withBody fun q => agree_respond (agree_checked _ (Session.agree_refresh _)) _
  | logout => exact agree_respond (agree_seq agree_caller fun _ => Session.agree_logoutPair _) _
  | own =>
    exact agree_respond (agree_seq agree_caller fun _ =>
      agree_seq (Session.agree_describe _) fun _ => agree_done _) _
  | session name =>
    show Agree _ _ _ (App.endSession name) (App.endSession name)
    unfold App.endSession
    split
    · exact .done trivial
    · exact agree_respond (Session.agree_logoutPair _) _
  | health => exact agree_checkHealth

theorem agree_serveMethod (route : Route) :
    Agree upToDetail AnyEnd False (app.serveMethod r route) (app.serveMethod r route) := by
  unfold App.serveMethod
  split
  · exact agree_serve route
  · exact .done trivial

/-- Two runs of a request that differ in the detail of failures are answered alike. -/
theorem agree_handle (app : App) (r : Request) :
    Agree upToDetail AnyEnd False (app.handle r) (app.handle r) := by
  have hanswer : Agree upToDetail AnyEnd False (app.answer r) (app.answer r) := by
    unfold App.answer
    split
    · exact .done trivial
    · exact agree_guarded fun seen => agree_any (agree_serveMethod _)
    · exact agree_serveMethod _
  refine agree_bind (hanswer.mono fun seen out _ => ?_)
  rcases out with (e | response) | _
  · trivial
  · exact .done trivial
  · trivial

/-- The detail of a failure on this side is not disclosed. Of every operation on sessions, and of
every request to the service, two runs that are answered alike up to the detail of failures cannot
be told apart, and what an operation reports after such a failure is an internal one. -/
theorem failure_detail_is_not_disclosed (app : App) :
    (∀ q : Session.Request, Indistinct upToDetail (q.action app.services) ∧
      FailsInside (q.action app.services)) ∧
    (∀ s permission, Indistinct upToDetail (evaluate s permission) ∧
      FailsInside (evaluate s permission)) ∧
    ∀ r, Indistinct upToDetail (app.handle r) := by
  refine ⟨fun q => ?_, fun s permission => ?_, fun r => (agree_handle app r).indistinct⟩
  · have h := Session.agree_request app.services q
    exact ⟨h.indistinct, failsInside_of_agree h⟩
  · have h := Session.agree_evaluate s permission
    exact ⟨h.indistinct, failsInside_of_agree (h.mono fun _ _ => Closed.reserved)⟩

/-- The removal of a session that is carried out and reported to have failed. -/
def lostRemoval (e : Failure) : Trace :=
  [⟨Session.smallWorld, .store (Session.revokeCall (.ofNat 4)), .unseen e, .error e,
    Session.smallWorld.carryOut (Session.revokeCall (.ofNat 4))⟩]

theorem reachesBy_lostRemoval (e : Failure) :
    (Session.logout (.ofNat 4)).ReachesBy [false] (lostRemoval e)
      (done (.error (.surface "Failed to revoke session" e))) := by
  have hstart : (Session.logout (.ofNat 4)).ReachesBy [] [] (Session.logout (.ofNat 4)) := .start
  exact hstart.step_ask Session.smallWorld (.unseen e) (.error e)
    (Session.smallWorld.carryOut (Session.revokeCall (.ofNat 4)))

theorem two_lost_removals_tell_the_same :
    ∃ tr tr' : Trace, tr ≠ tr' ∧ tr.Alike upToDetail tr' ∧ tr.Same tr' ∧
      (∀ key, tr.live? Session.smallWorld key = tr'.live? Session.smallWorld key) ∧
      ∃ e : Failure, e.kind = .internal ∧
        (Session.logout (.ofNat 4)).ReachesBy [false] tr (done (.error e)) ∧
        (Session.logout (.ofNat 4)).ReachesBy [false] tr' (done (.error e)) := by
  have hr := reachesBy_lostRemoval (.cache "connection reset")
  have hr' := reachesBy_lostRemoval .badJson
  have halike : (lostRemoval (.cache "connection reset")).Alike upToDetail
      (lostRemoval .badJson) := by
    refine .cons ⟨rfl, ?_, fun _ _ => ⟨fun _ => .inr ⟨_, rfl⟩, fun _ => .inr ⟨_, rfl⟩⟩⟩ .nil
    rintro x ⟨b, how, a, hx⟩
    cases hx
    exact .inr ⟨⟨_, rfl, rfl⟩, ⟨_, rfl, rfl⟩⟩
  obtain ⟨hindistinct, hinside⟩ :=
    (failure_detail_is_not_disclosed smallApp).1 (.logout (.ofNat 4))
  obtain ⟨hsame, hlive, hend⟩ := hindistinct [false] _ _ _ _ hr hr' halike
  have he := (hend (.finished (.error _))).1 rfl
  refine ⟨_, _, ?_, halike, hsame, fun key => ?_, _, ?_, hr, he ▸ hr'⟩
  · intro h
    cases h
  · exact hlive _ _ key ⟨⟨rfl, rfl⟩, trivial⟩ ⟨⟨rfl, rfl⟩, trivial⟩ rfl
  · exact hinside _ _ (reaches_iff_exists_order.2 ⟨_, hr⟩) ⟨_, List.mem_cons_self, _, rfl, rfl⟩

end Gatehouse.Api
