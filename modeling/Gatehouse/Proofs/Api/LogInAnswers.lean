import Gatehouse.Proofs.Api.Authorization
import Gatehouse.Proofs.Session.LogInOutcome

/-!
# Answers to requests to log in

A request to log in is answered with what the login comes to (`handle_of_logsIn`), so one that is
rejected is answered as soon as the user has been looked up, and always the same
(`RejectedLogIn.answer`). `rejected_log_ins_are_answered_alike` says so of any two such requests, to
any two services, whatever their directories hold, and what else can be said of a login.
-/

namespace Gatehouse.Api

open Gatehouse.Action Http
open Session (badCredentials logIn_eq_ask letIn letIn_of_rejects LogInOutcome
  logInOutcome_of_reaches smallServices smallWorld smallDirectory smallLogIn smallReactions)

variable {app : App} {r : Request}

/-- A run of a well-formed request to log in whose lookup found no user, one that is not active, or
one with another password. -/
structure RejectedLogIn (app : App) (r : Request) (tr : Trace) (b : Action Response) : Prop where
  run : (app.handle r).Reaches tr b
  rejected : ∃ q newer o found, LogsIn r q ∧ tr = newer ++ [o] ∧
    o.Saw (.directory (.byEmail q.email)) (.ok found) ∧ app.services.Rejects q.password found

theorem respond_fail {α : Type} (e : Failure) (json : α → Json) :
    App.respond (fail e) json = pure (failed e) := rfl

theorem respond_ask {α : Type} (q : Question) (next : q.Answer → Action α) (json : α → Json) :
    App.respond (ask q next) json = ask q fun x => App.respond (next x) json := rfl

/-- A rejected request is answered after the lookup. -/
theorem RejectedLogIn.answer {tr : Trace} {b : Action Response} (h : RejectedLogIn app r tr b) :
    b = .done (.ok (failed badCredentials)) := by
  obtain ⟨hrun, q, newer, o, found, request, rfl, ho, hr⟩ := h
  rw [handle_of_logsIn request, logIn_eq_ask, respond_ask] at hrun
  have hlet : (App.respond (letIn app.services q.password found) pairJson).Reaches newer b :=
    hrun.of_first ho
  rw [letIn_of_rejects hr, respond_fail] at hlet
  exact (hlet.of_over (.finished (.ok (failed badCredentials)))).2

/-- The small world without its user. -/
def smallAbsentWorld : World := { smallWorld with directory := .empty }

/-- The small world with a user in its user's place that is not active, and whose stored password
cannot be read. -/
def smallInactiveWorld : World :=
  { smallWorld with
    directory := { smallDirectory with
      users := [⟨.ofNat 1, "Ada", "Ada@example.com", false, "?", "", ⟨0, 0⟩, ⟨0, 0⟩⟩] } }

/-- The lookup of the user of the small world. -/
def smallLookup (w : World) : Observation :=
  ⟨w, .directory (.byEmail "ada@example.com"), .works,
    .ok (w.directory.byEmail "ada@example.com"), w⟩

/-- The user of the small world is rejected wherever the directory says so. -/
theorem exists_small_rejected (w : World)
    (h : smallServices.Rejects "secret" (w.directory.byEmail "ada@example.com")) :
    ∃ b, RejectedLogIn smallApp smallLogInRequest [smallLookup w] b ∧
      Trace.Alone w [smallLookup w] := by
  obtain ⟨b, hp⟩ : ∃ b, play w [(false, .works)]
      ([], smallServices.logIn "ada@example.com" "secret") = some ([smallLookup w], b) := ⟨_, rfl⟩
  obtain ⟨hr, ha⟩ := reaches_of_play hp .start trivial
  have hrun : (smallApp.handle smallLogInRequest).Reaches [smallLookup w]
      (App.respond b pairJson) := by
    rw [handle_of_logsIn logsIn_smallLogInRequest]
    exact reaches_respond hr pairJson
  have hlooked : (smallLookup w).Saw (.directory (.byEmail "ada@example.com"))
      (.ok (w.directory.byEmail "ada@example.com")) := ⟨_, _, _, rfl⟩
  exact ⟨_, ⟨hrun, _, [], _, _, logsIn_smallLogInRequest, rfl, hlooked, h⟩, ha⟩

/-- A login calls the store only once an active user with this password was found and its roles were
resolved, fails on this side if that user's stored password cannot be read, and hands out a pair
exactly if an issuance was made and both of its records were kept. Requests to log in that are
rejected, to whichever services, are all answered with the same status and body. -/
theorem rejected_log_ins_are_answered_alike :
    (∀ (v : Services) (email password : String) (tr : Trace) (b : Action TokenPair),
      (v.logIn email password).Reaches tr b → LogInOutcome v email password tr b) ∧
    ∀ (app app' : App) (r r' : Request) (tr tr' : Trace) (b b' : Action Response),
      RejectedLogIn app r tr b → RejectedLogIn app' r' tr' b' →
      ∃ response, b = .done (.ok response) ∧ b' = .done (.ok response) ∧
        response.status = 401 := by
  refine ⟨fun v email password tr b h => logInOutcome_of_reaches h, ?_⟩
  intro app app' r r' tr tr' b b' h h'
  exact ⟨failed badCredentials, h.answer, h'.answer, rfl⟩

/-- A user that is not in the directory and one that is not active, and whose stored password cannot
be read, are answered alike; the user of the small world is let in. -/
theorem absent_and_inactive_are_answered_alike :
    (∃ tr tr' response, tr.Alone smallAbsentWorld ∧ tr'.Alone smallInactiveWorld ∧
      (smallApp.handle smallLogInRequest).Reaches tr (.done (.ok response)) ∧
      (smallApp.handle smallLogInRequest).Reaches tr' (.done (.ok response)) ∧
      response.status = 401) ∧
    ∃ pair newer first r, (smallServices.logIn "ada@example.com" "secret").Reaches (newer ++ first)
        (.done (.ok pair)) ∧
      Session.Admits smallServices "ada@example.com" "secret" first r ∧
      Session.Issued smallServices.issuer r newer := by
  obtain ⟨houtcome, hanswers⟩ := rejected_log_ins_are_answered_alike
  constructor
  · obtain ⟨b, h, ha⟩ := exists_small_rejected smallAbsentWorld .absent
    obtain ⟨b', h', ha'⟩ := exists_small_rejected smallInactiveWorld (.inactive rfl)
    obtain ⟨response, rfl, rfl, hs⟩ := hanswers _ _ _ _ _ _ _ _ h h'
    exact ⟨_, _, response, ha, ha', h.run, h'.run, hs⟩
  · obtain ⟨tr, pair, h⟩ : ∃ tr pair,
        smallLogIn smallServices (smallReactions .works .works) = some (tr, .done (.ok pair)) :=
      ⟨_, _, rfl⟩
    have hr := (reaches_of_play h .start trivial).1
    obtain ⟨newer, first, r, rfl, hadmits, hissued⟩ :=
      (houtcome _ _ _ _ _ hr).succeeds.1 ⟨pair, rfl⟩
    exact ⟨pair, newer, first, r, hr, hadmits, hissued⟩

end Gatehouse.Api
