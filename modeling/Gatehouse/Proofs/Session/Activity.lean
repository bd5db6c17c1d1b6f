import Gatehouse.Proofs.Run.Activity
import Gatehouse.Proofs.Session.Lineage

/-!
# Pairs and the activity of users

A login looks up its user and goes on only if the user is active then; the exchange of a refresh
token looks up no user. So every pair that is handed out goes back to a login that found its user
active, maybe long ago (`pair_goes_back_to_active_logIn`), and whoever is active makes no difference
to any request but a login.
-/

namespace Gatehouse

/-- Whether a user is there and active. -/
def Directory.HasActive (d : Directory) (id : Uuid) : Prop :=
  ∃ user ∈ d.users, user.id = id ∧ user.active = true

namespace Session

open Gatehouse.Action RunState

variable {v : Services} {S T : RunState (workload v)} {a b : Nat} {t u : Thread (workload v)}
  {m : Issuance} {older : Trace} {email password : String}

/-- Whether a login made an issuance for a user that it found to be active. -/
structure FoundActive (S : RunState (workload v)) (b : Nat) (u : Thread (workload v))
    (m : Issuance) (l : Observation) : Prop where
  thread : S.threads[b]? = some u
  looked : l ∈ u.trace
  request : ∃ email password, u.request = .logIn email password ∧
    l.question = .directory (.byEmail email)
  minted : Minted v.issuer m u.trace
  active : l.before.directory.HasActive m.record.subject

theorem exists_foundActive (hS : S.Reachable) (hu : S.threads[b]? = some u)
    (hreq : u.request = .logIn email password) (h : v.LogsIn email password m older)
    (hs : older <:+ u.trace) : ∃ l, FoundActive S b u m l := by
  obtain ⟨l, user, hl, hsaw, hcan, -, hid⟩ := h.found
  have hmem : l ∈ u.trace := hs.subset hl
  refine ⟨l, hu, hmem, ⟨email, password, hreq, hsaw.question⟩, h.minted.extend hs, ?_⟩
  obtain ⟨newer, older', hnew⟩ := List.append_of_mem hmem
  obtain ⟨S₁, S₂, -, -, hobs, -⟩ := hS.observed hu ⟨newer, hnew.symm⟩
  have htr := hobs.truthful
  obtain ⟨w, how, w', rfl⟩ := hsaw
  obtain ⟨id, hx⟩ := htr.directory_ok
  have hfind : w.directory.byEmail email = some user :=
    Except.ok.inj (congrArg Prod.fst hx)
  exact ⟨user, List.mem_of_find?_eq_some hfind, hid, hcan⟩

/-- Only a login finds users, and no request adds one. -/
theorem heedless_of_not_logIn {r : Request} (h : ∀ email password, r ≠ .logIn email password) :
    Heedless (W := workload v) r := by
  have hT : FreeButToKeep ⟨fun _ _ => True, fun _ q => q.LeavesUsers⟩ := by
    rintro tr q (hq | ⟨key, rfl⟩)
    · exact hq.leavesUsers
    · trivial
  by_cases ho : r.Opens
  · cases r with
    | logIn email password => exact absurd rfl (h email password)
    | refresh token =>
      refine Services.along_refresh_of hT.freeToLook.freeToAsk (fun _ _ _ _ => trivial)
        (fun _ _ _ _ _ _ _ _ _ => trivial) fun c r m older h => along_bind.2 ?_
      refine along_keepPair (fun _ => trivial) (fun _ _ _ _ _ => trivial)
        (fun _ _ _ _ _ _ _ _ => trivial) fun newer out _ _ => ?_
      rcases out with (e | pair) | _
      · trivial
      · exact along_rotate_free hT _ _ _
      · trivial
    | _ => cases ho
  · exact along_request_free hT ho

/-- Every pair that is handed out goes back to a login that found its user active. The pair of a
login is for a user that is active when the roles are resolved, unless the users have changed since
they were looked up. But whoever is active makes no difference to the requests other than logins: as
long as no login makes a step, every run is also possible with any other activity of the users. -/
theorem pair_goes_back_to_active_logIn :
    (∀ (S : RunState (workload v)) (a : Nat) (t : Thread (workload v)) (pair : TokenPair),
      S.Reachable → S.threads[a]? = some t → Returned pair t →
      ∃ m root b u l, pair = m.pair v.issuer ∧ Minted v.issuer m t.trace ∧ Descends S m root ∧
        m.record.subject = root.record.subject ∧ FoundActive S b u root l) ∧
    (∀ (S : RunState (workload v)) (a : Nat) (t : Thread (workload v)) (pair : TokenPair)
      (email password : String), S.Reachable → S.threads[a]? = some t → Returned pair t →
      t.request = .logIn email password →
      ∃ m l, pair = m.pair v.issuer ∧ FoundActive S a t m l ∧
        (m.resolved.users = l.before.directory.users → m.resolved.HasActive m.record.subject)) ∧
    (∀ (S T : RunState (workload v)) (f : Uuid → Bool), S.Reachable → Runs S T →
      (∀ (i : Nat) (t : Thread (workload v)), S.threads[i]? = some t →
        (∃ email password, t.request = .logIn email password) → Over t) →
      (∀ (i : Nat) (t : Thread (workload v)), T.threads[i]? = some t → S.threads.length ≤ i →
        ∀ email password, t.request ≠ .logIn email password) →
      ∃ T', Runs { S with world := S.world.withActivity f } T' ∧ Alike f T T') := by
  refine ⟨fun S a t pair hS ht hp => ?_, fun S a t pair email password hS ht hp hreq => ?_,
    fun S T f hS hr hover hnew => ?_⟩
  · obtain ⟨m, ho, rfl⟩ := hp.origin hS ht
    obtain ⟨root, hd⟩ := (traced_of_reachable hS).descends ht ho
    obtain ⟨b, u, email, password, older, hu, hreq, hl, hs⟩ := hd.logsIn
    obtain ⟨l, hl⟩ := exists_foundActive hS hu hreq hl hs
    exact ⟨m, root, b, u, l, rfl, ho.minted, hd, hd.record_eq.1, hl⟩
  · obtain ⟨m, ho, rfl⟩ := hp.origin hS ht
    rw [hreq] at ho
    cases ho with
    | logIn hl hs =>
      obtain ⟨l, hl⟩ := exists_foundActive hS ht hreq hl hs
      refine ⟨m, l, rfl, hl, fun hsame => ?_⟩
      obtain ⟨user, hmem, huser⟩ := hl.active
      exact ⟨user, hsame ▸ hmem, huser⟩
  · refine hr.exists_alike hS f (fun i t ht => ?_) fun i t ht hi =>
      heedless_of_not_logIn (hnew i t ht hi)
    by_cases hlog : ∃ email password, t.request = .logIn email password
    · exact .inr (hover i t ht hlog)
    · refine .inl (heedless_of_not_logIn fun email password he => ?_)
      exact hlog ⟨email, password, he⟩

/-- The refresh token of a user that has been made inactive is exchanged for a new pair. -/
theorem small_exchange_of_inactive_user :
    ∃ (S : RunState (workload smallServices)) (t u : Thread (workload smallServices))
      (pair : TokenPair) (m root : Issuance) (l : Observation), S.Reachable ∧
      S.threads[1]? = some t ∧ Returned pair t ∧ pair = m.pair smallServices.issuer ∧
      ¬m.resolved.HasActive m.record.subject ∧ Descends S m root ∧ FoundActive S 0 u root l := by
  obtain ⟨tr₁, pair, tr₂, pair', text, hS₀, h, hinactive, -⟩ := exists_small_exchange false
  let S₀ := smallStateAfter tr₁ pair false
  let S : RunState (workload smallServices) := ⟨tr₂.world S₀.world,
    S₀.threads ++ [⟨.refresh (pair.token .refresh).text, tr₂, .done (.ok pair')⟩]⟩
  have hS : S.Reachable := hS₀.runs (Runs.played (W := workload smallServices) (S := S₀)
    (r := .refresh (pair.token .refresh).text) h)
  obtain ⟨m, root, b, u, l, hpair, hm, hd, -, hfound⟩ :=
    pair_goes_back_to_active_logIn.1 S 1 _ pair' hS rfl .refresh
  refine ⟨S, _, u, pair', m, root, l, hS, rfl, .refresh, hpair, ?_, hd, ?_⟩
  · obtain ⟨newer, o, older, hs, -, hres⟩ := hm.observed
    have ho : o ∈ tr₂ := hs.subset (List.mem_append_right _ List.mem_cons_self)
    have hnone := hinactive o ho
    rw [hres.directory] at hnone
    rintro ⟨user, hmem, -, hactive⟩
    have hin : user.active ∈ m.resolved.users.map User.active := List.mem_map_of_mem hmem
    rw [hnone, hactive] at hin
    simp at hin
  · -- the login is the only one
    obtain ⟨email, password, hreq, -⟩ := hfound.request
    have hu := hfound.thread
    obtain _ | _ | b := b
    · exact hfound
    · cases hu
      cases hreq
    · cases hu

end Session

end Gatehouse
