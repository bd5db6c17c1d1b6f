import Gatehouse.Proofs.Directory.Roles
import Gatehouse.Proofs.Directory.Seeding

/-!
# What seeding leaves of the administrator

A run of seeding that completes with nothing in between leaves the user that it reports as an
`Administrator`: one who holds a role, and an active one, that grants every permission of the
catalog. It is a user who was made for the account, or the one who was there before, and then
unchanged (`Promoted`). The role can be active only if it was, where there was one, for seeding
leaves roles that it finds as they are (`Ready`).
-/

namespace Gatehouse

namespace Directory

variable {d : Directory} {now : Time.Instant} {id : Uuid} {call : Call}

/-! ## What a call leaves of users and roles -/

theorem grant_keeps (role permission : Uuid) :
    (d.keep (d.grant role permission)).2.users = d.users ∧
    (d.keep (d.grant role permission)).2.roles = d.roles := by
  unfold Directory.grant
  split
  · exact ⟨rfl, rfl⟩
  · split <;> exact ⟨rfl, rfl⟩

theorem assign_keeps (user role : Uuid) : (d.keep (d.assign user role)).2.users = d.users ∧
    (d.keep (d.assign user role)).2.roles = d.roles := by
  unfold Directory.assign
  split
  · exact ⟨rfl, rfl⟩
  · split <;> exact ⟨rfl, rfl⟩

/-- Users are changed only by the making of one. -/
theorem users_answer (h : ∀ u, call ≠ .createUser u) :
    (Directory.answer now id call d).2.users = d.users := by
  cases call with
  | byEmail | rolesOf | permissionsOf => rfl
  | ensureRole name =>
    show (d.ensureRole now id name).2.users = d.users
    unfold Directory.ensureRole
    split <;> rfl
  | ensurePermission name =>
    show (d.ensurePermission id name).2.users = d.users
    unfold Directory.ensurePermission
    split <;> rfl
  | grant role permission => exact (grant_keeps role permission).1
  | assign user role => exact (assign_keeps user role).1
  | createUser u => exact absurd rfl (h u)

/-- A role that was not there before is active. -/
theorem active_of_mem_answer {r : Role} (h : r ∈ (Directory.answer now id call d).2.roles) :
    r ∈ d.roles ∨ r.active = true := by
  cases call with
  | byEmail | rolesOf | permissionsOf => exact .inl h
  | ensureRole name =>
    change r ∈ (d.ensureRole now id name).2.roles at h
    unfold Directory.ensureRole at h
    split at h
    · exact .inl h
    · obtain rfl | h := mem_replaceOrAdd h
      · exact .inr rfl
      · exact .inl h
  | ensurePermission name =>
    change r ∈ (d.ensurePermission id name).2.roles at h
    unfold Directory.ensurePermission at h
    split at h <;> exact .inl h
  | grant role permission => exact .inl ((grant_keeps role permission).2 ▸ h)
  | assign user role => exact .inl ((assign_keeps user role).2 ▸ h)
  | createUser u =>
    change r ∈ (d.createUser u).2.roles at h
    unfold Directory.createUser at h
    split at h <;> exact .inl h

theorem byEmail_congr {email email' : String} (h : Ascii.equalFold email email' = true) :
    d.byEmail email' = d.byEmail email := by
  have he : email.toList.map Ascii.lower = email'.toList.map Ascii.lower := by
    simpa [Ascii.equalFold] using h
  simp only [byEmail, Ascii.equalFold, he]

/-- Whether a user holds a role that grants every permission of the catalog. -/
def Administrator (d : Directory) (user : Uuid) : Prop :=
  ∃ role, d.Holds user role ∧ ∀ permission ∈ Catalog.permissions, d.Grants role permission

namespace Sound

variable (h : d.Sound)
include h

theorem role?_eq {r : Role} (hr : r ∈ d.roles) : d.role? r.id = some r :=
  find?_of_nodup h.roles hr

theorem permission?_eq {p : Permission} (hp : p ∈ d.permissions) :
    d.permission? p.id = some p :=
  find?_of_nodup h.permissions hp

end Sound

end Directory

namespace Seeding

open Gatehouse.Action Directory

variable {w w' w₀ : World} {who : Option (String × String)} {tr : Trace} {hasher : PasswordHasher}
  {account : AdminAccount} {call : Call} {f : Fact}

/-! ## The invariant -/

/-- Whether a world is in order and the role of administrators, where there is one, is active. -/
structure Ready (w : World) : Prop extends Orderly w where
  active : ∀ r ∈ w.directory.roles, r.name = Catalog.adminRole → r.active = true

theorem Ready.keeps (h : Ready w) (he : w'.directory = w.directory) (hd : w.drawn ⊆ w'.drawn) :
    Ready w' :=
  ⟨h.toOrderly.keeps he hd, he ▸ h.active⟩

theorem Ready.change (h : Ready w) (hc : Change call f w w') : Ready w' := by
  refine ⟨h.toOrderly.change hc, fun r hr hn => ?_⟩
  obtain ⟨now, id, x, ha⟩ := hc.answer
  have hmem : r ∈ (Directory.answer now id call w.directory).2.roles := ha ▸ hr
  exact (active_of_mem_answer hmem).elim (fun hr => h.active r hr hn) fun ha => ha

/-- Whether moreover the users are those of another world. -/
def ReadyWithUsersOf (w₀ w : World) : Prop := Ready w ∧ w.directory.users = w₀.directory.users

theorem ready_steady : Steady who Ready where
  orderly _ h := h.toOrderly
  keeps _ _ h he hd := h.keeps he hd
  change _ _ _ _ h hc _ _ := h.change hc

/-- Until a user is made the users are as they were. -/
theorem readyWithUsersOf_steady : Steady who (ReadyWithUsersOf w₀) where
  orderly _ h := h.1.toOrderly
  keeps _ _ h he hd := ⟨h.1.keeps he hd, he ▸ h.2⟩
  change w w' call f h hc hcall _ := by
    obtain ⟨now, id, x, ha⟩ := hc.answer
    have hu : (Directory.answer now id call w.directory).2.users = w.directory.users :=
      users_answer hcall
    rw [ha] at hu
    exact ⟨h.1.change hc, hu.trans h.2⟩

theorem ready_makes : Makes who (ReadyWithUsersOf w₀) Ready :=
  fun _ _ _ h hc _ => h.1.change hc

/-! ## The administrator -/

/-- What is so of the user that a run reports. -/
inductive Promoted (hasher : PasswordHasher) (account : AdminAccount) (d₀ d : Directory) :
    AdminOutcome → Prop where
  | created {u : User} (hm : MadeFor hasher account u) (hu : d.byEmail account.email = some u)
      (ha : d.Administrator u.id) : Promoted hasher account d₀ d (.created u.id)
  | existing {u : User} (h₀ : d₀.byEmail account.email = some u)
      (hu : d.byEmail account.email = some u) (ha : d.Administrator u.id) :
      Promoted hasher account d₀ d (.existing u.id)

/-- A user who has the role of administrators holds it, and it grants what the catalog says. -/
theorem Ready.administrator {u : User} (h : Ready w) (hc : Catalogued w.directory)
    (hu : u ∈ w.directory.users)
    (ha : w.directory.Has (.assignment u.email Catalog.adminRole)) :
    w.directory.Administrator u.id := by
  obtain ⟨u', hu', r, hr, he, hn, ha⟩ := ha
  obtain rfl := h.unique.user_eq hu' hu (congrArg Ascii.lowerString he)
  refine ⟨r.id, ⟨ha, r, h.sound.role?_eq hr, h.active r hr hn⟩, fun permission hp => ?_⟩
  obtain ⟨r', hr', p, hp, hn', hname, hg⟩ := (hc.roles _ mem_roles_adminRole).2 permission hp
  obtain rfl := h.unique.role_eq hr' hr (hn'.trans hn.symm)
  exact ⟨p.id, p, hg, h.sound.permission?_eq hp, hname⟩

theorem Secured.promoted {outcome : AdminOutcome} (hc : Catalogued (after w tr))
    (h : Secured (ReadyWithUsersOf w) Ready hasher account w tr outcome) :
    Promoted hasher account w.directory (after w tr) outcome := by
  cases h with
  | @existing u h hu ha =>
    have hsame : w.directory.byEmail account.email = some u := by
      rw [← hu, byEmail, byEmail, h.stage.2]
    exact .existing hsame hu (h.stage.1.administrator hc (of_byEmail hu).1 ha)
  | created h _ _ hm _ hu ha =>
    exact .created hm hu (h.stage.administrator hc (of_byEmail hu).1 ha)

/-- The terms of seeding with nothing in between but the passing of time. -/
def solitaryTerms (w : World) : Terms where
  rely tr o := (tr.world w).Waits o.before ∧ o.Truthful
  guarantee _ _ := True

/-- The user that a run reports is an administrator: one who was made for the account, or who was
there before and is unchanged. -/
theorem promoted_of_seed {report : Report} (h : Ready w)
    (hr : (seed hasher (some account)).Reaches tr (done (.ok report))) (hs : tr.Solitary w) :
    ∃ outcome, report.admin = some outcome ∧
      Promoted hasher account w.directory (after w tr) outcome := by
  have hrules : (some account).elim [] AdminAccount.faults = [] := by
    by_contra hf
    rw [seed_eq_of_faults hf] at hr
    cases (Reaches.of_over (.finished _) hr).2
  have hI : Steady (named (some account)) (ReadyWithUsersOf w) := readyWithUsersOf_steady
  have hJ : Steady (named (some account)) Ready := ready_steady
  have hT : Admits (solitaryTerms w) (ReadyWithUsersOf w) w :=
    admits_alone (fun _ _ hr => hr) hI fun _ _ _ => trivial
  have hTJ : Admits (solitaryTerms w) Ready w :=
    admits_alone (fun _ _ hr => hr) hJ fun _ _ _ => trivial
  have hend := (hr.along (along_seed_of hT hI hTJ hJ ready_makes hrules
    ⟨⟨h, rfl⟩, works_nil⟩) hs).1
  cases hend with
  | nobody ha => cases ha
  | secured ha hc hsec =>
    cases ha
    exact ⟨_, rfl, hsec.promoted hc⟩

end Seeding

end Gatehouse
