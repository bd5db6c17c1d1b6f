import Gatehouse.Proofs.Run.State

/-!
# Runs and the activity of users

Only the lookup of a user by its address tells whether the user is active. So a request that does
not look up users goes the same whoever is active: as long as no other request makes a step, every
run is also a run from the same state with any other activity of the users, with the same answers
and the same results (`Runs.exists_alike`).
-/

namespace Gatehouse

/-- The user with its activity set. -/
def User.withActivity (f : Uuid → Bool) (u : User) : User := { u with active := f u.id }

@[simp] theorem User.id_withActivity (f : Uuid → Bool) (u : User) : (u.withActivity f).id = u.id :=
  rfl

/-! ## The directory -/

namespace Directory

/-- The directory with the activity of all users set. -/
def withActivity (f : Uuid → Bool) (d : Directory) : Directory :=
  { d with users := d.users.map (User.withActivity f) }

/-- Whether a call neither finds nor adds a user. -/
def Call.LeavesUsers : Call → Prop
  | .byEmail _ | .createUser _ => False
  | _ => True

/-- The edit with the activity of the user that it sets. -/
def Edit.withActivity (f : Uuid → Bool) : Edit → Edit
  | .insertUser user => .insertUser (user.withActivity f)
  | .setActive user _ => .setActive user (f user)
  | e => e

variable {f : Uuid → Bool} {d : Directory}

theorem map_replaceOrAdd {α : Type} {key : α → Uuid} {g : α → α} (hg : ∀ x, key (g x) = key x)
    (x : α) (xs : List α) : (replaceOrAdd key x xs).map g = replaceOrAdd key (g x) (xs.map g) := by
  induction xs with
  | nil => rfl
  | cons y ys ih =>
    simp only [replaceOrAdd, List.map_cons, hg]
    split
    · rfl
    · rw [List.map_cons, ih]

theorem insertUser_withActivity (u : User) :
    (d.insertUser u).withActivity f = (d.withActivity f).insertUser (u.withActivity f) := by
  simp only [insertUser, withActivity, map_replaceOrAdd (User.id_withActivity f)]

theorem user?_withActivity (id : Uuid) :
    (d.withActivity f).user? id = (d.user? id).map (User.withActivity f) := by
  simp only [user?, withActivity, List.find?_map]
  rfl

theorem keep_withActivity {x y : Except Failure Directory} (h : y = x.map (withActivity f)) :
    (d.withActivity f).keep y = ((d.keep x).1, (d.keep x).2.withActivity f) := by
  subst h
  cases x <;> rfl

theorem grant_withActivity (role permission : Uuid) :
    (d.withActivity f).grant role permission = (d.grant role permission).map (withActivity f) := by
  have hrole : (d.withActivity f).role? role = d.role? role := rfl
  have hperm : (d.withActivity f).permission? permission = d.permission? permission := rfl
  simp only [grant, hrole, hperm]
  repeat' split
  all_goals rfl

theorem assign_withActivity (user role : Uuid) :
    (d.withActivity f).assign user role = (d.assign user role).map (withActivity f) := by
  have hrole : (d.withActivity f).role? role = d.role? role := rfl
  simp only [assign, user?_withActivity, Option.isNone_map, hrole]
  repeat' split
  all_goals rfl

theorem setActive_withActivity (user : Uuid) (active : Bool) :
    (d.withActivity f).setActive user (f user) =
      (d.setActive user active).map (withActivity f) := by
  simp only [setActive, user?_withActivity]
  cases hu : d.user? user with
  | none => rfl
  | some u =>
    obtain rfl : u.id = user := by simpa using List.find?_some hu
    simp only [Option.map_some, Except.map, insertUser_withActivity]
    rfl

/-- What a call that leaves the users alone answers does not depend on who is active. -/
theorem answer_withActivity {call : Call} (h : call.LeavesUsers) (now : Time.Instant)
    (fresh : Uuid) : answer now fresh call (d.withActivity f) =
      ((answer now fresh call d).1, (answer now fresh call d).2.withActivity f) := by
  cases call with
  | byEmail email => cases h
  | createUser u => cases h
  | rolesOf user => rfl
  | permissionsOf role => rfl
  | ensureRole name =>
    have hroles : (d.withActivity f).roles = d.roles := rfl
    simp only [answer, ensureRole, hroles]
    cases d.roles.find? (·.name = name) <;> rfl
  | ensurePermission name =>
    have hperms : (d.withActivity f).permissions = d.permissions := rfl
    simp only [answer, ensurePermission, hperms]
    cases d.permissions.find? (·.name = name) <;> rfl
  | grant role permission => exact keep_withActivity (grant_withActivity role permission)
  | assign user role => exact keep_withActivity (assign_withActivity user role)

theorem edit_withActivity (e : Edit) :
    (d.edit e).withActivity f = (d.withActivity f).edit (e.withActivity f) := by
  cases e with
  | insertUser user => exact insertUser_withActivity user
  | setActive user active =>
    simp only [edit, Edit.withActivity, keep_withActivity (setActive_withActivity user active)]
  | assign user role =>
    simp only [edit, Edit.withActivity, keep_withActivity (assign_withActivity user role)]
  | grant role permission =>
    simp only [edit, Edit.withActivity, keep_withActivity (grant_withActivity role permission)]
  | insertRole role => rfl
  | insertPermission permission => rfl
  | revoke role permission => rfl

end Directory

/-! ## The world -/

/-- The world with the activity of all users set. -/
def World.withActivity (f : Uuid → Bool) (w : World) : World :=
  { w with directory := w.directory.withActivity f }

/-- Whether a question neither finds nor adds a user. -/
def Question.LeavesUsers : Question → Prop
  | .directory call => call.LeavesUsers
  | _ => True

theorem Question.Looks.leavesUsers {q : Question} (h : q.Looks) : q.LeavesUsers := by
  unfold Question.Looks at h
  split at h <;> trivial

/-- What such a question is answered does not depend on who is active. -/
theorem World.answer?_withActivity {f : Uuid → Bool} {w : World} {how : Reaction} {q : Question}
    (h : q.LeavesUsers) {x : q.Answer} {after : World} (ha : w.answer? how q = some (x, after)) :
    (w.withActivity f).answer? how q = some (x, after.withActivity f) := by
  cases q with
  | directory call =>
    cases how <;>
      simp only [answer?, Option.some.injEq, Prod.mk.injEq, reduceCtorEq,
        Option.ite_none_left_eq_some] at ha ⊢
    · obtain ⟨hm, rfl, rfl⟩ := ha
      refine ⟨hm, ?_⟩
      simp only [withActivity, Directory.answer_withActivity h]
      trivial
    · obtain ⟨rfl, rfl⟩ := ha
      exact ⟨rfl, rfl⟩
    · obtain ⟨hd, rfl, rfl⟩ := ha
      refine ⟨hd, ?_⟩
      simp only [withActivity, Directory.answer_withActivity h]
      trivial
  | _ =>
    cases how <;>
      simp only [answer?, Option.some.injEq, Prod.mk.injEq, reduceCtorEq,
        Option.ite_none_left_eq_some] at ha ⊢
    all_goals first
      | (obtain ⟨rfl, rfl⟩ := ha; exact ⟨rfl, rfl⟩)
      | (obtain ⟨hd, rfl, rfl⟩ := ha; exact ⟨hd, rfl, rfl⟩)

/-! ## Runs -/

namespace RunState

open Gatehouse.Action

variable {W : Workload} {S S' T : RunState W} {f : Uuid → Bool}

/-- Whether a request never finds or adds a user. -/
def Heedless (r : W.Request) : Prop :=
  (W.action r).Along ⟨fun _ _ => True, fun _ q => q.LeavesUsers⟩ (fun _ _ => True) []

/-- Whether a request never finds or adds a user from now on. -/
def Aloof (t : Thread W) : Prop := Heedless t.request ∨ ∀ second, t.rest.offer? second = none

/-- Whether a state is like another one with the activity of all users set: its requests have come
to the same, though what they observed may tell of other users. -/
structure Alike (f : Uuid → Bool) (S S' : RunState W) : Prop where
  world : S'.world = S.world.withActivity f
  length : S'.threads.length = S.threads.length
  threads : ∀ (i : Nat) (t : Thread W), S.threads[i]? = some t →
    ∃ tr, S'.threads[i]? = some ⟨t.request, tr, t.rest⟩

theorem Alike.step (h : Alike f S S') (hS : S.Reachable) (hstep : Step S T)
    (hq : ∀ (i : Nat) t, S.threads[i]? = some t → Aloof t) : ∃ T', Step S' T' ∧ Alike f T T' := by
  cases hstep with
  | start r =>
    refine ⟨_, .start S' r, h.world, by simp [h.length], fun i t ht => ?_⟩
    dsimp only at ht ⊢
    rw [List.getElem?_append] at ht ⊢
    rw [h.length]
    split at ht
    · rename_i hi
      rw [if_pos hi]
      exact h.threads i t ht
    · rename_i hi
      rw [if_neg hi]
      obtain rfl := List.mem_singleton.1 (List.mem_of_getElem? ht)
      exact ⟨[], ht⟩
  | @answer i r tr a second q next x how w ht ho hw =>
    have hleaves : q.LeavesUsers := by
      obtain hr | hover := hq i _ ht
      · have halong := ((hS.reaches ht).along hr (Trace.all_true _)).1
        exact (halong.step ho).1
      · exact absurd ho (by simp [hover second])
    obtain ⟨tr', ht'⟩ := h.threads i _ ht
    have hw' := World.answer?_withActivity (f := f) hleaves hw
    rw [← h.world] at hw'
    refine ⟨_, .answer ht' ho hw', rfl, by simp [h.length], fun j t hj => ?_⟩
    dsimp only at hj ⊢
    have hi := (List.getElem?_eq_some_iff.1 ht).1
    by_cases hij : i = j
    · subst hij
      rw [List.getElem?_set_self hi] at hj
      rw [List.getElem?_set_self (by rw [h.length]; exact hi)]
      cases hj
      exact ⟨_, rfl⟩
    · rw [List.getElem?_set_ne hij] at hj ⊢
      exact h.threads j t hj
  | edit e =>
    refine ⟨_, .edit S' (e.withActivity f), ?_, h.length, h.threads⟩
    rw [h.world]
    exact congrArg (fun d => ({ S.world with directory := d } : World))
      (Directory.edit_withActivity e).symm
  | tick nanos =>
    refine ⟨_, .tick S' nanos, ?_, h.length, h.threads⟩
    rw [h.world]
    rfl

/-- A run in which only such requests make steps is possible whoever is active. -/
theorem Runs.exists_alike (h : Runs S T) (hS : S.Reachable) (f : Uuid → Bool)
    (hold : ∀ (i : Nat) t, S.threads[i]? = some t → Aloof t)
    (hnew : ∀ (i : Nat) t, T.threads[i]? = some t → S.threads.length ≤ i → Heedless t.request) :
    ∃ T', Runs { S with world := S.world.withActivity f } T' ∧ Alike f T T' := by
  induction h with
  | refl => exact ⟨_, .refl, rfl, rfl, fun i t ht => ⟨t.trace, ht⟩⟩
  | @tail T U hr hs ih =>
    obtain ⟨T', hr', halike⟩ := ih fun i t ht hi => by
      obtain ⟨u, hu, hreq, -⟩ := hs.thread ht
      exact hreq ▸ hnew i u hu hi
    obtain ⟨U', hs', halike'⟩ := halike.step (hS.runs hr) hs fun i t ht => by
      by_cases hi : i < S.threads.length
      · have h₀ : S.threads[i]? = some S.threads[i] := List.getElem?_eq_getElem hi
        obtain hreq | hover := hold i _ h₀
        · obtain ⟨t', ht', hreq', -⟩ := Runs.thread hr h₀
          cases ht.symm.trans ht'
          exact .inl (hreq' ▸ hreq)
        · cases ht.symm.trans (Runs.over hr h₀ hover)
          exact .inr hover
      · obtain ⟨u, hu, hreq, -⟩ := hs.thread ht
        exact .inl (hreq ▸ hnew i u hu (by omega))
    exact ⟨U', hr'.tail hs', halike'⟩

end RunState

end Gatehouse
