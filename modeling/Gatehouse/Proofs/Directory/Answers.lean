import Mathlib.Data.List.Count
import Gatehouse.Proofs.Directory.Operations

/-!
# What a directory answers, by what was done to it

The lookups of a directory are read off its deeds: which roles a user was assigned and when first,
which of granting and revoking came last, and what was put last under an identifier. Each is proved
for one deed (`assignedTo_act`, `mem_grants_act`, `role?_act`) and then for all of them by
induction (`assignedTo_replay`, `mem_grants_replay`, `role?_replay`); `Sound.follows` joins them to
what the lookups answer.
-/

namespace Gatehouse.Directory

namespace Deed

/-- The role that was put under an identifier. -/
def role? (id : Uuid) : Deed → Option Role
  | .role r => if r.id = id then some r else none
  | _ => none

/-- The permission that was put under an identifier. -/
def permission? (id : Uuid) : Deed → Option Permission
  | .permission p => if p.id = id then some p else none
  | _ => none

/-- The role that was assigned to a user. -/
def assigned? (user : Uuid) : Deed → Option Uuid
  | .assigned u r => if u = user then some r else none
  | _ => none

/-- Whether a permission was granted to a role or taken from it. -/
def granted? (role permission : Uuid) : Deed → Option Bool
  | .granted r p => if (r, p) = (role, permission) then some true else none
  | .revoked r p => if (r, p) = (role, permission) then some false else none
  | _ => none

end Deed

/-- The roles that are assigned to a user, in the order of assignment. -/
def assignedTo (d : Directory) (user : Uuid) : List Uuid :=
  (d.assignments.filter (·.1 = user)).map (·.2)

variable {d : Directory}

/-! ## One deed -/

theorem role?_act (a : Deed) (id : Uuid) : (d.act a).role? id = (a.role? id).or (d.role? id) := by
  cases a with
  | role r => exact find?_replaceOrAdd id
  | user | permission | assigned | granted | revoked => rfl

theorem permission?_act (a : Deed) (id : Uuid) :
    (d.act a).permission? id = (a.permission? id).or (d.permission? id) := by
  cases a with
  | permission p => exact find?_replaceOrAdd id
  | user | role | assigned | granted | revoked => rfl

theorem mem_assignedTo {user role : Uuid} :
    role ∈ d.assignedTo user ↔ (user, role) ∈ d.assignments := by
  simp [assignedTo]

theorem assignedTo_act (a : Deed) (user : Uuid) : (d.act a).assignedTo user =
    d.assignedTo user ++ (a.assigned? user).toList.removeAll (d.assignedTo user) := by
  cases a with
  | assigned u role =>
    by_cases hu : u = user
    · subst hu
      by_cases hm : (u, role) ∈ d.assignments
      · simp [act, addOnce, hm, Deed.assigned?, List.removeAll, mem_assignedTo]
      · simp [act, addOnce, hm, Deed.assigned?, List.removeAll, assignedTo]
    · by_cases hm : (u, role) ∈ d.assignments
      · simp [act, addOnce, hm, Deed.assigned?, hu]
      · simp [act, addOnce, hm, Deed.assigned?, assignedTo, hu]
  | user | role | permission | granted | revoked => exact (List.append_nil _).symm

theorem mem_grants_act (a : Deed) (role permission : Uuid) : (role, permission) ∈ (d.act a).grants ↔
    (a.granted? role permission).getD (decide ((role, permission) ∈ d.grants)) = true := by
  cases a with
  | granted r p =>
    by_cases h : (r, p) = (role, permission)
    · simp [act, mem_addOnce, Deed.granted?, h]
    · simp [act, mem_addOnce, Deed.granted?, h, Ne.symm h]
  | revoked r p =>
    by_cases h : (r, p) = (role, permission)
    · simp [act, revoke, Deed.granted?, h]
    · simp [act, revoke, Deed.granted?, h, Ne.symm h]
  | user | role | permission | assigned => exact decide_eq_true_iff.symm

/-! ## All deeds -/

theorem replay_append (done : List Deed) (a : Deed) :
    replay (done ++ [a]) = (replay done).act a := by
  simp [replay]

/-- What a deed sets, and all others leave, is as the last such deed set it. -/
theorem replay_eq_getLast? {β : Type} (view : Directory → Option β) {sets : Deed → Option β}
    (hempty : view empty = none) (hact : ∀ d a, view (act d a) = (sets a).or (view d))
    (done : List Deed) : view (replay done) = (done.filterMap sets).getLast? := by
  induction done using List.reverseRecOn with
  | nil => exact hempty
  | append_singleton done a ih =>
    rw [replay_append, hact, ih, List.filterMap_append, List.getLast?_append]
    cases h : sets a <;> simp [h]

theorem role?_replay (done : List Deed) (id : Uuid) :
    (replay done).role? id = (done.filterMap (·.role? id)).getLast? :=
  replay_eq_getLast? (·.role? id) rfl (fun _ a => role?_act a id) done

theorem permission?_replay (done : List Deed) (id : Uuid) :
    (replay done).permission? id = (done.filterMap (·.permission? id)).getLast? :=
  replay_eq_getLast? (·.permission? id) rfl (fun _ a => permission?_act a id) done

theorem assignedTo_replay (done : List Deed) (user : Uuid) :
    (replay done).assignedTo user = (done.filterMap (·.assigned? user)).eraseDups := by
  induction done using List.reverseRecOn with
  | nil => rfl
  | append_singleton done a ih =>
    rw [replay_append, assignedTo_act, ih, List.filterMap_append, List.eraseDups_append]
    cases h : a.assigned? user with
    | none => simp [h]
    | some role =>
      by_cases hm : role ∈ done.filterMap (·.assigned? user) <;>
        simp_all [List.removeAll, List.eraseDups_cons]

theorem mem_grants_replay (done : List Deed) (role permission : Uuid) :
    (role, permission) ∈ (replay done).grants ↔
      (done.filterMap (·.granted? role permission)).getLast? = some true := by
  induction done using List.reverseRecOn with
  | nil => simp [replay, empty]
  | append_singleton done a ih =>
    rw [replay_append, mem_grants_act, List.filterMap_append, List.getLast?_append]
    cases h : a.granted? role permission <;> simp [h, ih]

/-! ## Lookups -/

theorem rolesOf_eq (d : Directory) (user : Uuid) :
    d.rolesOf user = (((d.assignedTo user).filterMap d.role?).filter (·.active)).map Role.ref := by
  rw [rolesOf, assignedTo, List.filterMap_map]
  rfl

/-- The permissions of a role stand by name. -/
theorem pairwise_permissionsOf (d : Directory) (role : Uuid) :
    (d.permissionsOf role).Pairwise fun p q => p.name ≤ q.name := by
  have h : (d.permissionsOf role).Pairwise fun p q => decide (p.name ≤ q.name) = true :=
    List.pairwise_mergeSort
      (fun p q r hpq hqr => by
        simpa using String.le_trans (of_decide_eq_true hpq) (of_decide_eq_true hqr))
      (fun p q => by simpa using String.le_total p.name q.name) _
  exact h.imp of_decide_eq_true

theorem id_of_permission? {id : Uuid} {p : Permission} (h : d.permission? id = some p) :
    p.id = id := by
  simpa using List.find?_some h

/-- Before they are sorted, the permissions of one identifier are those of its grant. -/
theorem filter_granted (d : Directory) (role permission : Uuid) :
    ((d.grants.filter (·.1 = role)).filterMap fun g => d.permission? g.2).filter
        (·.id = permission) =
      (d.grants.filter (· = (role, permission))).filterMap fun g => d.permission? g.2 := by
  rw [List.filter_filterMap, List.filterMap_filter, List.filterMap_filter]
  refine congrArg (d.grants.filterMap ·) (funext fun g => ?_)
  obtain ⟨r, id⟩ := g
  cases hp : d.permission? id with
  | none => simp
  | some p =>
    obtain rfl := id_of_permission? hp
    by_cases hr : r = role <;> by_cases hid : p.id = permission <;> simp [hr, hid]

/-- A permission that is granted to a role stands among its permissions once, any other not. -/
theorem Sound.filter_permissionsOf (h : d.Sound) (role permission : Uuid) :
    (d.permissionsOf role).filter (·.id = permission) =
      (if (role, permission) ∈ d.grants then d.permission? permission else none).toList := by
  have hgrant : d.grants.filter (· = (role, permission)) =
      List.replicate (if (role, permission) ∈ d.grants then 1 else 0) (role, permission) := by
    rw [← h.grantedOnce.count, List.filter_eq]
  have hperm : ((d.permissionsOf role).filter (·.id = permission)).Perm
      (if (role, permission) ∈ d.grants then d.permission? permission else none).toList := by
    refine ((List.mergeSort_perm _ _).filter _).trans (.of_eq ?_)
    rw [filter_granted, hgrant]
    split
    · cases hp : d.permission? permission <;> simp [hp]
    · rfl
  cases ho : if (role, permission) ∈ d.grants then d.permission? permission else none with
  | none =>
    rw [ho] at hperm
    exact hperm.eq_nil
  | some p =>
    rw [ho] at hperm
    exact List.perm_singleton.1 hperm

/-! ## Operations -/

/-- Whether what a directory answers follows from what was done to it. -/
structure Follows (d : Directory) (done : List Deed) : Prop where
  /-- The roles of a user are those that were assigned to it, each where it was assigned first, as
  far as they are active. -/
  rolesOf : ∀ user, d.rolesOf user =
    (((done.filterMap (·.assigned? user)).eraseDups.filterMap d.role?).filter (·.active)).map
      Role.ref
  /-- A permission that was granted to a role, and not taken from it since, is listed once. -/
  granted : ∀ role permission, (done.filterMap (·.granted? role permission)).getLast? = some true →
    ∃ p, d.permission? permission = some p ∧
      (d.permissionsOf role).filter (·.id = permission) = [p]
  /-- Any other permission is not listed. -/
  ungranted : ∀ role permission,
    (done.filterMap (·.granted? role permission)).getLast? ≠ some true →
      (d.permissionsOf role).filter (·.id = permission) = []
  sorted : ∀ role, (d.permissionsOf role).Pairwise fun p q => p.name ≤ q.name
  /-- A role is as it was put last. -/
  role? : ∀ id, d.role? id = (done.filterMap (·.role? id)).getLast?
  permission? : ∀ id, d.permission? id = (done.filterMap (·.permission? id)).getLast?
  assignments : ∀ a ∈ d.assignments, (d.user? a.1).isSome ∧ (d.role? a.2).isSome
  grants : ∀ g ∈ d.grants, (d.role? g.1).isSome ∧ (d.permission? g.2).isSome

theorem Sound.follows {done : List Deed} (h : (replay done).Sound) :
    (replay done).Follows done where
  rolesOf user := by rw [rolesOf_eq, assignedTo_replay]
  granted role permission hlast := by
    have hmem := (mem_grants_replay done role permission).2 hlast
    obtain ⟨p, hp⟩ := Option.isSome_iff_exists.1 (permission?_isSome_iff.2 (h.grants _ hmem).2)
    refine ⟨p, hp, ?_⟩
    rw [h.filter_permissionsOf, if_pos hmem, hp]
    rfl
  ungranted role permission hlast := by
    rw [h.filter_permissionsOf, if_neg fun hmem => hlast ((mem_grants_replay done _ _).1 hmem)]
    rfl
  sorted := pairwise_permissionsOf _
  role? := role?_replay done
  permission? := permission?_replay done
  assignments a ha := ⟨user?_isSome_iff.2 (h.assignments a ha).1,
    role?_isSome_iff.2 (h.assignments a ha).2⟩
  grants g hg := ⟨role?_isSome_iff.2 (h.grants g hg).1,
    permission?_isSome_iff.2 (h.grants g hg).2⟩

/-- After any operations a directory answers as it follows from what they did; the next operation
succeeds if what it asks for is there, and else says that something is missing and changes
nothing. -/
theorem follows_deeds (ops : List Operation) :
    (after ops).Follows (deeds ops) ∧
      ∀ o, (after ops).Provides o ∧ ((after ops).perform o).1 = .ok () ∨
        ¬(after ops).Provides o ∧
          ∃ message, (after ops).perform o = (.error (.missing message), after ops) := by
  refine ⟨?_, fun o => ?_⟩
  · have hsound := (reached_after ops).sound
    rw [after_eq_replay] at hsound ⊢
    exact hsound.follows
  · have hsettles := (after ops).settles_perform o
    by_cases h : (after ops).Provides o
    · exact .inl ⟨h, congrArg Prod.fst (hsettles.done h)⟩
    · exact .inr ⟨h, hsettles.refused h⟩

/-- A user that is given two roles, one of them twice, of which one is renamed later; a permission
that is granted, taken away and granted again, and one that is taken away. -/
def smallHistory : List Operation :=
  [.edit (.insertUser ⟨.ofNat 1, "Ada", "ada@example.com", true, "", "", ⟨0, 0⟩, ⟨0, 0⟩⟩),
    .edit (.insertRole ⟨.ofNat 2, "Editor", true, ⟨0, 0⟩, ⟨0, 0⟩⟩),
    .call ⟨0, 0⟩ (.ofNat 3) (.ensureRole "Admin"),
    .edit (.insertPermission ⟨.ofNat 4, "Write"⟩),
    .call ⟨0, 0⟩ (.ofNat 5) (.ensurePermission "Read"),
    .edit (.assign (.ofNat 1) (.ofNat 3)), .edit (.assign (.ofNat 1) (.ofNat 2)),
    .call ⟨0, 0⟩ (.ofNat 9) (.assign (.ofNat 1) (.ofNat 3)),
    .edit (.assign (.ofNat 9) (.ofNat 2)),
    .edit (.grant (.ofNat 2) (.ofNat 4)), .edit (.grant (.ofNat 2) (.ofNat 5)),
    .edit (.revoke (.ofNat 2) (.ofNat 4)), .edit (.grant (.ofNat 2) (.ofNat 4)),
    .edit (.revoke (.ofNat 2) (.ofNat 5)),
    .edit (.insertRole ⟨.ofNat 3, "Chief", true, ⟨0, 0⟩, ⟨0, 0⟩⟩)]

theorem follows_deeds_small :
    (after smallHistory).rolesOf (.ofNat 1) = [⟨.ofNat 3, "Chief"⟩, ⟨.ofNat 2, "Editor"⟩] ∧
      ((after smallHistory).permissionsOf (.ofNat 2)).filter (·.id = .ofNat 4) =
        [⟨.ofNat 4, "Write"⟩] ∧
      ((after smallHistory).permissionsOf (.ofNat 2)).filter (·.id = .ofNat 5) = [] ∧
      ∃ message, (after smallHistory).perform (.edit (.assign (.ofNat 9) (.ofNat 2))) =
        (.error (.missing message), after smallHistory) := by
  obtain ⟨h, hnext⟩ := follows_deeds smallHistory
  refine ⟨by decide, ?_, h.ungranted _ _ (by decide), ?_⟩
  · obtain ⟨p, hp, hfilter⟩ := h.granted (.ofNat 2) (.ofNat 4) (by decide)
    have hwrite : (after smallHistory).permission? (.ofNat 4) = some ⟨.ofNat 4, "Write"⟩ := by
      decide
    rw [hfilter, Option.some.inj (hp.symm.trans hwrite)]
  · obtain ⟨hprovides, -⟩ | ⟨-, hmissing⟩ := hnext (.edit (.assign (.ofNat 9) (.ofNat 2)))
    · exact absurd hprovides (by unfold Provides; decide)
    · exact hmissing

end Gatehouse.Directory
