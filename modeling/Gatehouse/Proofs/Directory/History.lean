import Mathlib.Data.List.Nodup
import Gatehouse.Proofs.Run.State

/-!
# Directories that can come about

A directory is `Reached` if edits and answered calls lead to it from the empty one. Nothing is ever
removed but grants, and a relation is only made between things that exist, so such a directory is
`Sound`: no identifier belongs to two users, roles or permissions, and no assignment or grant is
left hanging or made twice (`Reached.sound`).
-/

namespace Gatehouse.Directory

/-! ## Lists by identifier -/

section

variable {α : Type} {key : α → Uuid} {x : α} {xs : List α}

theorem keys_replaceOrAdd (key : α → Uuid) (x : α) (xs : List α) :
    (replaceOrAdd key x xs).map key =
      if key x ∈ xs.map key then xs.map key else xs.map key ++ [key x] := by
  induction xs with
  | nil => rfl
  | cons y ys ih =>
    unfold replaceOrAdd
    by_cases h : key y = key x
    · simp [h]
    · have h' : key x ≠ key y := fun he => h he.symm
      rw [if_neg h, List.map_cons, ih]
      by_cases hm : key x ∈ ys.map key
      · rw [if_pos hm, if_pos (by simp [hm]), List.map_cons]
      · rw [if_neg hm, if_neg (by simp only [List.map_cons, List.mem_cons, not_or]; exact ⟨h', hm⟩)]
        rfl

theorem mem_replaceOrAdd {y : α} (h : x ∈ replaceOrAdd key y xs) : x = y ∨ x ∈ xs := by
  induction xs with
  | nil => exact .inl (List.mem_singleton.1 h)
  | cons z zs ih =>
    unfold replaceOrAdd at h
    split at h
    · exact (List.mem_cons.1 h).imp_right (List.mem_cons_of_mem z)
    · obtain rfl | h := List.mem_cons.1 h
      · exact .inr List.mem_cons_self
      · exact (ih h).imp_right (List.mem_cons_of_mem z)

theorem mem_replaceOrAdd_self : x ∈ replaceOrAdd key x xs := by
  induction xs with
  | nil => simp [replaceOrAdd]
  | cons z zs ih =>
    unfold replaceOrAdd
    split <;> simp [ih]

theorem mem_replaceOrAdd_of_ne {y : α} (hy : y ∈ xs) (hne : key y ≠ key x) :
    y ∈ replaceOrAdd key x xs := by
  induction xs with
  | nil => cases hy
  | cons z zs ih =>
    unfold replaceOrAdd
    split
    · rename_i hz
      obtain rfl | hy := List.mem_cons.1 hy
      · exact absurd hz hne
      · exact List.mem_cons_of_mem x hy
    · obtain rfl | hy := List.mem_cons.1 hy
      · exact List.mem_cons_self
      · exact List.mem_cons_of_mem z (ih hy)

theorem find?_replaceOrAdd (id : Uuid) :
    (replaceOrAdd key x xs).find? (key · = id) =
      (if key x = id then some x else none).or (xs.find? (key · = id)) := by
  induction xs with
  | nil => by_cases h : key x = id <;> simp [replaceOrAdd, h]
  | cons y ys ih =>
    unfold replaceOrAdd
    split
    · rename_i hy
      by_cases h : key x = id <;> simp [hy, h]
    · rename_i hy
      by_cases hid : key y = id
      · have hx : key x ≠ id := fun he => hy (hid.trans he.symm)
        simp [hid, hx]
      · simp only [List.find?_cons, hid, decide_false, ih]

theorem replaceOrAdd_of_not_mem (h : key x ∉ xs.map key) : replaceOrAdd key x xs = xs ++ [x] := by
  induction xs with
  | nil => rfl
  | cons y ys ih =>
    simp only [List.map_cons, List.mem_cons, not_or] at h
    rw [replaceOrAdd, if_neg fun he => h.1 he.symm, ih h.2]
    rfl

theorem nodup_replaceOrAdd (h : (xs.map key).Nodup) : ((replaceOrAdd key x xs).map key).Nodup := by
  rw [keys_replaceOrAdd]
  split
  · exact h
  · rename_i hx
    exact h.append (by simp) (by simpa using hx)

/-- What is put under a new name leaves names unique, also in the place of another. -/
theorem nodup_map_replaceOrAdd {β : Type} {f : α → β} (h : (xs.map f).Nodup) (hx : f x ∉ xs.map f) :
    ((replaceOrAdd key x xs).map f).Nodup := by
  induction xs with
  | nil => simp [replaceOrAdd]
  | cons z zs ih =>
    unfold replaceOrAdd
    simp only [List.map_cons, List.nodup_cons, List.mem_cons, not_or] at h hx
    split
    · exact List.nodup_cons.2 ⟨hx.2, h.2⟩
    · refine List.nodup_cons.2 ⟨fun hm => ?_, ih h.2 hx.2⟩
      obtain ⟨y, hy, he⟩ := List.mem_map.1 hm
      obtain rfl | hy := mem_replaceOrAdd hy
      · exact hx.1 he
      · exact h.1 (List.mem_map.2 ⟨y, hy, he⟩)

theorem subset_replaceOrAdd : xs.map key ⊆ (replaceOrAdd key x xs).map key := by
  rw [keys_replaceOrAdd]
  split
  · exact List.Subset.refl _
  · exact List.subset_append_left _ _

end

/-- What has a key that nothing else has is found by it. -/
theorem find?_of_nodup {α β : Type} [DecidableEq β] {f : α → β} {xs : List α} {x : α}
    (h : (xs.map f).Nodup) (hx : x ∈ xs) : xs.find? (f · = f x) = some x := by
  cases hf : xs.find? (f · = f x) with
  | none => simpa using List.find?_eq_none.1 hf x hx
  | some y =>
    have hy : f y = f x := by simpa using List.find?_some hf
    rw [List.inj_on_of_nodup_map h (List.mem_of_find?_eq_some hf) hx hy]

theorem mem_addOnce {x y : Uuid × Uuid} {xs : List (Uuid × Uuid)} :
    y ∈ addOnce x xs ↔ y ∈ xs ∨ y = x := by
  unfold addOnce
  split
  · rename_i h
    exact ⟨.inl, fun hy => hy.elim id fun he => he ▸ h⟩
  · simp

theorem nodup_addOnce {x : Uuid × Uuid} {xs : List (Uuid × Uuid)} (h : xs.Nodup) :
    (addOnce x xs).Nodup := by
  unfold addOnce
  split
  · exact h
  · rename_i hx
    exact h.append (by simp) (by simpa using hx)

/-! ## Soundness -/

/-- No identifier belongs to two things of a kind, and relations are between things that exist, and
not made twice. -/
structure Sound (d : Directory) : Prop where
  users : (d.users.map User.id).Nodup
  roles : (d.roles.map Role.id).Nodup
  permissions : (d.permissions.map Permission.id).Nodup
  assignments : ∀ a ∈ d.assignments, a.1 ∈ d.users.map User.id ∧ a.2 ∈ d.roles.map Role.id
  grants : ∀ g ∈ d.grants, g.1 ∈ d.roles.map Role.id ∧ g.2 ∈ d.permissions.map Permission.id
  assignedOnce : d.assignments.Nodup
  grantedOnce : d.grants.Nodup

/-- Whether edits and answered calls lead to a directory from the empty one. -/
inductive Reached : Directory → Prop where
  | empty : Reached .empty
  | edit {d : Directory} (h : Reached d) (e : Edit) : Reached (d.edit e)
  | answer {d : Directory} (h : Reached d) (now : Time.Instant) (fresh : Uuid) (call : Call) :
      Reached (Directory.answer now fresh call d).2

variable {d : Directory}

theorem user?_isSome_iff {id : Uuid} : (d.user? id).isSome = true ↔ id ∈ d.users.map User.id := by
  simp [user?, List.find?_isSome]

theorem role?_isSome_iff {id : Uuid} : (d.role? id).isSome = true ↔ id ∈ d.roles.map Role.id := by
  simp [role?, List.find?_isSome]

theorem permission?_isSome_iff {id : Uuid} :
    (d.permission? id).isSome = true ↔ id ∈ d.permissions.map Permission.id := by
  simp [permission?, List.find?_isSome]

namespace Sound

variable (h : d.Sound)
include h

theorem insertUser (u : User) : (d.insertUser u).Sound :=
  { h with
    users := nodup_replaceOrAdd h.users
    assignments := fun a ha => ⟨subset_replaceOrAdd (h.assignments a ha).1,
      (h.assignments a ha).2⟩ }

theorem insertRole (r : Role) : (d.insertRole r).Sound :=
  { h with
    roles := nodup_replaceOrAdd h.roles
    assignments := fun a ha => ⟨(h.assignments a ha).1,
      subset_replaceOrAdd (h.assignments a ha).2⟩
    grants := fun g hg => ⟨subset_replaceOrAdd (h.grants g hg).1, (h.grants g hg).2⟩ }

theorem insertPermission (p : Permission) : (d.insertPermission p).Sound :=
  { h with
    permissions := nodup_replaceOrAdd h.permissions
    grants := fun g hg => ⟨(h.grants g hg).1, subset_replaceOrAdd (h.grants g hg).2⟩ }

theorem setActive (user : Uuid) (active : Bool) : (d.keep (d.setActive user active)).2.Sound := by
  unfold Directory.setActive
  split
  · exact h
  · exact h.insertUser _

/-- A role is assigned only to a user that exists, and only if it exists itself. -/
theorem assign (user role : Uuid) : (d.keep (d.assign user role)).2.Sound := by
  unfold Directory.assign
  split
  · exact h
  · split
    · exact h
    · rename_i hu hr
      refine { h with assignments := fun a ha => ?_, assignedOnce := nodup_addOnce h.assignedOnce }
      obtain ha | rfl := mem_addOnce.1 ha
      · exact h.assignments a ha
      · rw [Option.isNone_iff_eq_none, ← Option.not_isSome_iff_eq_none, not_not] at hu hr
        exact ⟨user?_isSome_iff.1 hu, role?_isSome_iff.1 hr⟩

/-- A permission is granted only to a role that exists, and only if it exists itself. -/
theorem grant (role permission : Uuid) : (d.keep (d.grant role permission)).2.Sound := by
  unfold Directory.grant
  split
  · exact h
  · split
    · exact h
    · rename_i hr hp
      refine { h with grants := fun g hg => ?_, grantedOnce := nodup_addOnce h.grantedOnce }
      obtain hg | rfl := mem_addOnce.1 hg
      · exact h.grants g hg
      · rw [Option.isNone_iff_eq_none, ← Option.not_isSome_iff_eq_none, not_not] at hr hp
        exact ⟨role?_isSome_iff.1 hr, permission?_isSome_iff.1 hp⟩

theorem revoke (role permission : Uuid) : (d.revoke role permission).Sound :=
  { h with
    grants := fun g hg => h.grants g (List.mem_of_mem_filter hg)
    grantedOnce := h.grantedOnce.filter _ }

theorem edit (e : Edit) : (d.edit e).Sound := by
  cases e with
  | insertUser user => exact h.insertUser user
  | insertRole role => exact h.insertRole role
  | insertPermission permission => exact h.insertPermission permission
  | setActive user active => exact h.setActive user active
  | assign user role => exact h.assign user role
  | grant role permission => exact h.grant role permission
  | revoke role permission => exact h.revoke role permission

theorem answer (now : Time.Instant) (fresh : Uuid) (call : Call) :
    (Directory.answer now fresh call d).2.Sound := by
  cases call with
  | byEmail | rolesOf | permissionsOf => exact h
  | ensureRole name =>
    show (d.ensureRole now fresh name).2.Sound
    unfold Directory.ensureRole
    split
    · exact h
    · exact h.insertRole _
  | ensurePermission name =>
    show (d.ensurePermission fresh name).2.Sound
    unfold Directory.ensurePermission
    split
    · exact h
    · exact h.insertPermission _
  | grant role permission => exact h.grant role permission
  | createUser u =>
    show (d.createUser u).2.Sound
    unfold Directory.createUser
    split
    · exact h
    · exact h.insertUser u
  | assign user role => exact h.assign user role

end Sound

theorem Reached.sound (h : d.Reached) : d.Sound := by
  induction h with
  | empty => exact ⟨.nil, .nil, .nil, nofun, nofun, .nil, .nil⟩
  | edit _ e ih => exact ih.edit e
  | answer _ now fresh call ih => exact ih.answer now fresh call

end Gatehouse.Directory
