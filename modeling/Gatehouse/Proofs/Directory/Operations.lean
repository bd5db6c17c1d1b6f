import Mathlib.Data.List.Induction
import Gatehouse.Proofs.Directory.Facts

/-!
# Operations on a directory and what they did

An `Operation` is an edit from outside or a call that is answered. `Directory.after` is the
directory that operations lead to from the empty one, and `Directory.deeds` what they did there, in
order: what was put, assigned, granted and revoked. Operations that fail did nothing, and neither
did calls that found what they would have made.

A directory is nothing but its deeds, done again one after another (`after_eq_replay`), so what it
answers is proved of deeds alone.
-/

namespace Gatehouse.Directory

open Time (Instant)

/-- What an edit comes to. -/
def attempt (d : Directory) : Edit → Except Failure Directory
  | .insertUser user => .ok (d.insertUser user)
  | .insertRole role => .ok (d.insertRole role)
  | .insertPermission permission => .ok (d.insertPermission permission)
  | .setActive user active => d.setActive user active
  | .assign user role => d.assign user role
  | .grant role permission => d.grant role permission
  | .revoke role permission => .ok (d.revoke role permission)

theorem edit_eq (d : Directory) (e : Edit) : d.edit e = (d.keep (d.attempt e)).2 := by
  cases e <;> rfl

/-- An edit, or a call that is answered at a time and with an identifier for what it makes. -/
inductive Operation where
  | edit (e : Edit)
  | call (now : Instant) (fresh : Uuid) (c : Call)

/-- Whether an operation succeeded, and the directory after it. -/
def perform (d : Directory) : Operation → Except Failure Unit × Directory
  | .edit e => d.keep (d.attempt e)
  | .call now fresh c => ((answer now fresh c d).1.map fun _ => (), (answer now fresh c d).2)

/-- The directory after operations on the empty one. -/
def after (ops : List Operation) : Directory :=
  ops.foldl (fun d o => (d.perform o).2) empty

/-! ## What operations did -/

/-- Something that was done to a directory. -/
inductive Deed where
  /-- The user was put under its identifier, in the place of any other. -/
  | user (u : User)
  | role (r : Role)
  | permission (p : Permission)
  | assigned (user role : Uuid)
  | granted (role permission : Uuid)
  | revoked (role permission : Uuid)
  deriving DecidableEq

/-- The role that is made for a name, unless there is one. -/
def newRole? (d : Directory) (now : Instant) (fresh : Uuid) (name : String) : Option Role :=
  if name ∈ d.roles.map Role.name then none else some ⟨fresh, name, true, now, now⟩

/-- The permission that is made for a name, unless there is one. -/
def newPermission? (d : Directory) (fresh : Uuid) (name : String) : Option Permission :=
  if name ∈ d.permissions.map Permission.name then none else some ⟨fresh, name⟩

/-- The user that is created, unless its address is taken. -/
def newUser? (d : Directory) (u : User) : Option User :=
  if Ascii.lowerString u.email ∈ d.users.map (fun v => Ascii.lowerString v.email) then none
  else some u

/-- What an operation does to a directory, if it succeeds. -/
def intent? (d : Directory) : Operation → Option Deed
  | .edit (.insertUser u) => some (.user u)
  | .edit (.insertRole r) => some (.role r)
  | .edit (.insertPermission p) => some (.permission p)
  | .edit (.setActive user active) => (d.user? user).map fun u => .user { u with active }
  | .edit (.assign user role) | .call _ _ (.assign user role) => some (.assigned user role)
  | .edit (.grant role permission) | .call _ _ (.grant role permission) =>
    some (.granted role permission)
  | .edit (.revoke role permission) => some (.revoked role permission)
  | .call now fresh (.ensureRole name) => (d.newRole? now fresh name).map .role
  | .call _ fresh (.ensurePermission name) => (d.newPermission? fresh name).map .permission
  | .call _ _ (.createUser u) => (d.newUser? u).map .user
  | .call _ _ (.byEmail _) | .call _ _ (.rolesOf _) | .call _ _ (.permissionsOf _) => none

/-- What an operation did to a directory. -/
def deed? (d : Directory) (o : Operation) : Option Deed :=
  match (d.perform o).1 with
  | .ok () => d.intent? o
  | .error _ => none

/-- What operations did to a directory, the oldest first. -/
def deedsFrom (d : Directory) : List Operation → List Deed
  | [] => []
  | o :: ops => (d.deed? o).toList ++ (d.perform o).2.deedsFrom ops

/-- What operations did, from the empty directory on. -/
def deeds (ops : List Operation) : List Deed := empty.deedsFrom ops

/-- A directory with a deed done to it. -/
def act (d : Directory) : Deed → Directory
  | .user u => d.insertUser u
  | .role r => d.insertRole r
  | .permission p => d.insertPermission p
  | .assigned user role => { d with assignments := addOnce (user, role) d.assignments }
  | .granted role permission => { d with grants := addOnce (role, permission) d.grants }
  | .revoked role permission => d.revoke role permission

/-- The empty directory with deeds done to it. -/
def replay (done : List Deed) : Directory := done.foldl act empty

/-- Whether all that an operation asks for is there. -/
def Provides (d : Directory) : Operation → Prop
  | .edit (.setActive user _) => user ∈ d.users.map User.id
  | .edit (.assign user role) | .call _ _ (.assign user role) =>
    user ∈ d.users.map User.id ∧ role ∈ d.roles.map Role.id
  | .edit (.grant role permission) | .call _ _ (.grant role permission) =>
    role ∈ d.roles.map Role.id ∧ permission ∈ d.permissions.map Permission.id
  | _ => True

variable {d : Directory}

/-! ## One operation -/

/-- How an operation goes: it does what it is for, or it reports that something is missing and does
nothing. -/
structure Settles (d : Directory) (needed : Prop) (deed : Option Deed)
    (outcome : Except Failure Unit × Directory) : Prop where
  done : needed → outcome = (.ok (), deed.toList.foldl act d)
  refused : ¬needed → ∃ message, outcome = (.error (.missing message), d)

theorem settles_done {needed : Prop} {deed : Option Deed} (h : needed) :
    d.Settles needed deed (.ok (), deed.toList.foldl act d) :=
  ⟨fun _ => rfl, fun hn => absurd h hn⟩

theorem settles_setActive (user : Uuid) (active : Bool) :
    d.Settles (user ∈ d.users.map User.id)
      ((d.user? user).map fun u => .user { u with active }) (d.keep (d.setActive user active)) := by
  unfold setActive
  rw [← user?_isSome_iff]
  cases d.user? user with
  | none => exact ⟨nofun, fun _ => ⟨_, rfl⟩⟩
  | some u => exact settles_done rfl

theorem settles_assign (user role : Uuid) :
    d.Settles (user ∈ d.users.map User.id ∧ role ∈ d.roles.map Role.id)
      (some (.assigned user role)) (d.keep (d.assign user role)) := by
  unfold Directory.assign
  rw [← user?_isSome_iff, ← role?_isSome_iff]
  cases d.user? user with
  | none => exact ⟨nofun, fun _ => ⟨_, rfl⟩⟩
  | some u =>
    cases d.role? role with
    | none => exact ⟨nofun, fun _ => ⟨_, rfl⟩⟩
    | some r => exact settles_done ⟨rfl, rfl⟩

theorem settles_grant (role permission : Uuid) :
    d.Settles (role ∈ d.roles.map Role.id ∧ permission ∈ d.permissions.map Permission.id)
      (some (.granted role permission)) (d.keep (d.grant role permission)) := by
  unfold Directory.grant
  rw [← role?_isSome_iff, ← permission?_isSome_iff]
  cases d.role? role with
  | none => exact ⟨nofun, fun _ => ⟨_, rfl⟩⟩
  | some r =>
    cases d.permission? permission with
    | none => exact ⟨nofun, fun _ => ⟨_, rfl⟩⟩
    | some p => exact settles_done ⟨rfl, rfl⟩

theorem mem_map_iff_find? {α : Type} {f : α → String} {xs : List α} {name : String} :
    name ∈ xs.map f ↔ xs.find? (f · = name) ≠ none := by
  simp [List.find?_eq_none]

theorem newRole?_eq_some_iff {now : Instant} {fresh : Uuid} {name : String} {r : Role} :
    d.newRole? now fresh name = some r ↔
      name ∉ d.roles.map Role.name ∧ ⟨fresh, name, true, now, now⟩ = r := by
  unfold newRole?
  split <;> simp_all

theorem newPermission?_eq_some_iff {fresh : Uuid} {name : String} {p : Permission} :
    d.newPermission? fresh name = some p ↔
      name ∉ d.permissions.map Permission.name ∧ ⟨fresh, name⟩ = p := by
  unfold newPermission?
  split <;> simp_all

theorem newUser?_eq_some_iff {u v : User} :
    d.newUser? u = some v ↔
      Ascii.lowerString u.email ∉ d.users.map (fun v => Ascii.lowerString v.email) ∧ u = v := by
  unfold newUser?
  split <;> simp_all

theorem ensureRole_snd (now : Instant) (fresh : Uuid) (name : String) :
    (d.ensureRole now fresh name).2 =
      ((d.newRole? now fresh name).map .role).toList.foldl act d := by
  simp only [ensureRole, newRole?, mem_map_iff_find?]
  cases d.roles.find? (·.name = name) <;> rfl

theorem ensurePermission_snd (fresh : Uuid) (name : String) :
    (d.ensurePermission fresh name).2 =
      ((d.newPermission? fresh name).map .permission).toList.foldl act d := by
  simp only [ensurePermission, newPermission?, mem_map_iff_find?]
  cases d.permissions.find? (·.name = name) <;> rfl

theorem mem_addresses_iff {email : String} :
    Ascii.lowerString email ∈ d.users.map (fun u => Ascii.lowerString u.email) ↔
      (d.byEmail email).isSome = true := by
  rw [← not_iff_not, Option.not_isSome_iff_eq_none, byEmail_eq_none_iff]
  simp

theorem createUser_snd (u : User) :
    (d.createUser u).2 = ((d.newUser? u).map .user).toList.foldl act d := by
  simp only [createUser, newUser?, mem_addresses_iff]
  split <;> rfl

theorem keep_map (d : Directory) (changed : Except Failure Directory) :
    ((d.keep changed).1.map fun _ => (), (d.keep changed).2) = d.keep changed := by
  cases changed <;> rfl

/-- Every operation succeeds if what it asks for is there, and else it is refused. -/
theorem settles_perform (d : Directory) (o : Operation) :
    d.Settles (d.Provides o) (d.intent? o) (d.perform o) := by
  cases o with
  | edit e =>
    cases e with
    | insertUser u => exact settles_done trivial
    | insertRole r => exact settles_done trivial
    | insertPermission p => exact settles_done trivial
    | setActive user active => exact settles_setActive user active
    | assign user role => exact settles_assign user role
    | grant role permission => exact settles_grant role permission
    | revoke role permission => exact settles_done trivial
  | call now fresh c =>
    cases c with
    | byEmail | rolesOf | permissionsOf => exact settles_done trivial
    | grant role permission =>
      have hgrant : d.perform (.call now fresh (.grant role permission)) =
          d.keep (d.grant role permission) := keep_map d _
      rw [hgrant]
      exact settles_grant role permission
    | assign user role =>
      have hassign : d.perform (.call now fresh (.assign user role)) =
          d.keep (d.assign user role) := keep_map d _
      rw [hassign]
      exact settles_assign user role
    | createUser u => exact ⟨fun _ => congrArg _ (createUser_snd u), fun h => absurd trivial h⟩
    | ensureRole name =>
      exact ⟨fun _ => congrArg _ (ensureRole_snd now fresh name), fun h => absurd trivial h⟩
    | ensurePermission name =>
      exact ⟨fun _ => congrArg _ (ensurePermission_snd fresh name), fun h => absurd trivial h⟩

/-- An operation leaves the directory with what it did, if it did anything. -/
theorem perform_snd (d : Directory) (o : Operation) :
    (d.perform o).2 = (d.deed? o).toList.foldl act d := by
  unfold deed?
  by_cases h : d.Provides o
  · rw [(d.settles_perform o).done h]
  · obtain ⟨message, hm⟩ := (d.settles_perform o).refused h
    rw [hm]
    rfl

theorem intent?_of_deed? {o : Operation} {a : Deed} (h : d.deed? o = some a) :
    d.intent? o = some a := by
  unfold deed? at h
  split at h
  · exact h
  · cases h

/-! ## Many operations -/

theorem after_append (ops : List Operation) (o : Operation) :
    after (ops ++ [o]) = ((after ops).perform o).2 := by
  simp [after]

theorem deeds_append (ops : List Operation) (o : Operation) :
    deeds (ops ++ [o]) = deeds ops ++ ((after ops).deed? o).toList := by
  suffices ∀ d : Directory, d.deedsFrom (ops ++ [o]) =
      d.deedsFrom ops ++ ((ops.foldl (fun d o => (d.perform o).2) d).deed? o).toList from this empty
  intro d
  induction ops generalizing d with
  | nil => simp [deedsFrom]
  | cons o' ops ih => simp [deedsFrom, ih]

/-- A directory is what its deeds make of the empty one. -/
theorem after_eq_replay (ops : List Operation) : after ops = replay (deeds ops) := by
  induction ops using List.reverseRecOn with
  | nil => rfl
  | append_singleton ops o ih =>
    rw [after_append, deeds_append, perform_snd, replay, List.foldl_append, ← replay, ← ih]

theorem reached_after (ops : List Operation) : (after ops).Reached := by
  induction ops using List.reverseRecOn with
  | nil => exact .empty
  | append_singleton ops o ih =>
    rw [after_append]
    cases o with
    | edit e => exact edit_eq (after ops) e ▸ ih.edit e
    | call now fresh c => exact ih.answer now fresh c

end Gatehouse.Directory
