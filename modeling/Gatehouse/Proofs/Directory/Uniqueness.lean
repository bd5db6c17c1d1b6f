import Mathlib.Data.List.Find
import Gatehouse.Proofs.Directory.Operations

/-!
# Names stay unique under calls

The directory keeps users, roles and permissions by identifier, but a call makes a role or a
permission only under a name that none has, and a user only under an address that is free. So after
any calls to the empty directory names and addresses are unique (`unique_called`), although what is
put under an identifier takes the place of what was there. Lookups by name have one possible answer
then, in whatever order the entries stand (`Reordered.answer_fst`).

If no identifier is drawn twice, nothing ever takes the place of a role or a permission, so a name
keeps the identifier that it was first answered with (`keeps_called`).
-/

namespace Gatehouse.Directory

open Time (Instant)

/-- A call as it is answered: at a time, with an identifier for what it makes. -/
structure Turn where
  now : Instant
  fresh : Uuid
  call : Call

/-- The operation that a turn is. -/
def Turn.operation (t : Turn) : Operation := .call t.now t.fresh t.call

/-- The directory after calls to the empty one. -/
def called (turns : List Turn) : Directory := after (turns.map Turn.operation)

/-- The identifier that was drawn for what a deed made. -/
def Deed.drawn? : Deed → Option Uuid
  | .role r => some r.id
  | .permission p => some p.id
  | _ => none

/-- The identifiers that were drawn for what calls made. -/
def drawn (turns : List Turn) : List Uuid :=
  (deeds (turns.map Turn.operation)).filterMap Deed.drawn?

variable {d d' : Directory}

/-! ## One call -/

/-- Whether a deed puts what it puts under a name that is free. -/
def Admits (d : Directory) : Deed → Prop
  | .user u => Ascii.lowerString u.email ∉ d.users.map fun v => Ascii.lowerString v.email
  | .role r => r.name ∉ d.roles.map Role.name
  | .permission p => p.name ∉ d.permissions.map Permission.name
  | .assigned _ _ | .granted _ _ | .revoked _ _ => True

theorem Unique.act (h : d.Unique) {a : Deed} (ha : d.Admits a) : (d.act a).Unique := by
  cases a with
  | user u => exact { h with users := nodup_map_replaceOrAdd h.users ha }
  | role r => exact { h with roles := nodup_map_replaceOrAdd h.roles ha }
  | permission p => exact { h with permissions := nodup_map_replaceOrAdd h.permissions ha }
  | assigned | granted | revoked => exact ⟨h.users, h.roles, h.permissions⟩

theorem admits_of_intent? {now : Instant} {fresh : Uuid} {c : Call} {a : Deed}
    (h : d.intent? (.call now fresh c) = some a) : d.Admits a := by
  cases c with
  | byEmail | rolesOf | permissionsOf => cases h
  | grant | assign =>
    cases h
    trivial
  | ensureRole name =>
    obtain ⟨r, hr, rfl⟩ := Option.map_eq_some_iff.1 h
    obtain ⟨hn, rfl⟩ := newRole?_eq_some_iff.1 hr
    exact hn
  | ensurePermission name =>
    obtain ⟨p, hp, rfl⟩ := Option.map_eq_some_iff.1 h
    obtain ⟨hn, rfl⟩ := newPermission?_eq_some_iff.1 hp
    exact hn
  | createUser u =>
    obtain ⟨v, hv, rfl⟩ := Option.map_eq_some_iff.1 h
    obtain ⟨hn, rfl⟩ := newUser?_eq_some_iff.1 hv
    exact hn

/-- Whether all roles and permissions have identifiers among these. -/
structure Identified (d : Directory) (ids : List Uuid) : Prop where
  roles : ∀ r ∈ d.roles, r.id ∈ ids
  permissions : ∀ p ∈ d.permissions, p.id ∈ ids

/-- Whether all roles and permissions are still there. -/
structure Keeps (d d' : Directory) : Prop where
  roles : d.roles ⊆ d'.roles
  permissions : d.permissions ⊆ d'.permissions

theorem Identified.act {ids : List Uuid} (h : d.Identified ids) (a : Deed) :
    (d.act a).Identified (ids ++ a.drawn?.toList) := by
  cases a with
  | role r =>
    refine ⟨fun r' hr' => ?_, fun p hp => List.mem_append_left _ (h.permissions p hp)⟩
    obtain rfl | hr' := mem_replaceOrAdd hr'
    · simp [Deed.drawn?]
    · exact List.mem_append_left _ (h.roles r' hr')
  | permission p =>
    refine ⟨fun r hr => List.mem_append_left _ (h.roles r hr), fun p' hp' => ?_⟩
    obtain rfl | hp' := mem_replaceOrAdd hp'
    · simp [Deed.drawn?]
    · exact List.mem_append_left _ (h.permissions p' hp')
  | user | assigned | granted | revoked => simpa [Deed.drawn?] using ⟨h.roles, h.permissions⟩

/-- What is put under a new identifier takes the place of nothing. -/
theorem Identified.keeps_act {ids : List Uuid} {a : Deed} (h : d.Identified ids)
    (hnew : (ids ++ a.drawn?.toList).Nodup) : d.Keeps (d.act a) := by
  cases a with
  | role r =>
    have hr : r.id ∉ ids := fun hm => List.disjoint_of_nodup_append hnew hm (by simp [Deed.drawn?])
    exact ⟨fun r' hr' => mem_replaceOrAdd_of_ne hr' fun he => hr (he ▸ h.roles r' hr'), fun _ => id⟩
  | permission p =>
    have hp : p.id ∉ ids := fun hm => List.disjoint_of_nodup_append hnew hm (by simp [Deed.drawn?])
    exact ⟨fun _ => id, fun p' hp' =>
      mem_replaceOrAdd_of_ne hp' fun he => hp (he ▸ h.permissions p' hp')⟩
  | user | assigned | granted | revoked => exact ⟨fun _ => id, fun _ => id⟩

/-! ## Many calls -/

variable {turns : List Turn}

theorem called_cases (turns : List Turn) (t : Turn) :
    called (turns ++ [t]) = called turns ∧ drawn (turns ++ [t]) = drawn turns ∨
      ∃ a, (called turns).Admits a ∧ called (turns ++ [t]) = (called turns).act a ∧
        drawn (turns ++ [t]) = drawn turns ++ a.drawn?.toList := by
  simp only [called, drawn, List.map_append, List.map_cons, List.map_nil, after_append,
    deeds_append, perform_snd, List.filterMap_append]
  cases h : (after (turns.map Turn.operation)).deed? t.operation with
  | none => simp
  | some a =>
    refine .inr ⟨a, admits_of_intent? (intent?_of_deed? h), rfl, ?_⟩
    cases ha : a.drawn? <;> simp [ha]

theorem sound_called (turns : List Turn) : (called turns).Sound := (reached_after _).sound

theorem unique_called (turns : List Turn) : (called turns).Unique := by
  induction turns using List.reverseRecOn with
  | nil => exact ⟨.nil, .nil, .nil⟩
  | append_singleton turns t ih =>
    obtain ⟨he, -⟩ | ⟨a, ha, he, -⟩ := called_cases turns t
    · rwa [he]
    · exact he ▸ ih.act ha

theorem identified_called (turns : List Turn) : (called turns).Identified (drawn turns) := by
  induction turns using List.reverseRecOn with
  | nil => exact ⟨nofun, nofun⟩
  | append_singleton turns t ih =>
    obtain ⟨he, hd⟩ | ⟨a, -, he, hd⟩ := called_cases turns t
    · rwa [he, hd]
    · rw [he, hd]
      exact ih.act a

/-- If no identifier is drawn twice, roles and permissions stay. -/
theorem keeps_called {turns more : List Turn} (h : (drawn (turns ++ more)).Nodup) :
    (called turns).Keeps (called (turns ++ more)) := by
  induction more using List.reverseRecOn with
  | nil =>
    rw [List.append_nil]
    exact ⟨fun _ => id, fun _ => id⟩
  | append_singleton more t ih =>
    rw [← List.append_assoc] at h ⊢
    obtain ⟨he, hd⟩ | ⟨a, -, he, hd⟩ := called_cases (turns ++ more) t
    · rw [he]
      exact ih (hd ▸ h)
    · rw [hd] at h
      have hkeeps := (identified_called (turns ++ more)).keeps_act h
      have hrest := ih h.of_append_left
      rw [he]
      exact ⟨List.Subset.trans hrest.roles hkeeps.roles,
        List.Subset.trans hrest.permissions hkeeps.permissions⟩

theorem called_append (turns : List Turn) (t : Turn) :
    called (turns ++ [t]) = (answer t.now t.fresh t.call (called turns)).2 := by
  rw [called, List.map_append, List.map_singleton, after_append]
  rfl

/-- What is there after a call stays there. -/
theorem keeps_of_turn {earlier later : List Turn} {t : Turn}
    (h : (drawn (earlier ++ t :: later)).Nodup) :
    (answer t.now t.fresh t.call (called earlier)).2.Keeps (called (earlier ++ t :: later)) := by
  rw [← called_append, List.append_cons earlier t later]
  exact keeps_called (List.append_cons earlier t later ▸ h)

/-! ## Answers -/

/-- The identifier that a name is answered with belongs to a role of this name, which is there
then. -/
theorem ensureRole_spec (d : Directory) (now : Instant) (fresh : Uuid) (name : String) :
    ∃ r ∈ (d.ensureRole now fresh name).2.roles, r.name = name ∧
      (d.ensureRole now fresh name).1 = r.id := by
  unfold ensureRole
  cases h : d.roles.find? (·.name = name) with
  | none => exact ⟨⟨fresh, name, true, now, now⟩, mem_replaceOrAdd_self, rfl, rfl⟩
  | some r => exact ⟨r, List.mem_of_find?_eq_some h, by simpa using List.find?_some h, rfl⟩

theorem ensurePermission_spec (d : Directory) (fresh : Uuid) (name : String) :
    ∃ p ∈ (d.ensurePermission fresh name).2.permissions, p.name = name ∧
      (d.ensurePermission fresh name).1 = p.id := by
  unfold ensurePermission
  cases h : d.permissions.find? (·.name = name) with
  | none => exact ⟨⟨fresh, name⟩, mem_replaceOrAdd_self, rfl, rfl⟩
  | some p => exact ⟨p, List.mem_of_find?_eq_some h, by simpa using List.find?_some h, rfl⟩

theorem Unique.ensureRole_eq (h : d.Unique) {r : Role} (hr : r ∈ d.roles) (now : Instant)
    (fresh : Uuid) : d.ensureRole now fresh r.name = (r.id, d) := by
  rw [ensureRole, find?_of_nodup h.roles hr]

theorem Unique.ensurePermission_eq (h : d.Unique) {p : Permission} (hp : p ∈ d.permissions)
    (fresh : Uuid) : d.ensurePermission fresh p.name = (p.id, d) := by
  rw [ensurePermission, find?_of_nodup h.permissions hp]

theorem createUser_fst_iff {u : User} : (d.createUser u).1 = true ↔
    ∀ v ∈ d.users, Ascii.lowerString v.email ≠ Ascii.lowerString u.email := by
  rw [← byEmail_eq_none_iff, createUser]
  cases d.byEmail u.email <;> simp

/-! ## The order of entries -/

/-- Whether the users, roles and permissions are the same, in any order. -/
structure Reordered (d d' : Directory) : Prop where
  users : d.users.Perm d'.users
  roles : d.roles.Perm d'.roles
  permissions : d.permissions.Perm d'.permissions
  assignments : d.assignments = d'.assignments
  grants : d.grants = d'.grants

theorem find?_eq_of_perm {α β : Type} [DecidableEq β] {f : α → β} {xs ys : List α}
    (hp : xs.Perm ys) (h : (xs.map f).Nodup) (k : β) :
    xs.find? (f · = k) = ys.find? (f · = k) :=
  List.find?_eq_find?_of_perm hp fun _ hx _ hy => List.inj_on_of_nodup_map h hx.1 hy.1
    ((of_decide_eq_true hx.2).trans (of_decide_eq_true hy.2).symm)

namespace Reordered

variable (h : d.Reordered d')
include h

theorem byEmail (hu : d.Unique) (email : String) : d.byEmail email = d'.byEmail email :=
  List.find?_eq_find?_of_perm h.users fun _ hx _ hy =>
    hu.user_eq hx.1 hy.1 ((equalFold_iff.1 hx.2).trans (equalFold_iff.1 hy.2).symm)

theorem user? (hs : d.Sound) (id : Uuid) : d.user? id = d'.user? id :=
  find?_eq_of_perm h.users hs.users id

theorem role? (hs : d.Sound) (id : Uuid) : d.role? id = d'.role? id :=
  find?_eq_of_perm h.roles hs.roles id

theorem permission? (hs : d.Sound) (id : Uuid) : d.permission? id = d'.permission? id :=
  find?_eq_of_perm h.permissions hs.permissions id

/-- Where names are unique, every call is answered alike in whatever order the entries stand. -/
theorem answer_fst (hs : d.Sound) (hu : d.Unique) (now : Instant) (fresh : Uuid) (c : Call) :
    (answer now fresh c d).1 = (answer now fresh c d').1 := by
  cases c with
  | byEmail email => simp only [answer, h.byEmail hu]
  | rolesOf user =>
    simp only [answer, rolesOf, h.assignments, h.role? hs]
  | permissionsOf role => simp only [answer, permissionsOf, h.grants, h.permission? hs]
  | ensureRole name =>
    simp only [answer, ensureRole, find?_eq_of_perm h.roles hu.roles]
    cases d'.roles.find? (·.name = name) <;> rfl
  | ensurePermission name =>
    simp only [answer, ensurePermission, find?_eq_of_perm h.permissions hu.permissions]
    cases d'.permissions.find? (·.name = name) <;> rfl
  | grant role permission =>
    simp only [answer, Directory.grant, h.role? hs, h.permission? hs]
    cases d'.role? role <;> cases d'.permission? permission <;> rfl
  | createUser u =>
    simp only [answer, createUser, h.byEmail hu]
    cases d'.byEmail u.email <;> rfl
  | assign user role =>
    simp only [answer, Directory.assign, h.user? hs, h.role? hs]
    cases d'.user? user <;> cases d'.role? role <;> rfl

end Reordered

/-! ## All together -/

/-- Whether a directory tells apart all that it holds. -/
structure Distinguishes (d : Directory) : Prop where
  unique : d.Unique
  assignments : d.assignments.Nodup
  grants : d.grants.Nodup
  /-- A user is created exactly if no stored address is equal to the new one but for case, and it
  is found then. -/
  createUser : ∀ now fresh u, ∃ created, (answer now fresh (.createUser u) d).1 = .ok created ∧
    (created = true ↔ ∀ v ∈ d.users, Ascii.lowerString v.email ≠ Ascii.lowerString u.email) ∧
    (created = true → (answer now fresh (.createUser u) d).2.byEmail u.email = some u)
  /-- A user is found by an address exactly if its own is equal to it but for case. -/
  byEmail : ∀ email u, d.byEmail email = some u ↔
    u ∈ d.users ∧ Ascii.lowerString u.email = Ascii.lowerString email
  byEmail_isSome : ∀ email, (d.byEmail email).isSome = true ↔
    ∃ u ∈ d.users, Ascii.lowerString u.email = Ascii.lowerString email
  /-- No answer depends on the order in which users, roles and permissions stand. -/
  anyOrder : ∀ d', d.Reordered d' → ∀ now fresh c,
    (answer now fresh c d).1 = (answer now fresh c d').1

theorem Unique.byEmail_isSome_iff (h : d.Unique) {email : String} :
    (d.byEmail email).isSome = true ↔
      ∃ u ∈ d.users, Ascii.lowerString u.email = Ascii.lowerString email := by
  simp only [Option.isSome_iff_exists, h.byEmail_eq_some_iff]

/-- A user that was created is found by its address. -/
theorem Unique.byEmail_createUser (h : d.Unique) {u : User} (hc : (d.createUser u).1 = true) :
    (d.createUser u).2.byEmail u.email = some u := by
  have hfree : d.Admits (.user u) := by
    simpa [Admits] using createUser_fst_iff.1 hc
  have hu : (d.createUser u).2 = d.act (.user u) := by
    rw [createUser_snd, newUser?_eq_some_iff.2 ⟨hfree, rfl⟩]
    rfl
  rw [hu]
  exact (h.act hfree).byEmail_eq_some_iff.2 ⟨mem_replaceOrAdd_self, rfl⟩

theorem distinguishes_called (turns : List Turn) : (called turns).Distinguishes :=
  have hs := sound_called turns
  have hu := unique_called turns
  { unique := hu
    assignments := hs.assignedOnce
    grants := hs.grantedOnce
    createUser := fun _ _ _ => ⟨_, rfl, createUser_fst_iff, hu.byEmail_createUser⟩
    byEmail := fun _ _ => hu.byEmail_eq_some_iff
    byEmail_isSome := fun _ => hu.byEmail_isSome_iff
    anyOrder := fun _ h => h.answer_fst hs hu }

/-- After any calls to the empty directory, of which no two draw the same identifier, all that it
holds can be told apart by name or address, and a name that was once answered with the identifier of
a role or a permission is answered with it ever after. -/
theorem distinguishes_and_remembers (turns : List Turn) (hdrawn : (drawn turns).Nodup) :
    (called turns).Distinguishes ∧
      (∀ earlier later now fresh name, turns = earlier ++ ⟨now, fresh, .ensureRole name⟩ :: later →
        ∃ r ∈ (called turns).roles, r.name = name ∧
          (answer now fresh (.ensureRole name) (called earlier)).1 = .ok r.id ∧
          ∀ now' fresh', (answer now' fresh' (.ensureRole name) (called turns)).1 = .ok r.id) ∧
      ∀ earlier later now fresh name,
        turns = earlier ++ ⟨now, fresh, .ensurePermission name⟩ :: later →
          ∃ p ∈ (called turns).permissions, p.name = name ∧
            (answer now fresh (.ensurePermission name) (called earlier)).1 = .ok p.id ∧
            ∀ now' fresh',
              (answer now' fresh' (.ensurePermission name) (called turns)).1 = .ok p.id := by
  refine ⟨distinguishes_called turns, ?_, ?_⟩
  · rintro earlier later now fresh name rfl
    obtain ⟨r, hr, rfl, hanswer⟩ := ensureRole_spec (called earlier) now fresh name
    have hstays := (keeps_of_turn hdrawn).roles hr
    refine ⟨r, hstays, rfl, congrArg Except.ok hanswer, fun now' fresh' => ?_⟩
    simp only [answer, (unique_called _).ensureRole_eq hstays]
  · rintro earlier later now fresh name rfl
    obtain ⟨p, hp, rfl, hanswer⟩ := ensurePermission_spec (called earlier) fresh name
    have hstays := (keeps_of_turn hdrawn).permissions hp
    refine ⟨p, hstays, rfl, congrArg Except.ok hanswer, fun now' fresh' => ?_⟩
    simp only [answer, (unique_called _).ensurePermission_eq hstays]

/-- Two users with one identifier, of which the second takes the place of the first, a third whose
address differs from the second's in case only, and a name that is asked for twice. -/
def smallCalls : List Turn :=
  [⟨⟨0, 0⟩, .ofNat 2, .ensureRole "Admin"⟩, ⟨⟨0, 0⟩, .ofNat 3, .ensurePermission "Read"⟩,
    ⟨⟨0, 0⟩, .ofNat 2, .grant (.ofNat 2) (.ofNat 3)⟩,
    ⟨⟨0, 0⟩, .ofNat 2, .createUser
      ⟨.ofNat 1, "Ada", "ada@example.com", true, "", "", ⟨0, 0⟩, ⟨0, 0⟩⟩⟩,
    ⟨⟨0, 0⟩, .ofNat 2, .createUser
      ⟨.ofNat 1, "Eve", "eve@example.com", true, "", "", ⟨0, 0⟩, ⟨0, 0⟩⟩⟩,
    ⟨⟨0, 0⟩, .ofNat 2, .createUser
      ⟨.ofNat 5, "Eva", "Eve@Example.com", true, "", "", ⟨0, 0⟩, ⟨0, 0⟩⟩⟩,
    ⟨⟨0, 0⟩, .ofNat 2, .ensureRole "Admin"⟩, ⟨⟨0, 0⟩, .ofNat 4, .ensureRole "Editor"⟩]

theorem distinguishes_and_remembers_small :
    (drawn smallCalls).Nodup ∧ (called smallCalls).Unique ∧
      (∀ now fresh,
        (answer now fresh (.ensureRole "Admin") (called smallCalls)).1 = .ok (.ofNat 2)) ∧
      (called smallCalls).byEmail "ada@example.com" = none ∧
      ∃ u, (called smallCalls).byEmail "EVE@EXAMPLE.COM" = some u ∧ u.name = "Eve" := by
  have hdrawn : (drawn smallCalls).Nodup := by decide
  obtain ⟨h, hroles, -⟩ := distinguishes_and_remembers smallCalls hdrawn
  refine ⟨hdrawn, h.unique, fun now fresh => ?_, by decide, ?_⟩
  · obtain ⟨r, -, -, hfirst, hnext⟩ := hroles [] _ ⟨0, 0⟩ (.ofNat 2) "Admin" rfl
    rw [hnext now fresh, ← hfirst]
    rfl
  · exact ⟨⟨.ofNat 1, "Eve", "eve@example.com", true, "", "", ⟨0, 0⟩, ⟨0, 0⟩⟩,
      (h.byEmail _ _).2 ⟨by decide, by decide⟩, rfl⟩

end Gatehouse.Directory
