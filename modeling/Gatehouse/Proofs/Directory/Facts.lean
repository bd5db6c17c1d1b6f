import Gatehouse.Proofs.Directory.History

/-!
# What a directory says by name

A `Fact` is what is left of a role, a permission, a grant, a user or an assignment if identifiers,
times and stored passwords are put aside. A change `Adds` a fact if it makes the fact true and no
other, keeps all that was there, and does nothing at all if the fact was true before; so do the five
calls that write (`adds_ensureRole`, `adds_ensurePermission`, `adds_grant`, `adds_createUser`,
`adds_assign`).
-/

namespace Gatehouse.Directory

/-- Something that a directory may say. -/
inductive Fact where
  | role (name : String)
  | permission (name : String)
  | grant (role permission : String)
  | user (email name : String) (active : Bool)
  | assignment (email role : String)

/-- Whether a directory says something. -/
def Has (d : Directory) : Fact → Prop
  | .role name => ∃ r ∈ d.roles, r.name = name
  | .permission name => ∃ p ∈ d.permissions, p.name = name
  | .grant role permission => ∃ r ∈ d.roles, ∃ p ∈ d.permissions,
      r.name = role ∧ p.name = permission ∧ (r.id, p.id) ∈ d.grants
  | .user email name active => ∃ u ∈ d.users, u.email = email ∧ u.name = name ∧ u.active = active
  | .assignment email role => ∃ u ∈ d.users, ∃ r ∈ d.roles,
      u.email = email ∧ r.name = role ∧ (u.id, r.id) ∈ d.assignments

/-- Whether a directory knows an identifier. -/
def Knows (d : Directory) (id : Uuid) : Prop :=
  id ∈ d.users.map User.id ∨ id ∈ d.roles.map Role.id ∨ id ∈ d.permissions.map Permission.id

/-- No two roles or permissions have the same name, and no two users the same address, letters
compared without case. -/
structure Unique (d : Directory) : Prop where
  users : (d.users.map fun u => Ascii.lowerString u.email).Nodup
  roles : (d.roles.map Role.name).Nodup
  permissions : (d.permissions.map Permission.name).Nodup

/-- Whether all that a directory holds is still there, unchanged and in the same order, with
possibly more after it. -/
structure Grown (d d' : Directory) : Prop where
  users : d.users <+: d'.users
  roles : d.roles <+: d'.roles
  permissions : d.permissions <+: d'.permissions
  assignments : d.assignments <+: d'.assignments
  grants : d.grants <+: d'.grants

/-- Whether a directory is one to which a fact was added; an identifier that is new in it is this
one. -/
structure Adds (d : Directory) (f : Fact) (id : Uuid) (d' : Directory) : Prop where
  sound : d'.Sound
  unique : d'.Unique
  grown : d.Grown d'
  has : ∀ g, d'.Has g ↔ d.Has g ∨ g = f
  knows : ∀ i, d'.Knows i → d.Knows i ∨ i = id
  same : d.Has f → d' = d

variable {d d' : Directory} {f : Fact} {id : Uuid}

theorem Grown.refl (d : Directory) : d.Grown d :=
  ⟨List.prefix_refl _, List.prefix_refl _, List.prefix_refl _, List.prefix_refl _,
    List.prefix_refl _⟩

theorem Grown.trans {d₁ d₂ d₃ : Directory} (h : d₁.Grown d₂) (h' : d₂.Grown d₃) : d₁.Grown d₃ :=
  ⟨h.users.trans h'.users, h.roles.trans h'.roles, h.permissions.trans h'.permissions,
    h.assignments.trans h'.assignments, h.grants.trans h'.grants⟩

theorem Grown.has (h : d.Grown d') (hf : d.Has f) : d'.Has f := by
  cases f with
  | role name =>
    obtain ⟨r, hr, hn⟩ := hf
    exact ⟨r, h.roles.subset hr, hn⟩
  | permission name =>
    obtain ⟨p, hp, hn⟩ := hf
    exact ⟨p, h.permissions.subset hp, hn⟩
  | grant role permission =>
    obtain ⟨r, hr, p, hp, hrn, hpn, hg⟩ := hf
    exact ⟨r, h.roles.subset hr, p, h.permissions.subset hp, hrn, hpn, h.grants.subset hg⟩
  | user email name active =>
    obtain ⟨u, hu, hn⟩ := hf
    exact ⟨u, h.users.subset hu, hn⟩
  | assignment email role =>
    obtain ⟨u, hu, r, hr, hun, hrn, ha⟩ := hf
    exact ⟨u, h.users.subset hu, r, h.roles.subset hr, hun, hrn, h.assignments.subset ha⟩

/-! ## Names and addresses -/

theorem equalFold_iff {s t : String} :
    Ascii.equalFold s t = true ↔ Ascii.lowerString s = Ascii.lowerString t := by
  rw [Ascii.equalFold, beq_iff_eq]
  constructor
  · intro h
    rw [Ascii.lowerString, Ascii.lowerString, h]
  · intro h
    have := congrArg String.toList h
    simpa [Ascii.lowerString] using this

theorem of_byEmail {email : String} {u : User} (h : d.byEmail email = some u) :
    u ∈ d.users ∧ Ascii.lowerString u.email = Ascii.lowerString email := by
  refine ⟨List.mem_of_find?_eq_some h, equalFold_iff.1 ?_⟩
  simpa using List.find?_some h

namespace Unique

variable (h : d.Unique)
include h

theorem role_eq {r r' : Role} (hr : r ∈ d.roles) (hr' : r' ∈ d.roles) (hn : r.name = r'.name) :
    r = r' :=
  List.inj_on_of_nodup_map h.roles hr hr' hn

theorem permission_eq {p p' : Permission} (hp : p ∈ d.permissions) (hp' : p' ∈ d.permissions)
    (hn : p.name = p'.name) : p = p' :=
  List.inj_on_of_nodup_map h.permissions hp hp' hn

theorem user_eq {u u' : User} (hu : u ∈ d.users) (hu' : u' ∈ d.users)
    (he : Ascii.lowerString u.email = Ascii.lowerString u'.email) : u = u' :=
  List.inj_on_of_nodup_map h.users hu hu' he

theorem byEmail_eq_some_iff {email : String} {u : User} :
    d.byEmail email = some u ↔
      u ∈ d.users ∧ Ascii.lowerString u.email = Ascii.lowerString email := by
  refine ⟨of_byEmail, fun ⟨hu, he⟩ => ?_⟩
  cases hf : d.byEmail email with
  | none => exact absurd (equalFold_iff.2 he) (List.find?_eq_none.1 hf u hu)
  | some v =>
    obtain ⟨hv, hve⟩ := of_byEmail hf
    rw [h.user_eq hv hu (hve.trans he.symm)]

end Unique

theorem byEmail_eq_none_iff {email : String} :
    d.byEmail email = none ↔
      ∀ u ∈ d.users, Ascii.lowerString u.email ≠ Ascii.lowerString email := by
  simp [byEmail, List.find?_eq_none, equalFold_iff]

theorem Grown.byEmail (h : d.Grown d') (hu' : d'.Unique) {email : String} {u : User}
    (hu : d.byEmail email = some u) : d'.byEmail email = some u :=
  hu'.byEmail_eq_some_iff.2 ⟨h.users.subset (of_byEmail hu).1, (of_byEmail hu).2⟩

namespace Sound

variable (h : d.Sound)
include h

theorem role_eq {r r' : Role} (hr : r ∈ d.roles) (hr' : r' ∈ d.roles) (hi : r.id = r'.id) :
    r = r' :=
  List.inj_on_of_nodup_map h.roles hr hr' hi

theorem permission_eq {p p' : Permission} (hp : p ∈ d.permissions) (hp' : p' ∈ d.permissions)
    (hi : p.id = p'.id) : p = p' :=
  List.inj_on_of_nodup_map h.permissions hp hp' hi

theorem user_eq {u u' : User} (hu : u ∈ d.users) (hu' : u' ∈ d.users) (hi : u.id = u'.id) :
    u = u' :=
  List.inj_on_of_nodup_map h.users hu hu' hi

/-- An identifier that a directory does not know stands in no relation. -/
theorem not_mem_assignments (hid : ¬d.Knows id) (other : Uuid) :
    (id, other) ∉ d.assignments ∧ (other, id) ∉ d.assignments :=
  ⟨fun ha => hid (.inl (h.assignments _ ha).1), fun ha => hid (.inr (.inl (h.assignments _ ha).2))⟩

theorem not_mem_grants (hid : ¬d.Knows id) (other : Uuid) :
    (id, other) ∉ d.grants ∧ (other, id) ∉ d.grants :=
  ⟨fun hg => hid (.inr (.inl (h.grants _ hg).1)), fun hg => hid (.inr (.inr (h.grants _ hg).2))⟩

end Sound

/-- A change that does nothing adds what was there. -/
theorem adds_self (h : d.Sound) (hu : d.Unique) (hf : d.Has f) : d.Adds f id d where
  sound := h
  unique := hu
  grown := .refl d
  has _ := ⟨.inl, fun hg => hg.elim (fun hg => hg) fun he => he ▸ hf⟩
  knows _ hi := .inl hi
  same _ := rfl

/-! ## New things -/

section

variable (h : d.Sound) (hu : d.Unique)
include h hu

theorem adds_newRole {r : Role} (hid : ¬d.Knows r.id) (hn : ¬d.Has (.role r.name)) :
    d.Adds (.role r.name) r.id (d.insertRole r) := by
  have hnew : r.id ∉ d.roles.map Role.id := fun hm => hid (.inr (.inl hm))
  have hname : r.name ∉ d.roles.map Role.name := by simpa [Has] using hn
  have hsound := h.insertRole r
  unfold insertRole at hsound ⊢
  rw [replaceOrAdd_of_not_mem hnew] at hsound ⊢
  refine ⟨hsound, { hu with roles := ?_ },
    { Grown.refl d with roles := List.prefix_append _ _ }, fun g => ?_, fun i hi => ?_,
    fun hf => absurd hf hn⟩
  · rw [List.map_append]
    exact hu.roles.append (by simp) (by simpa using hname)
  · cases g with
    | role name => simp [Has, or_and_right, exists_or, eq_comm]
    | permission | user => simp [Has]
    | grant role permission =>
      -- the name of the new role may stand in no grant, for no grant has its identifier
      have hno := fun p => (h.not_mem_grants hid p).1
      simp [Has, or_and_right, exists_or, hno]
    | assignment email role =>
      have hno := fun u => (h.not_mem_assignments hid u).2
      simp [Has, or_and_right, exists_or, hno]
  · simp only [Knows, List.map_append, List.mem_append, List.map_cons, List.map_nil,
      List.mem_singleton] at hi ⊢
    tauto

theorem adds_newPermission {p : Permission} (hid : ¬d.Knows p.id)
    (hn : ¬d.Has (.permission p.name)) :
    d.Adds (.permission p.name) p.id (d.insertPermission p) := by
  have hnew : p.id ∉ d.permissions.map Permission.id := fun hm => hid (.inr (.inr hm))
  have hname : p.name ∉ d.permissions.map Permission.name := by simpa [Has] using hn
  have hsound := h.insertPermission p
  unfold insertPermission at hsound ⊢
  rw [replaceOrAdd_of_not_mem hnew] at hsound ⊢
  refine ⟨hsound, { hu with permissions := ?_ },
    { Grown.refl d with permissions := List.prefix_append _ _ }, fun g => ?_, fun i hi => ?_,
    fun hf => absurd hf hn⟩
  · rw [List.map_append]
    exact hu.permissions.append (by simp) (by simpa using hname)
  · cases g with
    | permission name => simp [Has, or_and_right, exists_or, eq_comm]
    | role | user | assignment => simp [Has]
    | grant role permission =>
      have hno := fun r => (h.not_mem_grants hid r).2
      simp [Has, or_and_right, exists_or, hno]
  · simp only [Knows, List.map_append, List.mem_append, List.map_cons, List.map_nil,
      List.mem_singleton] at hi ⊢
    tauto

theorem adds_newUser {u : User} (hid : ¬d.Knows u.id) (hn : d.byEmail u.email = none) :
    d.Adds (.user u.email u.name u.active) u.id (d.insertUser u) := by
  have hnew : u.id ∉ d.users.map User.id := fun hm => hid (.inl hm)
  have hsound := h.insertUser u
  unfold insertUser at hsound ⊢
  rw [replaceOrAdd_of_not_mem hnew] at hsound ⊢
  refine ⟨hsound, { hu with users := ?_ },
    { Grown.refl d with users := List.prefix_append _ _ }, fun g => ?_, fun i hi => ?_,
    fun hf => ?_⟩
  · rw [List.map_append]
    exact hu.users.append (by simp) (by simpa using byEmail_eq_none_iff.1 hn)
  · cases g with
    | user email name active => simp [Has, or_and_right, exists_or, eq_comm]
    | role | permission | grant => simp [Has]
    | assignment email role =>
      have hno := fun r => (h.not_mem_assignments hid r).1
      simp [Has, or_and_right, exists_or, hno]
  · simp only [Knows, List.map_append, List.mem_append, List.map_cons, List.map_nil,
      List.mem_singleton] at hi ⊢
    tauto
  · obtain ⟨v, hv, he, -⟩ := hf
    exact absurd (congrArg Ascii.lowerString he) (byEmail_eq_none_iff.1 hn v hv)

end

/-! ## Relations -/

theorem prefix_addOnce (x : Uuid × Uuid) (xs : List (Uuid × Uuid)) : xs <+: addOnce x xs := by
  unfold addOnce
  split
  · exact List.prefix_refl xs
  · exact List.prefix_append _ _

/-- A permission that exists can be granted to a role that exists. -/
theorem grant_eq {r : Role} {p : Permission} (hr : r ∈ d.roles) (hp : p ∈ d.permissions) :
    d.grant r.id p.id = .ok { d with grants := addOnce (r.id, p.id) d.grants } := by
  have hr' := role?_isSome_iff.2 (List.mem_map_of_mem (f := Role.id) hr)
  have hp' := permission?_isSome_iff.2 (List.mem_map_of_mem (f := Permission.id) hp)
  rw [Option.isSome_iff_ne_none, ne_eq, ← Option.isNone_iff_eq_none] at hr' hp'
  rw [Directory.grant, if_neg hr', if_neg hp']

/-- A permission can be granted only if it exists and the role does. -/
theorem grant_fails_or (role permission : Uuid) : (∃ e, d.grant role permission = .error e) ∨
    ∃ r ∈ d.roles, ∃ p ∈ d.permissions, r.id = role ∧ p.id = permission := by
  unfold Directory.grant
  split
  · exact .inl ⟨_, rfl⟩
  · split
    · exact .inl ⟨_, rfl⟩
    · rename_i hr hp
      rw [Option.isNone_iff_eq_none, ← Option.not_isSome_iff_eq_none, not_not] at hr hp
      obtain ⟨r, hr, hri⟩ := List.mem_map.1 (role?_isSome_iff.1 hr)
      obtain ⟨p, hp, hpi⟩ := List.mem_map.1 (permission?_isSome_iff.1 hp)
      exact .inr ⟨r, hr, p, hp, hri, hpi⟩

theorem assign_fails_or (user role : Uuid) : (∃ e, d.assign user role = .error e) ∨
    ∃ u ∈ d.users, ∃ r ∈ d.roles, u.id = user ∧ r.id = role := by
  unfold Directory.assign
  split
  · exact .inl ⟨_, rfl⟩
  · split
    · exact .inl ⟨_, rfl⟩
    · rename_i hu hr
      rw [Option.isNone_iff_eq_none, ← Option.not_isSome_iff_eq_none, not_not] at hu hr
      obtain ⟨u, hu, hui⟩ := List.mem_map.1 (user?_isSome_iff.1 hu)
      obtain ⟨r, hr, hri⟩ := List.mem_map.1 (role?_isSome_iff.1 hr)
      exact .inr ⟨u, hu, r, hr, hui, hri⟩

theorem assign_eq {u : User} {r : Role} (hu : u ∈ d.users) (hr : r ∈ d.roles) :
    d.assign u.id r.id = .ok { d with assignments := addOnce (u.id, r.id) d.assignments } := by
  have hu' := user?_isSome_iff.2 (List.mem_map_of_mem (f := User.id) hu)
  have hr' := role?_isSome_iff.2 (List.mem_map_of_mem (f := Role.id) hr)
  rw [Option.isSome_iff_ne_none, ne_eq, ← Option.isNone_iff_eq_none] at hu' hr'
  rw [Directory.assign, if_neg hu', if_neg hr']

section

variable (h : d.Sound) (hu : d.Unique)
include h hu

theorem adds_newGrant {r : Role} {p : Permission} (hr : r ∈ d.roles) (hp : p ∈ d.permissions) :
    d.Adds (.grant r.name p.name) id { d with grants := addOnce (r.id, p.id) d.grants } := by
  have hsound := h.grant r.id p.id
  rw [grant_eq hr hp] at hsound
  refine ⟨hsound, ⟨hu.users, hu.roles, hu.permissions⟩,
    { Grown.refl d with grants := prefix_addOnce _ _ }, fun g => ?_, fun i hi => .inl hi,
    fun hf => ?_⟩
  · cases g with
    | role | permission | user | assignment => simp [Has]
    | grant role permission =>
      simp only [Has, mem_addOnce, Prod.mk.injEq, Fact.grant.injEq]
      constructor
      · rintro ⟨r', hr', p', hp', rfl, rfl, hg | ⟨hri, hpi⟩⟩
        · exact .inl ⟨r', hr', p', hp', rfl, rfl, hg⟩
        · exact .inr ⟨congrArg Role.name (h.role_eq hr' hr hri),
            congrArg Permission.name (h.permission_eq hp' hp hpi)⟩
      · rintro (⟨r', hr', p', hp', rfl, rfl, hg⟩ | ⟨rfl, rfl⟩)
        · exact ⟨r', hr', p', hp', rfl, rfl, .inl hg⟩
        · exact ⟨r, hr, p, hp, rfl, rfl, .inr ⟨rfl, rfl⟩⟩
  · obtain ⟨r', hr', p', hp', hrn, hpn, hg⟩ := hf
    obtain rfl := hu.role_eq hr' hr hrn
    obtain rfl := hu.permission_eq hp' hp hpn
    rw [addOnce, if_pos hg]

theorem adds_newAssignment {u : User} {r : Role} (hmem : u ∈ d.users) (hr : r ∈ d.roles) :
    d.Adds (.assignment u.email r.name) id
      { d with assignments := addOnce (u.id, r.id) d.assignments } := by
  have hsound := h.assign u.id r.id
  rw [assign_eq hmem hr] at hsound
  refine ⟨hsound, ⟨hu.users, hu.roles, hu.permissions⟩,
    { Grown.refl d with assignments := prefix_addOnce _ _ }, fun g => ?_, fun i hi => .inl hi,
    fun hf => ?_⟩
  · cases g with
    | role | permission | user | grant => simp [Has]
    | assignment email role =>
      simp only [Has, mem_addOnce, Prod.mk.injEq, Fact.assignment.injEq]
      constructor
      · rintro ⟨u', hu', r', hr', rfl, rfl, ha | ⟨hui, hri⟩⟩
        · exact .inl ⟨u', hu', r', hr', rfl, rfl, ha⟩
        · exact .inr ⟨congrArg User.email (h.user_eq hu' hmem hui),
            congrArg Role.name (h.role_eq hr' hr hri)⟩
      · rintro (⟨u', hu', r', hr', rfl, rfl, ha⟩ | ⟨rfl, rfl⟩)
        · exact ⟨u', hu', r', hr', rfl, rfl, .inl ha⟩
        · exact ⟨u, hmem, r, hr, rfl, rfl, .inr ⟨rfl, rfl⟩⟩
  · obtain ⟨u', hu', r', hr', hue, hrn, ha⟩ := hf
    obtain rfl := hu.role_eq hr' hr hrn
    obtain rfl := hu.user_eq hu' hmem (congrArg Ascii.lowerString hue)
    rw [addOnce, if_pos ha]

/-! ## Calls -/

theorem adds_ensureRole {now : Time.Instant} {name : String} {x : Except Failure Uuid}
    (hid : ¬d.Knows id) (he : Directory.answer now id (.ensureRole name) d = (x, d')) :
    d.Adds (.role name) id d' ∧ ∃ r ∈ d'.roles, x = .ok r.id ∧ r.name = name := by
  simp only [Directory.answer, Directory.ensureRole] at he
  cases hf : d.roles.find? (·.name = name) with
  | some r =>
    rw [hf] at he
    cases he
    have hmem := List.mem_of_find?_eq_some hf
    have hname : r.name = name := by simpa using List.find?_some hf
    exact ⟨adds_self h hu ⟨r, hmem, hname⟩, r, hmem, rfl, hname⟩
  | none =>
    rw [hf] at he
    cases he
    have hn : ¬d.Has (.role name) := by simpa [Has] using hf
    exact ⟨adds_newRole h hu (r := ⟨id, name, true, now, now⟩) hid hn,
      ⟨id, name, true, now, now⟩, mem_replaceOrAdd_self, rfl, rfl⟩

theorem adds_ensurePermission {now : Time.Instant} {name : String} {x : Except Failure Uuid}
    (hid : ¬d.Knows id) (he : Directory.answer now id (.ensurePermission name) d = (x, d')) :
    d.Adds (.permission name) id d' ∧ ∃ p ∈ d'.permissions, x = .ok p.id ∧ p.name = name := by
  simp only [Directory.answer, Directory.ensurePermission] at he
  cases hf : d.permissions.find? (·.name = name) with
  | some p =>
    rw [hf] at he
    cases he
    have hmem := List.mem_of_find?_eq_some hf
    have hname : p.name = name := by simpa using List.find?_some hf
    exact ⟨adds_self h hu ⟨p, hmem, hname⟩, p, hmem, rfl, hname⟩
  | none =>
    rw [hf] at he
    cases he
    have hn : ¬d.Has (.permission name) := by simpa [Has] using hf
    exact ⟨adds_newPermission h hu (p := ⟨id, name⟩) hid hn, ⟨id, name⟩, mem_replaceOrAdd_self, rfl,
      rfl⟩

variable {now : Time.Instant} {fresh : Uuid}

theorem adds_grant {r : Role} {p : Permission} {x : Except Failure Unit} (hr : r ∈ d.roles)
    (hp : p ∈ d.permissions) (he : Directory.answer now fresh (.grant r.id p.id) d = (x, d')) :
    x = .ok () ∧ d.Adds (.grant r.name p.name) id d' := by
  rw [Directory.answer, grant_eq hr hp] at he
  cases he
  exact ⟨rfl, adds_newGrant h hu hr hp⟩

theorem adds_assign {u : User} {r : Role} {x : Except Failure Unit} (hmem : u ∈ d.users)
    (hr : r ∈ d.roles) (he : Directory.answer now fresh (.assign u.id r.id) d = (x, d')) :
    x = .ok () ∧ d.Adds (.assignment u.email r.name) id d' := by
  rw [Directory.answer, assign_eq hmem hr] at he
  cases he
  exact ⟨rfl, adds_newAssignment h hu hmem hr⟩

theorem adds_createUser {u : User} {x : Except Failure Bool} (hid : ¬d.Knows u.id)
    (hn : d.byEmail u.email = none) (he : Directory.answer now fresh (.createUser u) d = (x, d')) :
    x = .ok true ∧ d.Adds (.user u.email u.name u.active) u.id d' ∧ u ∈ d'.users := by
  rw [Directory.answer, Directory.createUser, if_neg (by simp [hn])] at he
  cases he
  exact ⟨rfl, adds_newUser h hu hid hn, mem_replaceOrAdd_self⟩

/-- Any call that is answered leaves a directory as it is, or adds a fact to it. Nothing else can be
new by it but the identifier that was given for what it makes. -/
theorem adds_answer {call : Call} {x : Except Failure call.Reply}
    (hid : call.makes = true → ¬d.Knows fresh)
    (hcreate : ∀ u, call = .createUser u → ¬d.Knows u.id)
    (he : Directory.answer now fresh call d = (x, d')) :
    d' = d ∨ ∃ f id, d.Adds f id d' ∧
      (d.Knows id ∨ (call.makes = true ∧ id = fresh) ∨ ∃ u, call = .createUser u ∧ id = u.id) := by
  cases call with
  | byEmail | rolesOf | permissionsOf => exact .inl (congrArg Prod.snd he).symm
  | ensureRole name =>
    exact .inr ⟨_, fresh, (adds_ensureRole h hu (hid rfl) he).1, .inr (.inl ⟨rfl, rfl⟩)⟩
  | ensurePermission name =>
    exact .inr ⟨_, fresh, (adds_ensurePermission h hu (hid rfl) he).1, .inr (.inl ⟨rfl, rfl⟩)⟩
  | grant role permission =>
    obtain ⟨e, hfail⟩ | ⟨r, hr, p, hp, rfl, rfl⟩ := grant_fails_or role permission (d := d)
    · rw [Directory.answer, hfail] at he
      exact .inl (congrArg Prod.snd he).symm
    · exact .inr ⟨_, r.id, (adds_grant h hu hr hp he).2,
        .inl (.inr (.inl (List.mem_map_of_mem hr)))⟩
  | assign user role =>
    obtain ⟨e, hfail⟩ | ⟨u, hmem, r, hr, rfl, rfl⟩ := assign_fails_or user role (d := d)
    · rw [Directory.answer, hfail] at he
      exact .inl (congrArg Prod.snd he).symm
    · exact .inr ⟨_, u.id, (adds_assign h hu hmem hr he).2, .inl (.inl (List.mem_map_of_mem hmem))⟩
  | createUser u =>
    by_cases hn : d.byEmail u.email = none
    · exact .inr ⟨_, u.id, (adds_createUser h hu (hcreate u rfl) hn he).2.1,
        .inr (.inr ⟨u, rfl, rfl⟩)⟩
    · have hsome : (d.byEmail u.email).isSome = true := Option.isSome_iff_ne_none.2 hn
      rw [Directory.answer, Directory.createUser, if_pos hsome] at he
      exact .inl (congrArg Prod.snd he).symm

end

end Gatehouse.Directory
