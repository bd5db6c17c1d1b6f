import Gatehouse.Proofs.Directory.Answers

/-!
# What calls add and what they displace

A call to a directory never removes a role, a permission, an assignment or a grant, and changes
none. The one thing that it can take away is a user: a user that is created under an identifier in
use stands in the place of the user that had it (`displaced?`), with the roles that were assigned
to that. `grownBut_act` says so of one deed, and `displaces_by_identifier_only` of every call to a
directory that can come about.
-/

namespace Gatehouse.Directory

open Time (Instant)

/-- The user in whose place a deed puts another. -/
def displacedBy? (d : Directory) : Deed → Option User
  | .user u => d.user? u.id
  | _ => none

/-- The user in whose place a call puts another: the one with the identifier of a user that is
created, if no user has the address of the new one. -/
def displaced? (d : Directory) : Call → Option User
  | .createUser u => (d.newUser? u).bind fun u => d.user? u.id
  | _ => none

/-- Whether all that a directory holds is still there, unchanged and in its place, but for one user
perhaps. -/
structure GrownBut (gone : Option User) (d d' : Directory) : Prop where
  users : ∀ u ∈ d.users, u ∈ d'.users ↔ gone ≠ some u
  /-- No identifier of a user goes, and none moves. -/
  places : d.users.map User.id <+: d'.users.map User.id
  roles : d.roles <+: d'.roles
  permissions : d.permissions <+: d'.permissions
  assignments : d.assignments <+: d'.assignments
  grants : d.grants <+: d'.grants

/-- Whether a deed puts roles and permissions under identifiers that none has, does not put a user
that is there already, and takes no grant away. -/
def IsNew (d : Directory) : Deed → Prop
  | .user u => u ∉ d.users
  | .role r => r.id ∉ d.roles.map Role.id
  | .permission p => p.id ∉ d.permissions.map Permission.id
  | .assigned _ _ | .granted _ _ => True
  | .revoked _ _ => False

variable {d d' : Directory} {now : Instant} {fresh : Uuid} {c : Call}

/-! ## One deed -/

theorem Grown.grownBut (h : d.Grown d') : d.GrownBut none d' where
  users _ hu := iff_of_true (h.users.subset hu) nofun
  places := h.users.map User.id
  roles := h.roles
  permissions := h.permissions
  assignments := h.assignments
  grants := h.grants

/-- Of two users with one identifier only the new one is there afterwards. -/
theorem Sound.mem_insertUser_iff (h : d.Sound) {u v : User} (hu : u ∉ d.users) (hv : v ∈ d.users) :
    v ∈ (d.insertUser u).users ↔ d.user? u.id ≠ some v := by
  by_cases hid : v.id = u.id
  · have hfound : d.user? u.id = some v := hid ▸ find?_of_nodup h.users hv
    refine iff_of_false (fun hmem => hu ?_) (not_not.2 hfound)
    have he : v = u :=
      List.inj_on_of_nodup_map (h.insertUser u).users hmem mem_replaceOrAdd_self hid
    exact he ▸ hv
  · refine iff_of_true (mem_replaceOrAdd_of_ne hv hid) fun hfound => hid ?_
    simpa using List.find?_some hfound

theorem prefix_keys_replaceOrAdd {α : Type} (key : α → Uuid) (x : α) (xs : List α) :
    xs.map key <+: (replaceOrAdd key x xs).map key := by
  rw [keys_replaceOrAdd]
  split
  · exact List.prefix_refl _
  · exact List.prefix_append _ _

theorem prefix_replaceOrAdd {α : Type} {key : α → Uuid} {x : α} {xs : List α}
    (h : key x ∉ xs.map key) : xs <+: replaceOrAdd key x xs := by
  rw [replaceOrAdd_of_not_mem h]
  exact List.prefix_append _ _

/-- A deed only adds, but for the user in whose place it puts another. -/
theorem Sound.grownBut_act (h : d.Sound) {a : Deed} (ha : d.IsNew a) :
    d.GrownBut (d.displacedBy? a) (d.act a) := by
  have hrefl := (Grown.refl d).grownBut
  cases a with
  | user u =>
    exact { hrefl with
      users := fun v hv => h.mem_insertUser_iff ha hv
      places := prefix_keys_replaceOrAdd User.id u d.users }
  | role r => exact { hrefl with roles := prefix_replaceOrAdd ha }
  | permission p => exact { hrefl with permissions := prefix_replaceOrAdd ha }
  | assigned user role => exact { hrefl with assignments := prefix_addOnce _ _ }
  | granted role permission => exact { hrefl with grants := prefix_addOnce _ _ }
  | revoked role permission => exact ha.elim

/-! ## One call -/

/-- What a call means to do is new, if the identifier that is drawn for it is. -/
theorem isNew_of_intent? {a : Deed} (h : d.intent? (.call now fresh c) = some a)
    (hfresh : c.makes = true →
      fresh ∉ d.roles.map Role.id ∧ fresh ∉ d.permissions.map Permission.id) : d.IsNew a := by
  cases c with
  | byEmail | rolesOf | permissionsOf => cases h
  | grant | assign =>
    cases h
    trivial
  | ensureRole name =>
    obtain ⟨r, hr, rfl⟩ := Option.map_eq_some_iff.1 h
    obtain ⟨-, rfl⟩ := newRole?_eq_some_iff.1 hr
    exact (hfresh rfl).1
  | ensurePermission name =>
    obtain ⟨p, hp, rfl⟩ := Option.map_eq_some_iff.1 h
    obtain ⟨-, rfl⟩ := newPermission?_eq_some_iff.1 hp
    exact (hfresh rfl).2
  | createUser u =>
    obtain ⟨v, hv, rfl⟩ := Option.map_eq_some_iff.1 h
    obtain ⟨haddress, rfl⟩ := newUser?_eq_some_iff.1 hv
    exact fun hmem => haddress (List.mem_map_of_mem hmem)

theorem displaced?_eq_of_deed? {a : Deed} (h : d.deed? (.call now fresh c) = some a) :
    d.displaced? c = d.displacedBy? a := by
  have hi := intent?_of_deed? h
  cases c with
  | byEmail | rolesOf | permissionsOf => cases hi
  | grant | assign =>
    cases hi
    rfl
  | ensureRole name =>
    obtain ⟨r, -, rfl⟩ := Option.map_eq_some_iff.1 hi
    rfl
  | ensurePermission name =>
    obtain ⟨p, -, rfl⟩ := Option.map_eq_some_iff.1 hi
    rfl
  | createUser u =>
    obtain ⟨v, hv, rfl⟩ := Option.map_eq_some_iff.1 hi
    obtain ⟨-, rfl⟩ := newUser?_eq_some_iff.1 hv
    rw [displaced?, hv]
    rfl

theorem displaced?_eq_none_of_deed? (h : d.deed? (.call now fresh c) = none) :
    d.displaced? c = none := by
  cases c with
  | createUser u =>
    have hno : (d.newUser? u).map Deed.user = none := h
    rw [displaced?, Option.map_eq_none_iff.1 hno]
    rfl
  | _ => rfl

theorem Sound.grownBut_answer (h : d.Sound)
    (hfresh : c.makes = true →
      fresh ∉ d.roles.map Role.id ∧ fresh ∉ d.permissions.map Permission.id) :
    d.GrownBut (d.displaced? c) (Directory.answer now fresh c d).2 := by
  have hsnd : (Directory.answer now fresh c d).2 = _ := perform_snd d (.call now fresh c)
  cases hd : d.deed? (.call now fresh c) with
  | none =>
    rw [hsnd, hd, displaced?_eq_none_of_deed? hd]
    exact (Grown.refl d).grownBut
  | some a =>
    rw [hsnd, hd, displaced?_eq_of_deed? hd]
    exact h.grownBut_act (isNew_of_intent? (intent?_of_deed? hd) hfresh)

/-- A call that fails does nothing. -/
theorem answer_snd_of_error {e : Failure} (h : (answer now fresh c d).1 = .error e) :
    (answer now fresh c d).2 = d := by
  have hsnd : (answer now fresh c d).2 = _ := perform_snd d (.call now fresh c)
  have hfails : (d.perform (.call now fresh c)).1 = .error e := by
    rw [perform, h]
    rfl
  rw [hsnd, deed?, hfails]
  rfl

/-! ## Creating a user -/

theorem Sound.user?_eq_some_iff (h : d.Sound) {id : Uuid} {v : User} :
    d.user? id = some v ↔ v ∈ d.users ∧ v.id = id := by
  constructor
  · intro hfound
    exact ⟨List.mem_of_find?_eq_some hfound, by simpa using List.find?_some hfound⟩
  · rintro ⟨hv, rfl⟩
    exact find?_of_nodup h.users hv

/-- A user is displaced exactly if another is created under its identifier, and under an address
that is free. -/
theorem Sound.displaced?_eq_some_iff (h : d.Sound) {v : User} :
    d.displaced? c = some v ↔ v ∈ d.users ∧ ∃ u, c = .createUser u ∧ v.id = u.id ∧
      ∀ w ∈ d.users, Ascii.lowerString w.email ≠ Ascii.lowerString u.email := by
  cases c with
  | createUser u =>
    simp only [displaced?, Option.bind_eq_some_iff, newUser?_eq_some_iff, h.user?_eq_some_iff]
    constructor
    · rintro ⟨_, ⟨hfree, rfl⟩, hv, hid⟩
      exact ⟨hv, u, rfl, hid, by simpa using hfree⟩
    · rintro ⟨hv, _, hc, hid, hfree⟩
      cases hc
      exact ⟨u, ⟨by simpa using hfree, rfl⟩, hv, hid⟩
  | _ => exact iff_of_false nofun fun hc => by obtain ⟨-, u, hc, -⟩ := hc; cases hc

/-- How the creation of a user goes: its address is taken and nothing is done, or it is there with
the roles that are assigned to its identifier, which are none unless it displaces a user. -/
inductive Creates (d : Directory) (u : User) : Bool × Directory → Prop where
  | refused (h : ∃ v ∈ d.users, Ascii.lowerString v.email = Ascii.lowerString u.email) :
      d.Creates u (false, d)
  | created {d' : Directory}
      (h : ∀ v ∈ d.users, Ascii.lowerString v.email ≠ Ascii.lowerString u.email)
      (hu : u ∈ d'.users) (hroles : d'.assignedTo u.id = d.assignedTo u.id)
      (hnew : d.displaced? (.createUser u) = none → d'.assignedTo u.id = []) :
      d.Creates u (true, d')

theorem Sound.assignedTo_eq_nil (h : d.Sound) {user : Uuid} (hid : d.user? user = none) :
    d.assignedTo user = [] := by
  refine List.eq_nil_iff_forall_not_mem.2 fun role hrole => ?_
  have hknown := user?_isSome_iff.2 (h.assignments _ (mem_assignedTo.1 hrole)).1
  rw [hid] at hknown
  cases hknown

theorem Sound.creates (h : d.Sound) (u : User) : d.Creates u (d.createUser u) := by
  unfold createUser
  cases hfound : d.byEmail u.email with
  | some v =>
    obtain ⟨hv, he⟩ := of_byEmail hfound
    exact .refused ⟨v, hv, he⟩
  | none =>
    have hfree := byEmail_eq_none_iff.1 hfound
    refine .created hfree mem_replaceOrAdd_self rfl fun hno => ?_
    have hadmits : d.newUser? u = some u := newUser?_eq_some_iff.2 ⟨by simpa using hfree, rfl⟩
    rw [displaced?, hadmits] at hno
    exact h.assignedTo_eq_nil hno

/-! ## All calls -/

/-- After any operations a call that draws a new identifier, or none, leaves all that was there as
it was and in its place, but for the user in whose place it puts another; a call that fails leaves
the directory as it was. A user is displaced exactly if another is created under its identifier and
under an address that is free, and the new one has its roles then; any other user that is created
has none. -/
theorem displaces_by_identifier_only (ops : List Operation) (now : Instant) (fresh : Uuid)
    (c : Call) (hfresh : c.makes = true →
      fresh ∉ (after ops).roles.map Role.id ∧ fresh ∉ (after ops).permissions.map Permission.id) :
    (after ops).GrownBut ((after ops).displaced? c) (answer now fresh c (after ops)).2 ∧
      (∀ e, (answer now fresh c (after ops)).1 = .error e →
        (answer now fresh c (after ops)).2 = after ops) ∧
      (∀ v, (after ops).displaced? c = some v ↔ v ∈ (after ops).users ∧ ∃ u, c = .createUser u ∧
        v.id = u.id ∧
          ∀ w ∈ (after ops).users, Ascii.lowerString w.email ≠ Ascii.lowerString u.email) ∧
      ∀ u, ∃ created d', answer now fresh (.createUser u) (after ops) = (.ok created, d') ∧
        (after ops).Creates u (created, d') := by
  have hsound := (reached_after ops).sound
  exact ⟨hsound.grownBut_answer hfresh, fun e => answer_snd_of_error,
    fun v => hsound.displaced?_eq_some_iff, fun u => ⟨_, _, rfl, hsound.creates u⟩⟩

/-- A user with a role, and another of the same identifier. -/
def smallAccounts : List Operation :=
  [.edit (.insertUser ⟨.ofNat 1, "Ada", "ada@example.com", true, "", "", ⟨0, 0⟩, ⟨0, 0⟩⟩),
    .edit (.insertRole ⟨.ofNat 2, "Admin", true, ⟨0, 0⟩, ⟨0, 0⟩⟩),
    .call ⟨0, 0⟩ (.ofNat 9) (.assign (.ofNat 1) (.ofNat 2))]

/-- A new role displaces nobody, but a new user takes the place of one with its identifier, and its
role. -/
theorem new_user_displaces_another :
    let ada : User := ⟨.ofNat 1, "Ada", "ada@example.com", true, "", "", ⟨0, 0⟩, ⟨0, 0⟩⟩
    let eve : User := ⟨.ofNat 1, "Eve", "eve@example.com", true, "", "", ⟨0, 0⟩, ⟨0, 0⟩⟩
    ada ∈ (after smallAccounts).users ∧
      ada ∈ (answer ⟨0, 0⟩ (.ofNat 3) (.ensureRole "Editor") (after smallAccounts)).2.users ∧
      (answer ⟨0, 0⟩ (.ofNat 3) (.createUser eve) (after smallAccounts)).1 = .ok true ∧
      ada ∉ (answer ⟨0, 0⟩ (.ofNat 3) (.createUser eve) (after smallAccounts)).2.users ∧
      (answer ⟨0, 0⟩ (.ofNat 3) (.createUser eve) (after smallAccounts)).2.rolesOf eve.id =
        [⟨.ofNat 2, "Admin"⟩] := by
  intro ada eve
  have hada : ada ∈ (after smallAccounts).users := by decide
  obtain ⟨hrole, -⟩ := displaces_by_identifier_only smallAccounts ⟨0, 0⟩ (.ofNat 3)
    (.ensureRole "Editor") (by decide)
  obtain ⟨huser, -, hdisplaced, -⟩ := displaces_by_identifier_only smallAccounts ⟨0, 0⟩ (.ofNat 3)
    (.createUser eve) nofun
  have hgone := (hdisplaced ada).2 ⟨hada, eve, rfl, rfl, by decide⟩
  exact ⟨hada, (hrole.users ada hada).2 nofun, by decide,
    fun hmem => (huser.users ada hada).1 hmem hgone, by decide⟩

end Gatehouse.Directory
