import Gatehouse.Directory.Memory

/-!
# Roles and permissions in the directory

What the two lookups of the directory mean: `rolesOf` lists the roles that a user holds and that are
active (`exists_mem_rolesOf_iff`), `permissionsOf` the permissions that a role grants
(`any_permissionsOf_iff`).
-/

namespace Gatehouse.Directory

variable {d : Directory} {user role : Uuid}

/-- Whether a role is active and assigned to a user. -/
def Holds (d : Directory) (user role : Uuid) : Prop :=
  (user, role) ∈ d.assignments ∧ ∃ r, d.role? role = some r ∧ r.active = true

/-- Whether a role grants a permission of a name. -/
def Grants (d : Directory) (role : Uuid) (name : String) : Prop :=
  ∃ permission p, (role, permission) ∈ d.grants ∧ d.permission? permission = some p ∧ p.name = name

theorem id_of_role? {r : Role} (h : d.role? role = some r) : r.id = role := by
  have := List.find?_some h
  simpa using this

theorem mem_rolesOf {ref : RoleRef} :
    ref ∈ d.rolesOf user ↔ ∃ r, (user, r.id) ∈ d.assignments ∧ d.role? r.id = some r ∧
      r.active = true ∧ r.ref = ref := by
  simp only [rolesOf, List.mem_map, List.mem_filter, List.mem_filterMap, decide_eq_true_eq]
  constructor
  · rintro ⟨r, ⟨⟨⟨u, role⟩, ⟨ha, rfl⟩, hr⟩, hact⟩, href⟩
    dsimp only at ha hr ⊢
    rw [← id_of_role? hr] at ha hr
    exact ⟨r, ha, hr, hact, href⟩
  · rintro ⟨r, ha, hr, hact, href⟩
    exact ⟨r, ⟨⟨(user, r.id), ⟨ha, rfl⟩, hr⟩, hact⟩, href⟩

/-- The roles listed for a user are the ones it holds. -/
theorem exists_mem_rolesOf_iff : (∃ ref ∈ d.rolesOf user, ref.id = role) ↔ d.Holds user role := by
  constructor
  · rintro ⟨ref, hm, rfl⟩
    obtain ⟨r, ha, hr, hact, rfl⟩ := mem_rolesOf.1 hm
    exact ⟨ha, r, hr, hact⟩
  · rintro ⟨ha, r, hr, hact⟩
    obtain rfl := id_of_role? hr
    exact ⟨r.ref, mem_rolesOf.2 ⟨r, ha, hr, hact, rfl⟩, rfl⟩

/-- A permission of a name is listed for a role if the role grants it. -/
theorem any_permissionsOf_iff {name : String} :
    ((d.permissionsOf role).any fun p => p.name == name) = true ↔ d.Grants role name := by
  simp only [permissionsOf, List.any_eq_true, List.mem_mergeSort, List.mem_filterMap,
    List.mem_filter, decide_eq_true_eq, beq_iff_eq]
  constructor
  · rintro ⟨p, ⟨⟨r, permission⟩, ⟨hg, rfl⟩, hp⟩, hn⟩
    exact ⟨permission, p, hg, hp, hn⟩
  · rintro ⟨permission, p, hg, hp, hn⟩
    exact ⟨p, ⟨(role, permission), ⟨hg, rfl⟩, hp⟩, hn⟩

end Gatehouse.Directory
