import Mathlib.Data.List.Basic
import Gatehouse.Proofs.Settings.Layers

/-!
# The layer of variables

Each variable for a setting lays a leaf at its path. Variables that go on after a path make a table
or a list there (`at?_of_deeper`); else the last one of exactly this path decides what stands there
(`at?_of_not_deeper`). This needs that no variable goes on after the path of another, since either
of the two can take away what the other gives. Neither depends on the order of variables for
different paths.
-/

namespace Gatehouse.Settings

open Value Layer

variable {vars : List (String × String)} {steps : List KeyStep} {path : List String} {v w : Value}

/-! ## What a leaf decides -/

/-- What a leaf decides stands at its own path, or is what its path goes on through. -/
theorem Value.IsLeaf.of_markAt? (hv : v.IsLeaf) (h : markAt? steps path v = some (some w)) :
    steps = path.map .name ∧ w = v ∨
      (∃ step rest, steps = path.map .name ++ step :: rest) ∧ w.kind ≠ .leaf := by
  induction steps generalizing path with
  | nil =>
    cases path with
    | nil =>
      cases h
      refine .inl ⟨rfl, ?_⟩
      cases v <;> first | rfl | exact hv.elim
    | cons name path => cases v <;> first | cases h | exact hv.elim
  | cons step steps ih =>
    match step, path with
    | .name n, [] =>
      cases h
      exact .inr ⟨⟨_, _, rfl⟩, nofun⟩
    | .index place, [] =>
      cases h
      exact .inr ⟨⟨_, _, rfl⟩, nofun⟩
    | .index place, name :: path => cases h
    | .name n, name :: path =>
      obtain ⟨rfl, hmark⟩ := Option.ite_none_right_eq_some.1 h
      refine (ih hmark).imp ?_ ?_
      · rintro ⟨rfl, rfl⟩
        exact ⟨rfl, rfl⟩
      · rintro ⟨⟨step, rest, rfl⟩, hw⟩
        exact ⟨⟨step, rest, rfl⟩, hw⟩

theorem Value.IsLeaf.markAt?_self (hv : v.IsLeaf) :
    markAt? (path.map .name) path v = some (some v) := by
  induction path with
  | nil => cases v <;> first | rfl | exact hv.elim
  | cons name path ih => rw [List.map_cons, markAt?, if_pos rfl, ih]

theorem Value.isSome_markAt?_append (path : List String) (v : Value) (step : KeyStep)
    (rest : List KeyStep) :
    (markAt? (path.map .name ++ step :: rest) path v).isSome := by
  induction path with
  | nil => cases step <;> rfl
  | cons name path ih =>
    rw [List.map_cons, List.cons_append, markAt?, if_pos rfl]
    exact ih

/-- A leaf stands only at its own path. -/
theorem Value.IsLeaf.steps_eq (hv : v.IsLeaf) (h : (path, .leaf) ∈ partsAt steps v) :
    steps = path.map .name := by
  induction steps generalizing path with
  | nil =>
    have hparts : partsAt [] v = [([], v.kind)] := by
      cases v <;> first | rfl | exact hv.elim
    rw [hparts, List.mem_singleton] at h
    rw [(Prod.mk.inj h).1]
    rfl
  | cons step steps ih =>
    cases step with
    | index place => simp [partsAt] at h
    | name n =>
      rw [partsAt, List.mem_cons] at h
      obtain h | h := h
      · cases h
      · obtain ⟨⟨front, k⟩, hpart, he⟩ := List.mem_map.1 h
        obtain ⟨rfl, rfl⟩ := Prod.mk.inj he
        rw [ih hpart]
        rfl

/-! ## What variables give at a path -/

/-- The layer of variables. -/
def variableLayer (vars : List (String × String)) : Layer :=
  vars.filterMap fun y => (variablePath? y.1).map (·, .ofText y.2)

theorem mem_variableLayer {e : List KeyStep × Value} :
    e ∈ variableLayer vars ↔ ∃ y ∈ vars, variablePath? y.1 = some e.1 ∧ .ofText y.2 = e.2 := by
  simp [variableLayer, Prod.ext_iff]

theorem isLeaf_of_mem_variableLayer {e : List KeyStep × Value} (h : e ∈ variableLayer vars) :
    e.2.IsLeaf := by
  obtain ⟨y, -, -, he⟩ := mem_variableLayer.1 h
  exact he ▸ isLeaf_ofText y.2

theorem lay_variableLayer (vars : List (String × String)) (tree : Value) :
    (variableLayer vars).lay tree = tree.withVariables vars := by
  rw [variableLayer, lay, List.foldl_filterMap, withVariables]
  congr 1
  funext tree y
  obtain ⟨name, value⟩ := y
  dsimp only
  cases variablePath? name <;> rfl

/-- What the last of the variables for a setting gives. -/
def fromVariables (vars : List (String × String)) (path : List String) : Option Value :=
  ((vars.filter fun y => variablePath? y.1 = some (path.map .name)).getLast?).map fun y =>
    .ofText y.2

theorem fromVariables_eq :
    fromVariables vars path = ((variableLayer vars).filterMap fun e =>
      if e.1 = path.map .name then some e.2 else none).getLast? := by
  rw [fromVariables, ← List.getLast?_map, variableLayer, List.filterMap_filterMap,
    ← List.filterMap_eq_map (f := fun y : String × String => ofText y.2), List.filterMap_filter]
  congr 2
  funext y
  cases variablePath? y.1 <;> simp

theorem fromVariables_eq_none (h : ∀ e ∈ variableLayer vars, e.1 ≠ path.map .name) :
    fromVariables vars path = none := by
  rw [fromVariables_eq, List.getLast?_eq_none_iff, List.filterMap_eq_nil_iff]
  exact fun e he => if_neg (h e he)

/-- Whether no path of a variable begins with that of another and goes on. -/
def Apart (vars : List (String × String)) : Prop :=
  ∀ e ∈ variableLayer vars, ∀ e' ∈ variableLayer vars, e.1 <+: e'.1 → e.1 = e'.1

instance : Decidable (Apart vars) :=
  inferInstanceAs (Decidable (∀ e ∈ variableLayer vars, ∀ e' ∈ variableLayer vars, _))

/-- Whether the path of a variable goes on after a path. -/
def Deeper (vars : List (String × String)) (path : List String) : Prop :=
  ∃ e ∈ variableLayer vars, ∃ step rest, e.1 = path.map .name ++ step :: rest

/-- Where no variable goes on after a path, only those for it decide what stands there. -/
theorem own_of_markAt? {e : List KeyStep × Value} (hd : ¬Deeper vars path)
    (he : e ∈ variableLayer vars) (hmark : markAt? e.1 path e.2 = some (some w)) :
    e.1 = path.map .name ∧ w = e.2 := by
  obtain hown | ⟨⟨step, rest, hsteps⟩, -⟩ := (isLeaf_of_mem_variableLayer he).of_markAt? hmark
  · exact hown
  · exact absurd ⟨e, he, step, rest, hsteps⟩ hd

section

variable (hapart : Apart vars)
  (hlist : ∀ front rest, path = front ++ rest → rest ≠ [] →
    (front, .list) ∉ (variableLayer vars).parts)

include hapart hlist

/-- If a variable is for a path or goes on after it, no variable takes away what stands there. -/
theorem exists_of_markAt? {e₀ e : List KeyStep × Value} (he₀ : e₀ ∈ variableLayer vars)
    (hlead : path.map .name <+: e₀.1) (he : e ∈ variableLayer vars) {mark : Option Value}
    (hmark : markAt? e.1 path e.2 = some mark) : ∃ w, mark = some w := by
  cases mark with
  | some w => exact ⟨w, rfl⟩
  | none =>
    obtain ⟨front, rest, k, rfl, hrest, hpart, hk⟩ := exists_part_of_markAt? hmark
    cases k with
    | table => exact absurd rfl hk
    | list => exact absurd (List.mem_flatMap.2 ⟨e, he, hpart⟩) (hlist front rest rfl hrest)
    | leaf =>
      -- a leaf on the way to the path is a variable that another goes on after
      have hsteps := (isLeaf_of_mem_variableLayer he).steps_eq hpart
      rw [List.map_append, ← hsteps] at hlead
      have hfront := (List.prefix_append _ _).trans hlead
      rw [← hapart e he e₀ he₀ hfront] at hlead
      have hlen := hlead.length_le
      rw [List.length_append, List.length_map] at hlen
      have := List.length_pos_iff.2 hrest
      omega

/-- A variable that goes on after a path makes a table or a list there. -/
theorem at?_of_deeper (hpath : path ≠ []) (h : Deeper vars path) :
    ∃ w, (variableLayer vars).at? path = some w ∧ w.kind ≠ .leaf := by
  obtain ⟨e₀, he₀, step, rest, hsteps⟩ := h
  have hlead : path.map .name <+: e₀.1 := ⟨step :: rest, hsteps.symm⟩
  have hself : ∀ e ∈ variableLayer vars, e.1 ≠ path.map .name := by
    intro e he hpath
    have heq := hapart e he e₀ he₀ (hpath ▸ hlead)
    rw [hpath, hsteps] at heq
    simp at heq
  rw [at?_eq hpath]
  cases hmark : (variableLayer vars).mark? path with
  | none =>
    have hnil := List.filterMap_eq_nil_iff.1 (List.getLast?_eq_none_iff.1 hmark) e₀ he₀
    have hsome := isSome_markAt?_append path e₀.2 step rest
    rw [← hsteps, hnil] at hsome
    cases hsome
  | some mark =>
    obtain ⟨e, he, hmark⟩ := List.mem_filterMap.1 (List.mem_of_getLast? hmark)
    obtain ⟨w, rfl⟩ := exists_of_markAt? hapart hlist he₀ hlead he hmark
    obtain ⟨hsteps, -⟩ | ⟨-, hw⟩ := (isLeaf_of_mem_variableLayer he).of_markAt? hmark
    · exact absurd hsteps (hself e he)
    · exact ⟨w, rfl, hw⟩

/-- If a variable is for a path and none goes on after it, all that decide are those for it. -/
theorem marks_eq {e₀ : List KeyStep × Value} (he₀ : e₀ ∈ variableLayer vars)
    (hpath : e₀.1 = path.map .name) (hd : ¬Deeper vars path) :
    ((variableLayer vars).filterMap fun e => markAt? e.1 path e.2) =
      ((variableLayer vars).filterMap fun e =>
        if e.1 = path.map .name then some e.2 else none).map some := by
  rw [List.map_filterMap]
  refine List.filterMap_congr fun e he => ?_
  split
  · rename_i hsteps
    rw [hsteps]
    exact (isLeaf_of_mem_variableLayer he).markAt?_self
  · rename_i hsteps
    refine Option.eq_none_iff_forall_ne_some.2 fun mark hmark => ?_
    obtain ⟨w, rfl⟩ := exists_of_markAt? hapart hlist he₀ (hpath ▸ List.prefix_rfl) he hmark
    exact hsteps (own_of_markAt? hd he hmark).1

/-- Else the last variable of exactly the path decides, if there is one. -/
theorem at?_of_not_deeper (hpath : path ≠ []) (hd : ¬Deeper vars path) :
    (variableLayer vars).at? path = fromVariables vars path := by
  rw [at?_eq hpath]
  by_cases hself : ∃ e₀ ∈ variableLayer vars, e₀.1 = path.map .name
  · obtain ⟨e₀, he₀, hpath₀⟩ := hself
    rw [Layer.mark?, marks_eq hapart hlist he₀ hpath₀ hd, List.getLast?_map, ← fromVariables_eq]
    cases fromVariables vars path <;> rfl
  · rw [fromVariables_eq_none fun e he hsteps => hself ⟨e, he, hsteps⟩]
    refine Option.eq_none_iff_forall_ne_some.2 fun w hw => ?_
    obtain ⟨e, he, hmark⟩ :=
      List.mem_filterMap.1 (List.mem_of_getLast? (Option.join_eq_some_iff.1 hw))
    exact hself ⟨e, he, (own_of_markAt? hd he hmark).1⟩

end

end Gatehouse.Settings
