import Gatehouse.Settings.Loading

/-!
# Laying values over a settings tree

What stands under a name after a value was laid over a tree: `lookup_put_self` and
`lookup_put_of_ne` for the entries of a table, `entries_set_name` for a path. Every path of a
variable begins with a name (`exists_name_of_variablePath?`), so the tree of all settings is a table
from the first of them on.
-/

namespace Gatehouse.Settings

namespace Value

/-- Whether a value is no table and no list. -/
def IsLeaf : Value → Prop
  | list _ | table _ => False
  | _ => True

theorem isLeaf_ofText (s : String) : (ofText s).IsLeaf := by
  unfold ofText
  split
  · trivial
  · trivial
  · split
    · trivial
    · split <;> trivial

variable {tree v : Value} {name : String} {rest : List KeyStep}

theorem IsLeaf.entries (h : v.IsLeaf) : v.entries = [] := by
  cases v <;> first | rfl | exact h.elim

theorem IsLeaf.ne_list (h : v.IsLeaf) (items : List Value) : v ≠ .list items := by
  rintro rfl
  exact h

/-- A leaf replaces what was there. -/
theorem IsLeaf.merge (h : v.IsLeaf) : tree.merge v = v := by
  cases v <;> first | exact h.elim | rw [Value.merge]; exact nofun

/-! ## Entries -/

theorem lookup_put_self (es : List (String × Value)) :
    (put name v es).lookup name = some v := by
  induction es with
  | nil => simp [put]
  | cons e es ih =>
    rw [put]
    split
    · rename_i h
      simp [h]
    · rename_i h
      rw [List.lookup_cons, beq_false_of_ne (Ne.symm h)]
      exact ih

theorem lookup_put_of_ne {other : String} (h : other ≠ name) (es : List (String × Value)) :
    (put name v es).lookup other = es.lookup other := by
  induction es with
  | nil => simp [put, h]
  | cons e es ih =>
    rw [put]
    split
    · rename_i hn
      rw [List.lookup_cons, List.lookup_cons, beq_false_of_ne (hn ▸ h)]
    · rw [List.lookup_cons, List.lookup_cons, ih]

/-! ## Paths -/

/-- What stands under a name, or nothing. -/
def under (tree : Value) (name : String) : Value :=
  (tree.entries.lookup name).getD .nil

theorem set_name :
    tree.set (.name name :: rest) v =
      .table (put name ((tree.under name).set rest v) tree.entries) := rfl

theorem lookup_set_self :
    (tree.set (.name name :: rest) v).entries.lookup name = some ((tree.under name).set rest v) :=
  lookup_put_self _

theorem lookup_set_of_ne {other : String} (h : other ≠ name) :
    (tree.set (.name name :: rest) v).entries.lookup other = tree.entries.lookup other :=
  lookup_put_of_ne h _

/-- What a path goes through is a table or a list, which has no text. -/
theorem text?_set_cons (step : KeyStep) : (tree.set (step :: rest) v).text? = none := by
  cases step <;> rfl

end Value

/-- The path of a key begins with a name. -/
theorem exists_keyPath_eq_cons (key : String) : ∃ name rest, keyPath key = .name name :: rest := by
  rw [keyPath, readSteps?]
  split
  · exact ⟨_, _, rfl⟩
  · generalize readSteps? key.length _ = steps?
    cases steps? <;> exact ⟨_, _, rfl⟩

theorem exists_name_of_variablePath? {variableName : String} {path : List KeyStep}
    (h : variablePath? variableName = some path) : ∃ name rest, path = .name name :: rest := by
  simp only [variablePath?, Option.ite_none_right_eq_some, Option.some.injEq] at h
  rw [← h.2]
  exact exists_keyPath_eq_cons _

end Gatehouse.Settings
