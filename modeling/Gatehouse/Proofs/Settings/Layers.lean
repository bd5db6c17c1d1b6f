import Mathlib.Data.List.Induction
import Gatehouse.Proofs.Settings.Tree

/-!
# Layers of settings

A settings file and the variables each lay values over a tree, one after another. What this does to
what stands at a path does not depend on the tree (`markAt?`): a value that is laid leaves the path
alone, or it decides what stands there, or that nothing does. So the last value that does not leave
a path alone decides (`look?_lay`). A value that takes away what stands at a path stands itself on
the way to it, and is no table (`exists_part_of_markAt?`).
-/

namespace Gatehouse.Settings

namespace Value

variable {tree v w : Value} {name : String} {path : List String} {es : List (String × Value)}

/-! ## What stands at a path -/

/-- A value without its parts. -/
def surface : Value → Value
  | table _ => table []
  | list _ => list []
  | v => v

/-- What stands in a tree at a path of names. -/
def look? : List String → Value → Option Value
  | [], v => some v.surface
  | name :: path, v => (v.entries.lookup name).bind (look? path)

/-- What a value that is laid over another decides about a path: nothing, or what stands there, or
that nothing does. -/
def mark? : List String → Value → Option (Option Value)
  | [], v => some (some v.surface)
  | name :: path, table es =>
    (es.filterMap fun e => if e.1 = name then mark? path e.2 else none).getLast?
  | _ :: _, _ => some none

/-- What a value that is laid over what stands at a path of steps decides about a path of names. -/
def markAt? : List KeyStep → List String → Value → Option (Option Value)
  | [], path, v => mark? path v
  | .name _ :: _, [], _ => some (some (table []))
  | .name n :: steps, name :: path, v => if n = name then markAt? steps path v else none
  | .index _ :: _, [], _ => some (some (list []))
  | .index _ :: _, _ :: _, _ => some none

theorem look?_getD_nil {found : Option Value} (h : path ≠ []) :
    look? path (found.getD nil) = found.bind (look? path) := by
  cases found with
  | some v => rfl
  | none =>
    obtain ⟨name, rest, rfl⟩ := List.exists_cons_of_ne_nil h
    rfl

theorem look?_put (name : String) (n : String) (v : Value) :
    look? (name :: path) (table (put n v es)) =
      if n = name then look? path v else look? (name :: path) (table es) := by
  show ((put n v es).lookup name).bind _ = _
  by_cases h : n = name
  · subst h
    rw [if_pos rfl, lookup_put_self]
    rfl
  · rw [if_neg h, lookup_put_of_ne (Ne.symm h)]
    rfl

/-- If each of two values for a name is laid over what stood there, the path below goes on from
what stood there. -/
theorem getD_look?_under (tree : Value) {mark : Option (Option Value)}
    (h : path = [] → mark.isSome) :
    mark.getD (look? path (tree.under name)) = mark.getD (look? (name :: path) tree) := by
  cases mark with
  | some _ => rfl
  | none =>
    have hpath : path ≠ [] := fun hnil => Bool.false_ne_true (h hnil)
    exact look?_getD_nil hpath

theorem getLast?_filterMap_cons {α β : Type} (f : α → Option β) (a : α) (as : List α) (d : β) :
    ((a :: as).filterMap f).getLast?.getD d = (as.filterMap f).getLast?.getD ((f a).getD d) := by
  cases h : f a with
  | none => rw [List.filterMap_cons_none h, Option.getD_none]
  | some b =>
    rw [List.filterMap_cons_some h, List.getLast?_cons, Option.getD_some, Option.getD_some]

theorem look?_merge (path : List String) (tree v : Value) :
    look? path (tree.merge v) = (mark? path v).getD (look? path tree) := by
  induction path generalizing tree v with
  | nil => cases v <;> rfl
  | cons name path ih =>
    cases v with
    | table es =>
      rw [merge]
      -- the entries are laid one after another
      have hentries : ∀ under : List (String × Value),
          look? (name :: path) (table (mergeEntries under es)) =
            (mark? (name :: path) (table es)).getD (look? (name :: path) (table under)) := by
        rw [mark?]
        induction es with
        | nil => exact fun _ => rfl
        | cons e es ihes =>
          intro under
          obtain ⟨n, u⟩ := e
          rw [mergeEntries, ihes, getLast?_filterMap_cons, look?_put]
          congr 1
          by_cases hn : n = name
          · subst hn
            have hmark : path = [] → (mark? path u).isSome := by
              rintro rfl
              rfl
            rw [if_pos rfl, if_pos rfl, ih]
            exact getD_look?_under (table under) hmark
          · rw [if_neg hn, if_neg hn, Option.getD_none]
      exact hentries tree.entries
    | _ => rfl

theorem look?_set (steps : List KeyStep) (path : List String) (tree v : Value) :
    look? path (tree.set steps v) = (markAt? steps path v).getD (look? path tree) := by
  induction steps generalizing path tree with
  | nil => exact look?_merge path tree v
  | cons step steps ih =>
    match step, path with
    | .name n, [] => rfl
    | .index _, [] => rfl
    | .index _, _ :: _ => rfl
    | .name n, name :: path =>
      rw [set_name, look?_put, markAt?]
      by_cases hn : n = name
      · subst hn
        have hmark : path = [] → (markAt? steps path v).isSome := by
          rintro rfl
          rcases steps with _ | ⟨_ | _, _⟩ <;> rfl
        rw [if_pos rfl, if_pos rfl, ih]
        exact getD_look?_under tree hmark
      · rw [if_neg hn, if_neg hn, Option.getD_none]
        rfl

/-- On the way to what stands in a tree there are tables. -/
theorem look?_of_longer {tree : Value} {path rest : List String} {w : Value} (hrest : rest ≠ [])
    (h : look? (path ++ rest) tree = some w) : look? path tree = some (table []) := by
  induction path generalizing tree with
  | nil =>
    obtain ⟨name, rest, rfl⟩ := List.exists_cons_of_ne_nil hrest
    cases tree with
    | table es => rfl
    | _ => cases h
  | cons name path ih =>
    obtain ⟨v, hv, h⟩ := Option.bind_eq_some_iff.1 h
    exact Option.bind_eq_some_iff.2 ⟨v, hv, ih h⟩

/-! ## What a value gives -/

/-- The kinds of values. -/
inductive Kind where
  | leaf
  | table
  | list
  deriving DecidableEq, Repr

/-- The kind of a value. -/
def kind : Value → Kind
  | table _ => .table
  | list _ => .list
  | _ => .leaf

mutual

/-- The kinds of all that stands in a value at paths of names. -/
def parts : Value → List (List String × Kind)
  | table es => ([], .table) :: partsOfEntries es
  | v => [([], v.kind)]

/-- The kinds of all that stands in entries. -/
def partsOfEntries : List (String × Value) → List (List String × Kind)
  | [] => []
  | (name, v) :: es => v.parts.map (Prod.map (name :: ·) id) ++ partsOfEntries es

end

/-- The kinds of all that a value gives that is laid at a path of steps. -/
def partsAt : List KeyStep → Value → List (List String × Kind)
  | [], v => v.parts
  | .name n :: steps, v => ([], .table) :: (partsAt steps v).map (Prod.map (n :: ·) id)
  | .index _ :: _, _ => [([], .list)]

theorem kind_surface (v : Value) : v.surface.kind = v.kind := by
  cases v <;> rfl

theorem nil_mem_parts (v : Value) : ([], v.kind) ∈ v.parts := by
  cases v <;> simp [parts, kind]

theorem mem_partsOfEntries {k : Kind} {e : String × Value} (he : e ∈ es)
    (h : (path, k) ∈ e.2.parts) : (e.1 :: path, k) ∈ partsOfEntries es := by
  induction es with
  | nil => cases he
  | cons e' es ih =>
    rw [partsOfEntries, List.mem_append]
    rcases List.mem_cons.1 he with rfl | he
    · exact .inl (List.mem_map_of_mem (f := Prod.map (e.1 :: ·) id) h)
    · exact .inr (ih he)

/-- A value stands itself where it decides what stands. -/
theorem mem_parts_of_mark? (h : mark? path v = some (some w)) : (path, w.kind) ∈ v.parts := by
  induction path generalizing v with
  | nil =>
    cases h
    rw [kind_surface]
    exact nil_mem_parts v
  | cons name path ih =>
    cases v with
    | table es =>
      obtain ⟨e, he, hlast⟩ := List.mem_filterMap.1 (List.mem_of_getLast? h)
      obtain ⟨rfl, hmark⟩ := Option.ite_none_right_eq_some.1 hlast
      exact List.mem_cons_of_mem _ (mem_partsOfEntries he (ih hmark))
    | _ => cases h

/-- A value that takes away what stood at a path stands itself on the way to it, or is laid so. -/
theorem exists_part_of_mark? (h : mark? path v = some none) :
    ∃ front rest k, path = front ++ rest ∧ rest ≠ [] ∧ (front, k) ∈ v.parts ∧ k ≠ .table := by
  induction path generalizing v with
  | nil => cases h
  | cons name path ih =>
    by_cases hv : v.kind = .table
    · cases v with
      | table es =>
        obtain ⟨e, he, hlast⟩ := List.mem_filterMap.1 (List.mem_of_getLast? h)
        obtain ⟨rfl, hmark⟩ := Option.ite_none_right_eq_some.1 hlast
        obtain ⟨front, rest, k, rfl, hrest, hpart, hk⟩ := ih hmark
        exact ⟨e.1 :: front, rest, k, rfl, hrest,
          List.mem_cons_of_mem _ (mem_partsOfEntries he hpart), hk⟩
      | _ => cases hv
    · exact ⟨[], name :: path, v.kind, rfl, nofun, nil_mem_parts v, hv⟩

theorem mem_partsAt_of_markAt? {steps : List KeyStep} (h : markAt? steps path v = some (some w)) :
    (path, w.kind) ∈ partsAt steps v := by
  induction steps generalizing path with
  | nil => exact mem_parts_of_mark? h
  | cons step steps ih =>
    match step, path with
    | .name n, [] =>
      cases h
      exact List.mem_cons_self
    | .index _, [] =>
      cases h
      exact List.mem_cons_self
    | .index _, _ :: _ => cases h
    | .name n, name :: path =>
      obtain ⟨rfl, hmark⟩ := Option.ite_none_right_eq_some.1 h
      exact List.mem_cons_of_mem _ (List.mem_map_of_mem (f := Prod.map (n :: ·) id) (ih hmark))

theorem exists_part_of_markAt? {steps : List KeyStep} (h : markAt? steps path v = some none) :
    ∃ front rest k, path = front ++ rest ∧ rest ≠ [] ∧ (front, k) ∈ partsAt steps v ∧
      k ≠ .table := by
  induction steps generalizing path with
  | nil => exact exists_part_of_mark? h
  | cons step steps ih =>
    match step, path with
    | .name n, [] => cases h
    | .index _, [] => cases h
    | .index _, name :: path =>
      exact ⟨[], name :: path, .list, rfl, nofun, List.mem_singleton_self _, nofun⟩
    | .name n, name :: path =>
      obtain ⟨rfl, hmark⟩ := Option.ite_none_right_eq_some.1 h
      obtain ⟨front, rest, k, rfl, hrest, hpart, hk⟩ := ih hmark
      exact ⟨n :: front, rest, k, rfl, hrest,
        List.mem_cons_of_mem _ (List.mem_map_of_mem (f := Prod.map (n :: ·) id) hpart), hk⟩

end Value

open Value

/-! ## Layers -/

/-- Values with the paths that they are laid at, one after another. -/
abbrev Layer := List (List KeyStep × Value)

namespace Layer

variable {S S' : Layer} {layers : List Layer} {tree w : Value} {path : List String} {k : Kind}

/-- A tree with the layer over it. -/
def lay (S : Layer) (tree : Value) : Value :=
  S.foldl (fun tree e => tree.set e.1 e.2) tree

/-- What the layer decides about a path. -/
def mark? (S : Layer) (path : List String) : Option (Option Value) :=
  (S.filterMap fun e => markAt? e.1 path e.2).getLast?

/-- What the layer alone gives at a path. -/
def at? (S : Layer) (path : List String) : Option Value :=
  look? path (S.lay (.table []))

/-- The kinds of all that values of the layer give. -/
def parts (S : Layer) : List (List String × Kind) :=
  S.flatMap fun e => partsAt e.1 e.2

/-- Whether all paths of the layer begin with a name. -/
def Rooted (S : Layer) : Prop :=
  ∀ e ∈ S, ∃ name rest, e.1 = .name name :: rest

/-- Whether a layer gives a table where another gives a leaf. -/
def Clash (S S' : Layer) : Prop :=
  ∃ path, (path, .table) ∈ S.parts ∧ (path, .leaf) ∈ S'.parts

/-- Layers over each other, in rising order. -/
def stack (layers : List Layer) : Value :=
  layers.foldl (fun tree S => S.lay tree) (.table [])

/-- What the highest layer gives that gives anything at a path. -/
def topmost? (layers : List Layer) (path : List String) : Option Value :=
  layers.reverse.findSome? fun S => S.at? path

theorem look?_lay : look? path (S.lay tree) = (S.mark? path).getD (look? path tree) := by
  unfold lay mark?
  induction S generalizing tree with
  | nil => rfl
  | cons e S ih => rw [List.foldl_cons, ih, look?_set, getLast?_filterMap_cons]

theorem at?_eq (hpath : path ≠ []) : S.at? path = (S.mark? path).join := by
  obtain ⟨name, rest, rfl⟩ := List.exists_cons_of_ne_nil hpath
  rw [at?, look?_lay]
  cases S.mark? (name :: rest) <;> rfl

theorem mem_parts_of_mark? (h : S.mark? path = some (some w)) : (path, w.kind) ∈ S.parts := by
  obtain ⟨e, he, hmark⟩ := List.mem_filterMap.1 (List.mem_of_getLast? h)
  exact List.mem_flatMap.2 ⟨e, he, mem_partsAt_of_markAt? hmark⟩

theorem mem_parts_of_at? (hpath : path ≠ []) (h : S.at? path = some w) :
    (path, w.kind) ∈ S.parts := by
  rw [at?_eq hpath] at h
  exact mem_parts_of_mark? (Option.join_eq_some_iff.1 h)

theorem exists_part_of_mark? (h : S.mark? path = some none) :
    ∃ front rest k, path = front ++ rest ∧ rest ≠ [] ∧ (front, k) ∈ S.parts ∧ k ≠ .table := by
  obtain ⟨e, he, hmark⟩ := List.mem_filterMap.1 (List.mem_of_getLast? h)
  obtain ⟨front, rest, k, hpath, hrest, hpart, hk⟩ := exists_part_of_markAt? hmark
  exact ⟨front, rest, k, hpath, hrest, List.mem_flatMap.2 ⟨e, he, hpart⟩, hk⟩

/-- A layer gives a table as a whole. -/
theorem Rooted.kind_eq (h : S.Rooted) (hk : ([], k) ∈ S.parts) : k = .table := by
  obtain ⟨e, he, hpart⟩ := List.mem_flatMap.1 hk
  obtain ⟨name, rest, hsteps⟩ := h e he
  rw [hsteps, partsAt] at hpart
  rcases List.mem_cons.1 hpart with hpart | hpart
  · exact (Prod.mk.inj hpart).2
  · obtain ⟨part, -, hpart⟩ := List.mem_map.1 hpart
    cases (Prod.mk.inj hpart).1

/-- What stands at a path is what the layer gives there, else what stood there before, if the layer
has neither a leaf nor a list where a table stood on the way. -/
theorem look?_lay_eq_or (hpath : path ≠ [])
    (h : ∀ front rest k, path = front ++ rest → rest ≠ [] → (front, k) ∈ S.parts → k ≠ .table →
      look? front tree ≠ some (.table [])) :
    look? path (S.lay tree) = (S.at? path).or (look? path tree) := by
  rw [look?_lay, at?_eq hpath]
  cases hmark : S.mark? path with
  | none => rfl
  | some mark =>
    cases mark with
    | some w => rfl
    | none =>
      obtain ⟨front, rest, k, rfl, hrest, hpart, hk⟩ := exists_part_of_mark? hmark
      have hno : look? (front ++ rest) tree = none := by
        refine Option.eq_none_iff_forall_ne_some.2 fun w hw => ?_
        exact h front rest k rfl hrest hpart hk (look?_of_longer hrest hw)
      rw [hno]
      rfl

theorem topmost?_append (layers : List Layer) (S : Layer) :
    topmost? (layers ++ [S]) path = (S.at? path).or (topmost? layers path) := by
  rw [topmost?, List.reverse_append, List.reverse_singleton, List.singleton_append,
    List.findSome?_cons]
  cases S.at? path <;> rfl

theorem exists_of_topmost? (h : topmost? layers path = some w) :
    ∃ S ∈ layers, S.at? path = some w := by
  obtain ⟨S, hS, hat⟩ := List.exists_of_findSome?_eq_some h
  exact ⟨S, List.mem_reverse.1 hS, hat⟩

theorem look?_nil_stack (hroot : ∀ S ∈ layers, S.Rooted) :
    look? [] (stack layers) = some (.table []) := by
  suffices h : ∀ tree, look? [] tree = some (.table []) →
      look? [] (layers.foldl (fun tree S => S.lay tree) tree) = some (.table []) from h _ rfl
  induction layers with
  | nil => exact fun _ htree => htree
  | cons S layers ih =>
    intro tree htree
    refine ih (fun S' hS' => hroot S' (List.mem_cons_of_mem _ hS')) _ ?_
    rw [look?_lay]
    cases hmark : S.mark? [] with
    | none => exact htree
    | some mark =>
      obtain ⟨e, he, hmark⟩ := List.mem_filterMap.1 (List.mem_of_getLast? hmark)
      obtain ⟨name, rest, hsteps⟩ := hroot S List.mem_cons_self e he
      rw [hsteps] at hmark
      cases hmark
      rfl

/-- At each path stands what the highest layer gives that gives anything there, if no layer gives a
leaf where a lower one gives a table, and none a list on the way to the path. -/
theorem look?_stack (hroot : ∀ S ∈ layers, S.Rooted)
    (hclash : layers.Pairwise fun S S' => ¬Clash S S') (hpath : path ≠ [])
    (hlist : ∀ S ∈ layers, ∀ front rest, path = front ++ rest → rest ≠ [] →
      (front, .list) ∉ S.parts) :
    look? path (stack layers) = topmost? layers path := by
  induction layers using List.reverseRecOn generalizing path with
  | nil =>
    obtain ⟨name, rest, rfl⟩ := List.exists_cons_of_ne_nil hpath
    rfl
  | append_singleton layers S ih =>
    have hlower : ∀ S' ∈ layers, S' ∈ layers ++ [S] := fun S' hS' => List.mem_append_left _ hS'
    have htop : S ∈ layers ++ [S] := List.mem_append_right _ (List.mem_singleton_self S)
    obtain ⟨hclash, -, hclash'⟩ := List.pairwise_append.1 hclash
    have ih {path : List String} (hpath : path ≠ [])
        (hlist : ∀ S' ∈ layers ++ [S], ∀ front rest, path = front ++ rest → rest ≠ [] →
          (front, .list) ∉ S'.parts) :=
      ih (fun S' hS' => hroot S' (hlower S' hS')) hclash hpath
        fun S' hS' => hlist S' (hlower S' hS')
    have hstack : stack (layers ++ [S]) = S.lay (stack layers) := by
      rw [stack, List.foldl_append]
      rfl
    rw [hstack, topmost?_append, ← ih hpath hlist]
    refine look?_lay_eq_or hpath fun front rest k he hrest hpart hk htable => ?_
    subst he
    have hfront : front ≠ [] := by
      rintro rfl
      exact hk ((hroot S htop).kind_eq hpart)
    rw [ih hfront fun S' hS' front' rest' he hrest' => ?_] at htable
    · obtain ⟨S', hS', hat⟩ := exists_of_topmost? htable
      have htable' := mem_parts_of_at? hfront hat
      cases k with
      | leaf =>
        exact hclash' S' hS' S (List.mem_singleton_self S) ⟨front, htable', hpart⟩
      | table => exact hk rfl
      | list => exact hlist S htop front rest rfl hrest hpart
    · refine hlist S' hS' front' (rest' ++ rest) ?_ ?_
      · rw [he, List.append_assoc]
      · simp [hrest]

end Layer

end Gatehouse.Settings
