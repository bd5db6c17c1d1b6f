import Mathlib.Data.List.Infix
import Mathlib.Data.List.Nodup
import Gatehouse.Proofs.Result
import Gatehouse.Proofs.Settings.Reading
import Gatehouse.Proofs.Settings.VariableLayer

/-!
# Settings from layers

The two files and the variables are three layers over each other (`load_eq_of_layers`). Where no
section is given as a list, each setting has the value of the highest layer that gives one, whatever
is given for the settings around it (`load_layered`). A list is not merged with what it is laid
over, so there the settings that it leaves out are lost (`list_hides_lower_settings`).
-/

namespace Gatehouse.Settings

open Value Layer

variable {src : Sources} {name : String} {lower upper : Layer} {vars vars' : List (String × String)}
  {path : List String} {w : Value} {s : AppSettings}

/-! ## The layers of the sources -/

/-- The entries of a file as a layer. -/
def fileLayer (es : List (String × Value)) : Layer :=
  es.map fun e => (keyPath e.1, e.2)

/-- The layer of a file, empty where there is none; `none` if the file cannot be read. -/
def Sources.fileLayer? (src : Sources) (name : String) : Option Layer :=
  match findFile? src.files name with
  | none => some []
  | some (form, content) => (form.read? content).map fileLayer

/-- The layers of all sources, in rising order. -/
def layersOf (lower upper : Layer) (vars : List (String × String)) : List Layer :=
  [lower, upper, variableLayer vars]

theorem lay_fileLayer (es : List (String × Value)) (tree : Value) :
    (fileLayer es).lay tree = tree.withEntries es := by
  rw [fileLayer, lay, List.foldl_map]
  rfl

theorem layFile?_eq (tree : Value) :
    src.layFile? name tree = (src.fileLayer? name).map (·.lay tree) := by
  unfold Sources.layFile? Sources.fileLayer?
  cases findFile? src.files name with
  | none => rfl
  | some file =>
    obtain ⟨form, content⟩ := file
    dsimp only
    rw [Option.map_map]
    congr 1
    funext es
    exact (lay_fileLayer es tree).symm

theorem load_eq_of_layers (hlower : src.fileLayer? "default" = some lower)
    (hupper : src.fileLayer? name = some upper) :
    src.load name = match AppSettings.read .tree (stack (layersOf lower upper src.vars)) with
      | none => .error (.configuration "Failed to deserialize config")
      | some s => s.auth.validate.map fun _ => s := by
  have htree : src.tree? name = some (stack (layersOf lower upper src.vars)) := by
    simp only [Sources.tree?, layFile?_eq, hlower, hupper, ← lay_variableLayer]
    rfl
  rewrite [Sources.load, htree]
  rfl

theorem rooted_layersOf (hlower : src.fileLayer? "default" = some lower)
    (hupper : src.fileLayer? name = some upper) :
    ∀ S ∈ layersOf lower upper vars, S.Rooted := by
  have hfile : ∀ {name : String} {S : Layer}, src.fileLayer? name = some S → S.Rooted := by
    intro name S hS
    unfold Sources.fileLayer? at hS
    split at hS
    · cases hS
      exact nofun
    · obtain ⟨es, -, rfl⟩ := Option.map_eq_some_iff.1 hS
      intro e he
      obtain ⟨e', -, rfl⟩ := List.mem_map.1 he
      exact exists_keyPath_eq_cons e'.1
  intro S hS
  simp only [layersOf, List.mem_cons, List.not_mem_nil, or_false] at hS
  rcases hS with rfl | rfl | rfl
  · exact hfile hlower
  · exact hfile hupper
  · intro e he
    obtain ⟨y, -, hy, -⟩ := mem_variableLayer.1 he
    exact exists_name_of_variablePath? hy

/-! ## Layers in order -/

/-- Whether no source gives a leaf where a lower one gives a table, no variable goes on after the
path of another, and no source gives a section as a list. -/
structure Orderly (lower upper : Layer) (vars : List (String × String)) : Prop where
  no_clash : (layersOf lower upper vars).Pairwise fun S S' => ¬Clash S S'
  apart : Apart vars
  no_list : ∀ S ∈ layersOf lower upper vars, ∀ q ∈ appSections, (q, .list) ∉ S.parts

theorem Layer.clash_iff {S S' : Layer} :
    Clash S S' ↔ ∃ part ∈ S.parts, part.2 = .table ∧ (part.1, .leaf) ∈ S'.parts := by
  constructor
  · rintro ⟨path, htable, hleaf⟩
    exact ⟨_, htable, rfl, hleaf⟩
  · rintro ⟨⟨path, k⟩, htable, rfl, hleaf⟩
    exact ⟨path, htable, hleaf⟩

instance {S S' : Layer} : Decidable (Clash S S') :=
  decidable_of_iff _ clash_iff.symm

theorem orderly_iff :
    Orderly lower upper vars ↔ ((layersOf lower upper vars).Pairwise fun S S' => ¬Clash S S') ∧
      Apart vars ∧ ∀ S ∈ layersOf lower upper vars, ∀ q ∈ appSections, (q, .list) ∉ S.parts :=
  ⟨fun h => ⟨h.no_clash, h.apart, h.no_list⟩, fun ⟨hclash, hapart, hlist⟩ =>
    ⟨hclash, hapart, hlist⟩⟩

instance : Decidable (Orderly lower upper vars) :=
  decidable_of_iff _ orderly_iff.symm

/-- The paths of the sections and of the settings. -/
def appPaths : List (List String) :=
  appSections ++ appSettings.map Setting.path

theorem ne_nil_of_mem_appPaths (hpath : path ∈ appPaths) : path ≠ [] := by
  have h : ∀ path ∈ appPaths, path ≠ [] := by decide
  exact h path hpath

theorem mem_appPaths_of_section (hpath : path ∈ appSections) : path ∈ appPaths :=
  List.mem_append_left _ hpath

theorem mem_appPaths_of_setting {x : Setting AppSettings} (hx : x ∈ appSettings) :
    x.path ∈ appPaths :=
  List.mem_append_right _ (List.mem_map_of_mem hx)

/-- The paths to sections and settings go through sections. -/
theorem mem_appSections_of_append {front rest : List String} (hpath : front ++ rest ∈ appPaths)
    (hrest : rest ≠ []) : front = [] ∨ front ∈ appSections := by
  have h : ∀ path ∈ appPaths, ∀ front ∈ path.inits,
      front = path ∨ front = [] ∨ front ∈ appSections := by decide
  have hfront : front ∈ (front ++ rest).inits := (List.mem_inits _ _).2 (List.prefix_append _ _)
  refine (h _ hpath front hfront).resolve_left fun heq => ?_
  exact hrest (List.append_right_eq_self.1 heq.symm)

theorem topmost?_layersOf :
    topmost? (layersOf lower upper vars) path =
      ((variableLayer vars).at? path).or ((upper.at? path).or (lower.at? path)) := by
  unfold topmost? layersOf
  cases h : (variableLayer vars).at? path <;> cases h' : upper.at? path <;>
    cases h'' : lower.at? path <;> simp [h, h', h'']

theorem Orderly.kind_ne_list (h : Orderly lower upper vars) (hpath : path ∈ appSections)
    (hw : topmost? (layersOf lower upper vars) path = some w) : w.kind ≠ .list := by
  intro hkind
  obtain ⟨S, hS, hat⟩ := exists_of_topmost? hw
  have hpart := mem_parts_of_at? (ne_nil_of_mem_appPaths (mem_appPaths_of_section hpath)) hat
  exact h.no_list S hS path hpath (hkind ▸ hpart)

section

variable (hroot : ∀ S ∈ layersOf lower upper vars, S.Rooted) (h : Orderly lower upper vars)

include hroot h

theorem Orderly.no_list_before (hpath : path ∈ appPaths) :
    ∀ S ∈ layersOf lower upper vars, ∀ front rest, path = front ++ rest → rest ≠ [] →
      (front, .list) ∉ S.parts := by
  rintro S hS front rest rfl hrest hpart
  obtain rfl | hfront := mem_appSections_of_append hpath hrest
  · cases (hroot S hS).kind_eq hpart
  · exact h.no_list S hS front hfront hpart

theorem Orderly.look?_stack (hpath : path ∈ appPaths) :
    look? path (stack (layersOf lower upper vars)) = topmost? (layersOf lower upper vars) path :=
  Layer.look?_stack hroot h.no_clash (ne_nil_of_mem_appPaths hpath) (h.no_list_before hroot hpath)

/-- The settings can be read if each section that is given is a table and each setting has a value
that is converted to its type. -/
theorem Orderly.read_iff :
    AppSettings.read .tree (stack (layersOf lower upper vars)) = some s ↔
      (∀ q ∈ appSections, ∀ w, topmost? (layersOf lower upper vars) q = some w → w.kind = .table) ∧
      ∀ x ∈ appSettings,
        x.resolve (topmost? (layersOf lower upper vars) x.path) = some (x.of s) := by
  have hsection {q : List String} (hq : q ∈ appSections) :=
    h.look?_stack hroot (mem_appPaths_of_section hq)
  have hno : NoLists ([] :: appSections) (stack (layersOf lower upper vars)) := by
    intro q hq w hw
    rcases List.mem_cons.1 hq with rfl | hq
    · rw [look?_nil_stack hroot] at hw
      cases hw
      exact nofun
    · rw [hsection hq] at hw
      exact h.kind_ne_list hq hw
  rw [reads_appSettings.read_iff _ _ hno]
  refine and_congr ⟨fun htables q hq w hw => ?_, fun htables q hq w hw => ?_⟩ ?_
  · rw [← hsection hq] at hw
    exact htables q (List.mem_cons_of_mem _ hq) w hw
  · rcases List.mem_cons.1 hq with rfl | hq
    · rw [look?_nil_stack hroot] at hw
      cases hw
      rfl
    · rw [hsection hq] at hw
      exact htables q hq w hw
  · exact forall₂_congr fun x hx => by rw [h.look?_stack hroot (mem_appPaths_of_setting hx)]

theorem Orderly.topmost?_of_deeper (hpath : path ∈ appPaths) (hd : Deeper vars path) :
    ∃ w, topmost? (layersOf lower upper vars) path = some w ∧ w.kind ≠ .leaf := by
  have hlist := h.no_list_before hroot hpath (variableLayer vars) (by simp [layersOf])
  obtain ⟨w, hw, hkind⟩ := at?_of_deeper h.apart hlist (ne_nil_of_mem_appPaths hpath) hd
  refine ⟨w, ?_, hkind⟩
  rw [topmost?_layersOf, hw, Option.some_or]

theorem Orderly.topmost?_of_not_deeper (hpath : path ∈ appPaths) (hd : ¬Deeper vars path) :
    topmost? (layersOf lower upper vars) path =
      (fromVariables vars path).or ((upper.at? path).or (lower.at? path)) := by
  have hlist := h.no_list_before hroot hpath (variableLayer vars) (by simp [layersOf])
  rw [topmost?_layersOf, at?_of_not_deeper h.apart hlist (ne_nil_of_mem_appPaths hpath) hd]

end

/-! ## The order of variables -/

/-- Whether variables differ at most in the order of those for different paths. -/
def Rearranged (vars vars' : List (String × String)) : Prop :=
  ∀ path, vars.filter (fun y => variablePath? y.1 = some path) =
    vars'.filter fun y => variablePath? y.1 = some path

/-- Variables for different paths may stand in any order. -/
theorem rearranged_of_perm (h : vars.Perm vars')
    (hnodup : (vars.filterMap fun y => variablePath? y.1).Nodup) : Rearranged vars vars' := by
  intro path
  have hperm := h.filter fun y => variablePath? y.1 = some path
  have hlen : (vars.filter fun y => variablePath? y.1 = some path).length ≤ 1 := by
    rw [← List.countP_eq_length_filter]
    have hcount := List.nodup_iff_count_le_one.1 hnodup path
    simpa only [List.count_filterMap, beq_eq_decide] using hcount
  rcases hvars : vars.filter fun y => variablePath? y.1 = some path with _ | ⟨y, _ | ⟨z, ys⟩⟩
  · rw [hvars] at hperm ⊢
    exact hperm.nil_eq
  · rw [hvars] at hperm ⊢
    exact (List.perm_singleton.1 hperm.symm).symm
  · rw [hvars] at hlen
    simp at hlen

namespace Rearranged

theorem symm (h : Rearranged vars vars') : Rearranged vars' vars :=
  fun path => (h path).symm

theorem mem_variableLayer (h : Rearranged vars vars') {e : List KeyStep × Value}
    (he : e ∈ variableLayer vars) : e ∈ variableLayer vars' := by
  obtain ⟨y, hy, hpath, hvalue⟩ := Settings.mem_variableLayer.1 he
  have hmem : y ∈ vars.filter fun y => variablePath? y.1 = some e.1 :=
    List.mem_filter.2 ⟨hy, decide_eq_true hpath⟩
  rw [h e.1] at hmem
  exact Settings.mem_variableLayer.2 ⟨y, (List.mem_filter.1 hmem).1, hpath, hvalue⟩

theorem mem_parts (h : Rearranged vars vars') {part : List String × Kind}
    (hpart : part ∈ (variableLayer vars).parts) : part ∈ (variableLayer vars').parts := by
  obtain ⟨e, he, hpart⟩ := List.mem_flatMap.1 hpart
  exact List.mem_flatMap.2 ⟨e, h.mem_variableLayer he, hpart⟩

theorem deeper (h : Rearranged vars vars') (hd : Deeper vars path) : Deeper vars' path := by
  obtain ⟨e, he, hsteps⟩ := hd
  exact ⟨e, h.mem_variableLayer he, hsteps⟩

theorem orderly (h : Rearranged vars vars') (ho : Orderly lower upper vars) :
    Orderly lower upper vars' where
  no_clash := by
    have hclash : ∀ S, Clash S (variableLayer vars') → Clash S (variableLayer vars) :=
      fun S ⟨path, htable, hleaf⟩ => ⟨path, htable, h.symm.mem_parts hleaf⟩
    have hlower := ho.no_clash
    simp only [layersOf, List.pairwise_cons, List.mem_cons, List.not_mem_nil, or_false,
      forall_eq_or_imp, forall_eq, List.Pairwise.nil, and_true, forall_const, IsEmpty.forall_iff]
      at hlower ⊢
    exact ⟨⟨hlower.1.1, mt (hclash lower) hlower.1.2⟩, mt (hclash upper) hlower.2⟩
  apart e he e' he' :=
    ho.apart e (h.symm.mem_variableLayer he) e' (h.symm.mem_variableLayer he')
  no_list S hS q hq hpart := by
    simp only [layersOf, List.mem_cons, List.not_mem_nil, or_false] at hS
    rcases hS with rfl | rfl | rfl
    · exact ho.no_list S (by simp [layersOf]) q hq hpart
    · exact ho.no_list S (by simp [layersOf]) q hq hpart
    · exact ho.no_list _ (by simp [layersOf]) q hq (h.symm.mem_parts hpart)

/-- Where a variable goes on after a path, either order makes a table or a list: a table of a
section, since no section is a list, and nothing that a setting can be read from. -/
theorem read_eq_some (h : Rearranged vars vars')
    (hroot : ∀ vars, ∀ S ∈ layersOf lower upper vars, S.Rooted) (ho : Orderly lower upper vars)
    (hs : AppSettings.read .tree (stack (layersOf lower upper vars)) = some s) :
    AppSettings.read .tree (stack (layersOf lower upper vars')) = some s := by
  have ho' := h.orderly ho
  have hsame : ∀ path ∈ appPaths, ¬Deeper vars path →
      topmost? (layersOf lower upper vars') path = topmost? (layersOf lower upper vars) path := by
    intro path hpath hd
    have hd' : ¬Deeper vars' path := fun hd' => hd (h.symm.deeper hd')
    rw [ho.topmost?_of_not_deeper (hroot vars) hpath hd,
      ho'.topmost?_of_not_deeper (hroot vars') hpath hd', fromVariables, fromVariables, h]
  obtain ⟨hsections, hsettings⟩ := (ho.read_iff (hroot vars)).1 hs
  refine (ho'.read_iff (hroot vars')).2 ⟨fun q hq w hw => ?_, fun x hx => ?_⟩
  · have hpath := mem_appPaths_of_section hq
    by_cases hd : Deeper vars q
    · obtain ⟨u, hu, hkind⟩ := ho'.topmost?_of_deeper (hroot vars') hpath (h.deeper hd)
      obtain rfl := Option.some.inj (hu.symm.trans hw)
      have hno := ho'.kind_ne_list hq hw
      cases u with
      | table => rfl
      | list => exact absurd rfl hno
      | _ => exact absurd rfl hkind
    · rw [hsame q hpath hd] at hw
      exact hsections q hq w hw
  · have hpath := mem_appPaths_of_setting hx
    have hvalue := hsettings x hx
    by_cases hd : Deeper vars x.path
    · obtain ⟨u, hu, hkind⟩ := ho.topmost?_of_deeper (hroot vars) hpath hd
      rw [hu, x.resolve_of_kind hkind] at hvalue
      cases hvalue
    · rw [hsame x.path hpath hd]
      exact hvalue

theorem read_eq (h : Rearranged vars vars')
    (hroot : ∀ vars, ∀ S ∈ layersOf lower upper vars, S.Rooted) (ho : Orderly lower upper vars) :
    AppSettings.read .tree (stack (layersOf lower upper vars')) =
      AppSettings.read .tree (stack (layersOf lower upper vars)) :=
  Option.ext fun _ =>
    ⟨h.symm.read_eq_some hroot (h.orderly ho), h.read_eq_some hroot ho⟩

end Rearranged

/-! ## Loading -/

theorem AuthSettings.exists_of_validate_eq_error {auth : AuthSettings} {e : Failure}
    (h : auth.validate = .error e) : ∃ message, e = .configuration message := by
  unfold AuthSettings.validate at h
  repeat' split at h
  all_goals cases h
  all_goals exact ⟨_, rfl⟩

theorem exists_of_load_eq_error {e : Failure} (h : src.load name = .error e) :
    ∃ message, e = .configuration message := by
  unfold Sources.load at h
  split at h
  · cases h
    exact ⟨_, rfl⟩
  split at h
  · cases h
    exact ⟨_, rfl⟩
  · rename_i settings _
    cases hv : settings.auth.validate with
    | ok => rw [hv] at h; cases h
    | error e' =>
      rw [hv] at h
      cases h
      exact AuthSettings.exists_of_validate_eq_error hv

theorem load_eq_ok_iff (hlower : src.fileLayer? "default" = some lower)
    (hupper : src.fileLayer? name = some upper) :
    src.load name = .ok s ↔
      AppSettings.read .tree (stack (layersOf lower upper src.vars)) = some s ∧
        s.auth.validate = .ok () := by
  rw [load_eq_of_layers hlower hupper]
  cases AppSettings.read .tree (stack (layersOf lower upper src.vars)) with
  | none => exact iff_of_false nofun nofun
  | some s' =>
    dsimp only
    rw [Option.some.injEq]
    constructor
    · intro h
      obtain ⟨⟨⟩, hv, rfl⟩ := exists_of_map_eq_ok h
      exact ⟨rfl, hv⟩
    · rintro ⟨rfl, hv⟩
      rw [hv]
      rfl

/-- Loading fails with a failure of configuration, or gives settings that pass their check. It gives
them exactly if every section that is there is a table and every setting has a value that can be
converted, by the highest layer that gives something at its own path or by its default. This value
is that of the last variable for it, else that of the named file, else that of the file `default`,
else the default, whatever is given for other settings. Variables for different settings may stand
in any order. -/
theorem load_layered (hlower : src.fileLayer? "default" = some lower)
    (hupper : src.fileLayer? name = some upper) (h : Orderly lower upper src.vars) :
    (∀ e, src.load name = .error e → ∃ message, e = .configuration message) ∧
    (∀ s, src.load name = .ok s ↔ s.auth.validate = .ok () ∧
      (∀ q ∈ appSections, ∀ w, topmost? (layersOf lower upper src.vars) q = some w →
        w.kind = .table) ∧
      ∀ x ∈ appSettings,
        x.resolve (topmost? (layersOf lower upper src.vars) x.path) = some (x.of s)) ∧
    (∀ s, src.load name = .ok s → ∀ x ∈ appSettings,
      x.resolve ((fromVariables src.vars x.path).or ((upper.at? x.path).or (lower.at? x.path))) =
        some (x.of s)) ∧
    ∀ vars', Rearranged src.vars vars' → Sources.load ⟨src.files, vars'⟩ name = src.load name := by
  have hroot : ∀ vars, ∀ S ∈ layersOf lower upper vars, S.Rooted :=
    fun vars => rooted_layersOf hlower hupper
  have hload {s : AppSettings} := load_eq_ok_iff (s := s) hlower hupper
  refine ⟨fun e => exists_of_load_eq_error, fun s => ?_, fun s hs x hx => ?_, fun vars' hvars => ?_⟩
  · rw [hload, h.read_iff (hroot src.vars)]
    exact and_comm
  · have hpath := mem_appPaths_of_setting hx
    have hvalue := ((h.read_iff (hroot src.vars)).1 (hload.1 hs).1).2 x hx
    by_cases hd : Deeper src.vars x.path
    · obtain ⟨w, hw, hkind⟩ := h.topmost?_of_deeper (hroot src.vars) hpath hd
      rw [hw, x.resolve_of_kind hkind] at hvalue
      cases hvalue
    · rwa [h.topmost?_of_not_deeper (hroot src.vars) hpath hd] at hvalue
  · have hload' : Sources.load ⟨src.files, vars'⟩ name = _ := load_eq_of_layers hlower hupper
    rw [hload', load_eq_of_layers hlower hupper, hvars.read_eq hroot h]

theorem exists_of_load {α : Type} {part : AppSettings → α} {a : α}
    (h : (src.load name).toOption.map part = some a) : ∃ s, src.load name = .ok s ∧ part s = a := by
  cases hs : src.load name with
  | error e =>
    rw [hs] at h
    cases h
  | ok s =>
    rw [hs] at h
    exact ⟨s, rfl, Option.some.inj h⟩

/-- A file with the settings that have to be set. -/
def requiredText : String :=
  "[database]\nurl = \"u\"\n" ++
    "[auth]\naccess_secret = \"a\"\nrefresh_secret = \"r\"\npassword_secret = \"p\""

/-- Two files and a variable that each give parts of the cost of deriving passwords. -/
def costSources : Sources where
  files := [("default.toml", requiredText ++ "\n[auth.argon2]\nmemory_kib = 64\niterations = 3"),
    ("test.toml", "[auth.argon2]\niterations = 4")]
  vars := [("USERSVC__AUTH__ARGON2__PARALLELISM", "2"), ("USERSVC__LOGGING__LEVEL", "warn")]

/-- Each part of the cost is from the highest layer that gives it, and the variables may stand in
reverse. -/
theorem cost_from_three_layers :
    ∃ s, costSources.load "test" = .ok s ∧ s.auth.passwordCost = ⟨64, 4, 2⟩ ∧
      Sources.load ⟨costSources.files, costSources.vars.reverse⟩ "test" = .ok s := by
  have hfacts : (costSources.fileLayer? "default").isSome ∧
      (costSources.fileLayer? "test").isSome ∧
      (∀ lower ∈ costSources.fileLayer? "default", ∀ upper ∈ costSources.fileLayer? "test",
        Orderly lower upper costSources.vars) ∧
      (costSources.vars.filterMap fun y => variablePath? y.1).Nodup ∧
      ((costSources.load "test").toOption.map fun s => s.auth.passwordCost) =
        some ⟨64, 4, 2⟩ := by
    decide +kernel
  obtain ⟨hlower, hupper, horderly, hnodup, hcost⟩ := hfacts
  obtain ⟨lower, hlower⟩ := Option.isSome_iff_exists.1 hlower
  obtain ⟨upper, hupper⟩ := Option.isSome_iff_exists.1 hupper
  obtain ⟨s, hs, hcost⟩ := exists_of_load hcost
  obtain ⟨-, -, -, horder⟩ :=
    load_layered hlower hupper (horderly lower hlower upper hupper)
  have hreverse : Rearranged costSources.vars costSources.vars.reverse :=
    rearranged_of_perm (List.reverse_perm _).symm hnodup
  exact ⟨s, hs, hcost, (horder _ hreverse).trans hs⟩

/-- Two files that each give the section of the server as a list. -/
def listSources : Sources where
  files := [("default.toml", "server = [\"h\", 9, 30]\n" ++ requiredText),
    ("test.toml", "server = [\"h2\"]")]
  vars := []

/-- Two variables for one setting. -/
def portSources : Sources where
  files := [("default.toml", requiredText)]
  vars := [("USERSVC__SERVER__PORT", "1"), ("usersvc__server__port", "2")]

theorem last_variable_decides :
    Apart portSources.vars ∧
      (∃ s, portSources.load "test" = .ok s ∧ s.server.port = 2) ∧
      ∃ s, Sources.load ⟨portSources.files, portSources.vars.reverse⟩ "test" = .ok s ∧
        s.server.port = 1 := by
  have hfacts : Apart portSources.vars ∧
      ((portSources.load "test").toOption.map fun s => s.server.port) = some 2 ∧
      ((Sources.load ⟨portSources.files, portSources.vars.reverse⟩ "test").toOption.map
        fun s => s.server.port) = some 1 := by
    decide +kernel
  obtain ⟨hapart, hlast, hfirst⟩ := hfacts
  exact ⟨hapart, exists_of_load hlast, exists_of_load hfirst⟩

/-- A list in a file is all that is read of a section: the port that a lower file gives is lost, and
the host is not the default though nothing is given at its path. Of two variables for one setting
the last decides, so their order matters. -/
theorem list_hides_lower_settings :
    (∃ lower upper, listSources.fileLayer? "default" = some lower ∧
      listSources.fileLayer? "test" = some upper ∧
      (∀ S ∈ layersOf lower upper listSources.vars, ∀ S' ∈ layersOf lower upper listSources.vars,
        ¬Clash S S') ∧
      Apart listSources.vars ∧
      (∃ s, listSources.load "other" = .ok s ∧ s.server = ⟨"h", 9, 30⟩) ∧
      ∃ s, listSources.load "test" = .ok s ∧ s.server = ⟨"h2", 8080, 30⟩ ∧
        ∃ x ∈ appSettings, x.resolve ((fromVariables listSources.vars x.path).or
          ((upper.at? x.path).or (lower.at? x.path))) ≠ some (x.of s)) ∧
    Apart portSources.vars ∧
      (∃ s, portSources.load "test" = .ok s ∧ s.server.port = 2) ∧
      ∃ s, Sources.load ⟨portSources.files, portSources.vars.reverse⟩ "test" = .ok s ∧
        s.server.port = 1 := by
  constructor
  · have hfacts : (listSources.fileLayer? "default").isSome ∧
        (listSources.fileLayer? "test").isSome ∧
        (∀ lower ∈ listSources.fileLayer? "default", ∀ upper ∈ listSources.fileLayer? "test",
          (∀ S ∈ layersOf lower upper listSources.vars,
            ∀ S' ∈ layersOf lower upper listSources.vars, ¬Clash S S') ∧
          ((fromVariables listSources.vars ["server", "host"]).or
            ((upper.at? ["server", "host"]).or (lower.at? ["server", "host"]))).isNone) ∧
        Apart listSources.vars ∧
        (listSources.load "other").toOption.map AppSettings.server = some ⟨"h", 9, 30⟩ ∧
        (listSources.load "test").toOption.map AppSettings.server = some ⟨"h2", 8080, 30⟩ := by
      decide +kernel
    obtain ⟨hlower, hupper, hlayers, hapart, hother, htest⟩ := hfacts
    obtain ⟨lower, hlower⟩ := Option.isSome_iff_exists.1 hlower
    obtain ⟨upper, hupper⟩ := Option.isSome_iff_exists.1 hupper
    obtain ⟨hclash, hhost⟩ := hlayers lower hlower upper hupper
    obtain ⟨s, hs, hserver⟩ := exists_of_load htest
    have hx : Setting.within "server" AppSettings.server
        ⟨["host"], .text, some (.text "0.0.0.0"), fun s => .text s.host⟩ ∈ appSettings := by
      simp [appSettings, serverSettings]
    refine ⟨lower, upper, hlower, hupper, hclash, hapart, exists_of_load hother, s, hs, hserver,
      _, hx, fun hvalue => ?_⟩
    rw [Setting.within, Option.isNone_iff_eq_none.1 hhost] at hvalue
    have hhost : Leaf.text "0.0.0.0" = .text s.server.host := Option.some.inj hvalue
    rw [hserver] at hhost
    exact absurd hhost (by decide)
  · exact last_variable_decides

end Gatehouse.Settings
