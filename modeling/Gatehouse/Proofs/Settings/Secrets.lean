import Gatehouse.Proofs.Settings.Tree
import Gatehouse.Proofs.Settings.VariableText

/-!
# Secrets from variables

A secret that a variable supplies is loaded as the text that its value is converted to
(`supplied_secret_is_converted`): a text that is read as a truth value or a number is not loaded as
it was supplied but as this value is written, so different texts can be loaded as the same secret.
-/

namespace Gatehouse.Settings

/-- The three secrets. -/
inductive Secret where
  | access
  | refresh
  | password
  deriving DecidableEq, Repr

namespace Secret

/-- The name of the setting. -/
def field : Secret → String
  | access => "access_secret"
  | refresh => "refresh_secret"
  | password => "password_secret"

/-- The variable that supplies it. -/
def variableName : Secret → String
  | access => "USERSVC__AUTH__ACCESS_SECRET"
  | refresh => "USERSVC__AUTH__REFRESH_SECRET"
  | password => "USERSVC__AUTH__PASSWORD_SECRET"

/-- The secret in the settings. -/
def of (s : AuthSettings) : Secret → String
  | access => s.accessSecret
  | refresh => s.refreshSecret
  | password => s.passwordSecret

/-- The path of the setting. -/
def path (x : Secret) : List KeyStep := [.name "auth", .name x.field]

theorem variablePath?_variableName (x : Secret) : variablePath? x.variableName = some x.path := by
  cases x <;> decide

end Secret

variable {x : Secret} {v u tree : Value} {s : String} {vars : List (String × String)}
  {path : List KeyStep}

/-! ## Laying variables over a secret -/

/-- Whether a value at a path can be loaded as a secret: the path is that of its setting, or goes to
a place in a list that the section of the secrets is made, where settings stand in order. -/
def Displaces (path : List KeyStep) (x : Secret) : Prop :=
  path = x.path ∨ ∃ place rest, path = .name "auth" :: .index place :: rest

/-- Whether a variable supplies a secret, and none after it is loaded as this secret instead. -/
def Supplies (vars : List (String × String)) (x : Secret) (s : String) : Prop :=
  ∃ before after, vars = before ++ (x.variableName, s) :: after ∧
    ∀ y ∈ after, ∀ path, variablePath? y.1 = some path → ¬Displaces path x

/-- Whether a value is the only one that can be loaded from a tree as a secret. -/
structure Holds (tree : Value) (x : Secret) (v : Value) : Prop where
  table : ∃ es, tree = .table es
  no_list : ∀ items, tree.entries.lookup "auth" ≠ some (.list items)
  only : ∀ part w, tree.entries.lookup "auth" = some part →
    part.entries.lookup x.field = some w → w = v ∨ w.text? = none

theorem holds_set_path (hv : v.IsLeaf) : Holds (tree.set x.path v) x v where
  table := ⟨_, rfl⟩
  no_list items := by
    rw [Secret.path, Value.lookup_set_self, Value.set_name]
    exact nofun
  only := by
    intro a w ha hw
    rw [Secret.path, Value.lookup_set_self, Option.some.injEq] at ha
    rw [← ha, Value.lookup_set_self, Value.set, hv.merge, Option.some.injEq] at hw
    exact .inl hw.symm

/-- A leaf at a path that does not displace the secret leaves it alone, or takes it away. -/
theorem Holds.set (h : Holds tree x v) (hu : u.IsLeaf)
    (hp : ∃ name rest, path = .name name :: rest) (hd : ¬Displaces path x) :
    Holds (tree.set path u) x v := by
  obtain ⟨name, rest, rfl⟩ := hp
  by_cases hn : "auth" = name
  · subst hn
    refine ⟨⟨_, rfl⟩, fun items => ?_, fun a w ha hw => ?_⟩
    · rw [Value.lookup_set_self]
      rcases rest with _ | ⟨step | step, rest⟩
      · rw [Value.set, hu.merge]
        exact fun hl => hu.ne_list items (Option.some.inj hl)
      · rw [Value.set_name]
        exact nofun
      · exact absurd (.inr ⟨_, _, rfl⟩) hd
    · rw [Value.lookup_set_self, Option.some.injEq] at ha
      subst ha
      rcases rest with _ | ⟨field | step, rest⟩
      · rw [Value.set, hu.merge, hu.entries] at hw
        cases hw
      · by_cases hf : x.field = field
        · subst hf
          rw [Value.lookup_set_self, Option.some.injEq] at hw
          rcases rest with _ | ⟨step, rest⟩
          · exact absurd (.inl rfl) hd
          · exact .inr (hw ▸ Value.text?_set_cons step)
        · rw [Value.lookup_set_of_ne hf, Value.under] at hw
          cases ha : tree.entries.lookup "auth" with
          | none =>
            rw [ha] at hw
            cases hw
          | some a =>
            rw [ha] at hw
            exact h.only a w ha hw
      · exact absurd (.inr ⟨_, _, rfl⟩) hd
  · refine ⟨⟨_, rfl⟩, fun items => ?_, fun a w ha hw => ?_⟩
    · rw [Value.lookup_set_of_ne hn]
      exact h.no_list items
    · rw [Value.lookup_set_of_ne hn] at ha
      exact h.only a w ha hw

theorem Holds.withVariables (h : Holds tree x v)
    (hd : ∀ y ∈ vars, ∀ path, variablePath? y.1 = some path → ¬Displaces path x) :
    Holds (tree.withVariables vars) x v := by
  induction vars generalizing tree with
  | nil => exact h
  | cons y vars ih =>
    obtain ⟨name, text⟩ := y
    refine ih ?_ fun z hz => hd z (List.mem_cons_of_mem _ hz)
    dsimp only
    split
    · rename_i path hp
      exact h.set (Value.isLeaf_ofText text) (exists_name_of_variablePath? hp)
        (hd _ List.mem_cons_self path hp)
    · exact h

theorem Supplies.holds (h : Supplies vars x s) (tree : Value) :
    Holds (tree.withVariables vars) x (.ofText s) := by
  obtain ⟨before, after, rfl, hd⟩ := h
  rw [Value.withVariables, List.foldl_append, List.foldl_cons]
  simp only [x.variablePath?_variableName]
  exact (holds_set_path (Value.isLeaf_ofText s)).withVariables hd

/-! ## Reading the settings -/

theorem AuthSettings.secret_of_read {settings : AuthSettings}
    (h : AuthSettings.read .tree tree = some settings) (x : Secret) :
    ∃ names fs, tree.fields? names = some fs ∧
      (fs.lookup x.field).bind Value.text? = some (x.of settings) := by
  simp only [AuthSettings.read, Option.bind_eq_bind, Option.bind_eq_some_iff] at h
  obtain ⟨fs, hfs, access, ha, refresh, hr, password, hp, _, -, _, -, _, -, _, -, he⟩ := h
  cases he
  refine ⟨_, fs, hfs, ?_⟩
  cases x
  · exact ha
  · exact hr
  · exact hp

theorem AppSettings.auth_of_read {settings : AppSettings}
    (h : AppSettings.read .tree tree = some settings) :
    ∃ names fs a, tree.fields? names = some fs ∧ fs.lookup "auth" = some a ∧
      AuthSettings.read .tree a = some settings.auth := by
  simp only [AppSettings.read, Option.bind_eq_bind, Option.bind_eq_some_iff] at h
  obtain ⟨fs, hfs, _, -, _, -, _, -, auth, ha, _, -, he⟩ := h
  cases he
  obtain ⟨a, hl, ha⟩ := Option.bind_eq_some_iff.1 ha
  exact ⟨_, fs, a, hfs, hl, ha⟩

/-- What is loaded as a secret is the text of the one value that can be. -/
theorem Holds.text?_of_read (h : Holds tree x v) {settings : AppSettings}
    (hr : AppSettings.read .tree tree = some settings) :
    v.text? = some (x.of settings.auth) := by
  obtain ⟨names, fs, a, hfs, hl, ha⟩ := AppSettings.auth_of_read hr
  obtain ⟨es, rfl⟩ := h.table
  cases hfs
  obtain ⟨names', fs', hfs', hx⟩ := AuthSettings.secret_of_read ha x
  obtain ⟨w, hw, ht⟩ := Option.bind_eq_some_iff.1 hx
  have he : a.entries = fs' := by
    cases a with
    | table es => exact Option.some.inj hfs'
    | list items => exact absurd hl (h.no_list items)
    | _ => cases hfs'
  subst he
  obtain rfl | hno := h.only a w hl hw
  · exact ht
  · rw [hno] at ht
    cases ht

theorem read_of_load {src : Sources} {name : String} {settings : AppSettings}
    (h : src.load name = .ok settings) :
    ∃ tree : Value, AppSettings.read .tree (tree.withVariables src.vars) = some settings := by
  unfold Sources.load at h
  split at h
  · cases h
  rename_i tree ht
  split at h
  · cases h
  rename_i read hread
  simp only [Sources.tree?, Option.bind_eq_bind, Option.bind_eq_some_iff] at ht
  obtain ⟨-, -, laid, -, he⟩ := ht
  cases he
  cases hv : read.auth.validate with
  | error e =>
    rw [hv] at h
    cases h
  | ok =>
    rw [hv] at h
    cases h
    exact ⟨laid, hread⟩

/-- The secret that is loaded from the variable that supplies it is the text that the value of the
variable is converted to. It is the text of the variable exactly if conversion gives that back,
which it does for all texts but some words and some that are made of the characters of numbers; and
two supplied texts are loaded as the same secret exactly if they are converted to the same text. -/
theorem supplied_secret_is_converted {x : Secret} {src : Sources} {name s : String}
    {settings : AppSettings} (hs : Supplies src.vars x s) (h : src.load name = .ok settings) :
    (Value.ofText s).text? = some (x.of settings.auth) ∧
    (x.of settings.auth = s ↔ (Value.ofText s).text? = some s) ∧
    (Ascii.lowerString s ∉ valueWords → s.toList.all isNumberChar = false →
      x.of settings.auth = s) ∧
    ∀ (src' : Sources) (name' s' : String) (settings' : AppSettings), Supplies src'.vars x s' →
      src'.load name' = .ok settings' →
      (x.of settings'.auth = x.of settings.auth ↔
        (Value.ofText s').text? = (Value.ofText s).text?) := by
  have loaded : ∀ {src : Sources} {name s settings}, Supplies src.vars x s →
      src.load name = .ok settings → (Value.ofText s).text? = some (x.of settings.auth) := by
    intro src name s settings hs h
    obtain ⟨tree, hr⟩ := read_of_load h
    exact (hs.holds tree).text?_of_read hr
  have ht := loaded hs h
  refine ⟨ht, ?_, fun hw hc => ?_, fun src' name' s' settings' hs' h' => ?_⟩
  · rw [ht, Option.some.injEq]
  · rw [ofText_eq_text hw hc] at ht
    exact (Option.some.inj ht).symm
  · rw [ht, loaded hs' h', Option.some.injEq]

/-- The four variables without which nothing is loaded, one of them given. -/
def fewVariables (accessSecret : String) : Sources :=
  ⟨[], [("USERSVC__DATABASE__URL", "postgres://localhost/users"),
    ("USERSVC__AUTH__REFRESH_SECRET", "refresh"), ("USERSVC__AUTH__PASSWORD_SECRET", "pepper"),
    ("USERSVC__AUTH__ACCESS_SECRET", accessSecret)]⟩

theorem supplies_fewVariables (s : String) : Supplies (fewVariables s).vars .access s :=
  ⟨[_, _, _], [], rfl, nofun⟩

/-- Leading zeros are lost: two texts are loaded as one secret, which only one of them is. -/
theorem leading_zeros_are_lost :
    ∃ settings settings', (fewVariables "007").load "test" = .ok settings ∧
      (fewVariables "7").load "test" = .ok settings' ∧ settings.auth.accessSecret = "7" ∧
      settings'.auth.accessSecret = settings.auth.accessSecret := by
  have loads : ∀ s ∈ ["007", "7"], ∃ settings, (fewVariables s).load "test" = .ok settings := by
    have hok : ∀ s ∈ ["007", "7"], ((fewVariables s).load "test").toBool = true := by
      decide +kernel
    intro s hs
    cases h : (fewVariables s).load "test" with
    | error e =>
      have := hok s hs
      rw [h] at this
      cases this
    | ok settings => exact ⟨settings, rfl⟩
  obtain ⟨settings, h⟩ := loads "007" (by simp)
  obtain ⟨settings', h'⟩ := loads "7" (by simp)
  obtain ⟨ht, -, -, hsame⟩ := supplied_secret_is_converted (supplies_fewVariables "007") h
  have hseven : (Value.ofText "007").text? = some "7" := by decide
  refine ⟨settings, settings', h, h', Option.some.inj (ht.symm.trans hseven), ?_⟩
  exact (hsame _ _ _ _ (supplies_fewVariables "7") h').2 (by decide)

end Gatehouse.Settings
