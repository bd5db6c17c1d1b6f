import Gatehouse.Proofs.Settings.Layers

/-!
# Reading settings from a tree

Each setting is read from what stands at its own path, or is its default where nothing stands there
(`Setting.resolve`). Records of settings are read from tables. A tree can be read exactly if its
sections are tables, where they are there, and each setting can be read (`reads_appSettings`). This
holds of trees that give no section as a list, of which a record takes its settings in order.
-/

namespace Gatehouse.Settings

open Value

/-! ## Settings by their paths -/

/-- The value of a setting. -/
inductive Leaf where
  | text (s : String)
  | number (n : Nat)
  deriving DecidableEq, Repr

/-- What the value of a setting may be. -/
inductive Form where
  | text
  /-- A natural number below a bound. -/
  | number (bound : Nat)

/-- What a value is converted to. -/
def Form.convert : Form → Value → Option Leaf
  | text, v => v.text?.map .text
  | number bound, v => (v.natBelow? bound).map .number

/-- The value of a setting, by its default and by what stands at its path. -/
def Form.resolve (form : Form) (default : Option Leaf) : Option Value → Option Leaf
  | none => default
  | some v => form.convert v

/-- A setting of a record. -/
structure Setting (α : Type) where
  path : List String
  form : Form
  /-- The value if none is set; a setting without one has to be set. -/
  default : Option Leaf
  /-- The value in the record. -/
  of : α → Leaf

namespace Setting

variable {α β : Type}

/-- The value of a setting, by what stands at its path. -/
def resolve (x : Setting α) (found : Option Value) : Option Leaf :=
  x.form.resolve x.default found

/-- A setting of a part of a record, which is the section of a name. -/
def within (name : String) (part : α → β) (x : Setting β) : Setting α :=
  ⟨name :: x.path, x.form, x.default, x.of ∘ part⟩

/-- A table or a list is no value of a setting. -/
theorem resolve_of_kind (x : Setting α) {w : Value} (h : w.kind ≠ .leaf) :
    x.resolve (some w) = none := by
  obtain ⟨path, form, default, of⟩ := x
  cases form <;> cases w <;> first | rfl | exact absurd rfl h

end Setting

/-- The settings of the server. -/
def serverSettings : List (Setting ServerSettings) :=
  [⟨["host"], .text, some (.text "0.0.0.0"), fun s => .text s.host⟩,
    ⟨["port"], .number 65536, some (.number 8080), fun s => .number s.port⟩,
    ⟨["shutdown_grace_seconds"], .number bound64, some (.number 30),
      fun s => .number s.shutdownGrace⟩]

/-- The settings of the database. -/
def databaseSettings : List (Setting DatabaseSettings) :=
  [⟨["url"], .text, none, fun s => .text s.url⟩,
    ⟨["max_connections"], .number bound32, some (.number 20), fun s => .number s.maxConnections⟩,
    ⟨["min_connections"], .number bound32, some (.number 2), fun s => .number s.minConnections⟩,
    ⟨["connect_timeout_seconds"], .number bound64, some (.number 5),
      fun s => .number s.connectTimeout⟩,
    ⟨["idle_timeout_seconds"], .number bound64, some (.number 300),
      fun s => .number s.idleTimeout⟩,
    ⟨["statement_timeout_ms"], .number bound64, some (.number 3000),
      fun s => .number s.statementTimeout⟩]

/-- The settings of the Redis server. -/
def redisSettings : List (Setting (String × String)) :=
  [⟨["url"], .text, some (.text "redis://127.0.0.1:6379"), fun s => .text s.1⟩,
    ⟨["key_prefix"], .text, some (.text "usersvc:"), fun s => .text s.2⟩]

/-- The settings of the store in memory. -/
def memorySettings : List (Setting Nat) :=
  [⟨["max_capacity"], .number bound64, some (.number 100000), .number⟩]

/-- The settings of the credential store. -/
def storeSettings : List (Setting StoreSettings) :=
  [⟨["provider"], .text, some (.text "redis"), fun s => .text s.provider⟩,
    ⟨["operation_timeout_ms"], .number bound64, some (.number 2000),
      fun s => .number s.operationTimeout⟩] ++
    redisSettings.map (.within "redis" fun s => (s.redisUrl, s.keyStart)) ++
    memorySettings.map (.within "memory" StoreSettings.maxCapacity)

/-- The settings of the cost of deriving a password. -/
def costSettings : List (Setting Digest.Argon2Cost) :=
  [⟨["memory_kib"], .number bound32, some (.number 19456), fun c => .number c.memory⟩,
    ⟨["iterations"], .number bound32, some (.number 2), fun c => .number c.passes⟩,
    ⟨["parallelism"], .number bound32, some (.number 1), fun c => .number c.lanes⟩]

/-- The settings of tokens and passwords. -/
def authSettings : List (Setting AuthSettings) :=
  [⟨["access_secret"], .text, none, fun s => .text s.accessSecret⟩,
    ⟨["refresh_secret"], .text, none, fun s => .text s.refreshSecret⟩,
    ⟨["password_secret"], .text, none, fun s => .text s.passwordSecret⟩,
    ⟨["access_token_ttl_seconds"], .number bound64, some (.number 3600),
      fun s => .number s.accessTtl⟩,
    ⟨["refresh_token_ttl_seconds"], .number bound64, some (.number 86400),
      fun s => .number s.refreshTtl⟩,
    ⟨["jwt_leeway_seconds"], .number bound64, some (.number 0), fun s => .number s.leeway⟩] ++
    costSettings.map (.within "argon2" AuthSettings.passwordCost)

/-- The settings of logging. -/
def loggingSettings : List (Setting LoggingSettings) :=
  [⟨["level"], .text, some (.text "info"), fun s => .text s.level⟩,
    ⟨["format"], .text, some (.text "json"), fun s => .text s.format⟩]

/-- The settings of the whole program. -/
def appSettings : List (Setting AppSettings) :=
  serverSettings.map (.within "server" AppSettings.server) ++
    databaseSettings.map (.within "database" AppSettings.database) ++
    storeSettings.map (.within "cache" AppSettings.store) ++
    authSettings.map (.within "auth" AppSettings.auth) ++
    loggingSettings.map (.within "logging" AppSettings.logging)

/-- The credential store with its sections. -/
def storeSections : List (List String) := [[], ["redis"], ["memory"]]

/-- The settings of tokens and passwords with their section. -/
def authSections : List (List String) := [[], ["argon2"]]

/-- The sections of the settings of the whole program. -/
def appSections : List (List String) :=
  [["server"]] ++ [["database"]] ++ storeSections.map ("cache" :: ·) ++
    authSections.map ("auth" :: ·) ++ [["logging"]]

/-! ## Reading a record -/

/-- Whether a tree gives none of some sections as a list. -/
def NoLists (sections : List (List String)) (v : Value) : Prop :=
  ∀ q ∈ sections, ∀ w, look? q v = some w → w.kind ≠ .list

/-- Whether some sections of a tree are tables, where they are there. -/
def Tables (sections : List (List String)) (v : Value) : Prop :=
  ∀ q ∈ sections, ∀ w, look? q v = some w → w.kind = .table

/-- Whether a reader takes each setting of a record from its path. -/
structure Reads {α : Type} (read : Value → Option α) (sections : List (List String))
    (settings : List (Setting α)) : Prop where
  path_ne : ∀ x ∈ settings, x.path ≠ []
  read_iff : ∀ v s, NoLists sections v → (read v = some s ↔
    Tables sections v ∧ ∀ x ∈ settings, x.resolve (look? x.path v) = some (x.of s))

variable {α β : Type} {fs : List (String × Value)} {name : String} {v : Value}

theorem text?_surface (v : Value) : v.surface.text? = v.text? := by
  cases v <;> rfl

theorem natBelow?_surface (v : Value) (bound : Nat) :
    v.surface.natBelow? bound = v.natBelow? bound := by
  cases v <;> rfl

theorem look?_singleton : look? [name] (.table fs) = (fs.lookup name).map surface := by
  show (fs.lookup name).bind (look? []) = _
  cases fs.lookup name <;> rfl

theorem withDefault_text_iff {d y : String} :
    Source.withDefault fs name d Source.tree.text? = some y ↔
      Form.text.resolve (some (.text d)) (look? [name] (.table fs)) = some (.text y) := by
  rw [Source.withDefault, look?_singleton]
  cases fs.lookup name with
  | none => simp [Form.resolve]
  | some v => simp [Form.resolve, Form.convert, text?_surface, Source.tree]

theorem withDefault_number_iff {bound d y : Nat} :
    Source.withDefault fs name d (Source.tree.natBelow? bound) = some y ↔
      (Form.number bound).resolve (some (.number d)) (look? [name] (.table fs)) =
        some (.number y) := by
  rw [Source.withDefault, look?_singleton]
  cases fs.lookup name with
  | none => simp [Form.resolve]
  | some v => simp [Form.resolve, Form.convert, natBelow?_surface, Source.tree]

theorem required_text_iff {y : String} :
    Source.required fs name Source.tree.text? = some y ↔
      Form.text.resolve none (look? [name] (.table fs)) = some (.text y) := by
  rw [Source.required, look?_singleton]
  cases fs.lookup name with
  | none => simp [Form.resolve]
  | some v => simp [Form.resolve, Form.convert, text?_surface, Source.tree]

/-- A record is read from a table. -/
theorem bind_fields?_eq_some_iff {names : List String} {f : List (String × Value) → Option α}
    {y : α} (hv : v.kind ≠ .list) :
    (Source.tree.fields? names v >>= f) = some y ↔ ∃ es, v = .table es ∧ f es = some y := by
  cases v with
  | table es => simp [Source.tree, Value.fields?]
  | list items => exact absurd rfl hv
  | _ => exact iff_of_false nofun fun ⟨es, he, _⟩ => by cases he

/-! ## Records with their sections -/

theorem NoLists.mono {few all : List (List String)} (h : NoLists all v) (hs : few ⊆ all) :
    NoLists few v :=
  fun q hq => h q (hs hq)

theorem tables_append {front back : List (List String)} :
    Tables (front ++ back) v ↔ Tables front v ∧ Tables back v := by
  simp only [Tables, List.mem_append, or_imp, forall_and]

theorem tables_nil : Tables [] v := nofun

/-- Reads a record from the entries of a table. -/
theorem Reads.of_entries {read : Value → Option α} {sections : List (List String)}
    {settings : List (Setting α)} {names : List String} {f : List (String × Value) → Option α}
    (hread : ∀ v, read v = Source.tree.fields? names v >>= f)
    (hpath : ∀ x ∈ settings, x.path ≠ [])
    (hf : ∀ es s, NoLists sections (.table es) → (f es = some s ↔ Tables sections (.table es) ∧
      ∀ x ∈ settings, x.resolve (look? x.path (.table es)) = some (x.of s))) :
    Reads read ([] :: sections) settings where
  path_ne := hpath
  read_iff v s hno := by
    have hsections := hno.mono (List.subset_cons_self [] sections)
    have hv : v.kind ≠ .list := by
      rw [← kind_surface]
      exact hno [] List.mem_cons_self _ rfl
    rw [hread, bind_fields?_eq_some_iff hv]
    constructor
    · rintro ⟨es, rfl, hs⟩
      obtain ⟨htables, hs⟩ := (hf es s hsections).1 hs
      refine ⟨fun q hq w hw => ?_, hs⟩
      rcases List.mem_cons.1 hq with rfl | hq
      · cases hw
        rfl
      · exact htables q hq w hw
    · rintro ⟨htables, hs⟩
      have hkind := htables [] List.mem_cons_self _ rfl
      cases v with
      | table es =>
        have htables' : Tables sections (.table es) :=
          fun q hq => htables q (List.mem_cons_of_mem _ hq)
        exact ⟨es, rfl, (hf es s hsections).2 ⟨htables', hs⟩⟩
      | _ => cases hkind

variable {read : Value → Option α} {sections : List (List String)} {settings : List (Setting α)}

/-- A section that is not there is read as an empty table. -/
theorem Reads.read_part_iff (h : Reads read sections settings) {s : α}
    (hno : NoLists (sections.map (name :: ·)) (.table fs)) :
    read ((fs.lookup name).getD (.table [])) = some s ↔
      Tables (sections.map (name :: ·)) (.table fs) ∧
        ∀ x ∈ settings, x.resolve (look? (name :: x.path) (.table fs)) = some (x.of s) := by
  unfold NoLists at hno
  unfold Tables
  simp only [List.forall_mem_map] at hno ⊢
  cases hpart : fs.lookup name with
  | some v =>
    have hlook : ∀ q, look? (name :: q) (.table fs) = look? q v := by
      intro q
      show (fs.lookup name).bind _ = _
      rw [hpart]
      rfl
    simp only [hlook] at hno ⊢
    exact h.read_iff v s hno
  | none =>
    have hlook : ∀ q, look? (name :: q) (.table fs) = none := by
      intro q
      show (fs.lookup name).bind _ = _
      rw [hpart]
      rfl
    have hempty : ∀ q w, look? q (.table []) = some w → w.kind = .table := by
      rintro (_ | ⟨n, q⟩) w hw
      · cases hw
        rfl
      · cases hw
    have hnone : ∀ x ∈ settings, look? x.path (.table []) = none := by
      intro x hx
      obtain ⟨n, q, hq⟩ := List.exists_cons_of_ne_nil (h.path_ne x hx)
      rw [hq]
      rfl
    have hread := h.read_iff (.table []) s fun q _ w hw => by simp [hempty q w hw]
    rw [Option.getD_none, hread]
    simp only [hlook]
    constructor
    · rintro ⟨-, hs⟩
      exact ⟨nofun, fun x hx => hnone x hx ▸ hs x hx⟩
    · rintro ⟨-, hs⟩
      exact ⟨fun q _ => hempty q, fun x hx => (hnone x hx).symm ▸ hs x hx⟩

theorem Reads.withDefault_iff (h : Reads read sections settings) {d s : α}
    (hd : read (.table []) = some d)
    (hno : NoLists (sections.map (name :: ·)) (.table fs)) :
    Source.withDefault fs name d read = some s ↔
      Tables (sections.map (name :: ·)) (.table fs) ∧
        ∀ x ∈ settings, x.resolve (look? (name :: x.path) (.table fs)) = some (x.of s) := by
  rw [← h.read_part_iff hno, Source.withDefault]
  cases fs.lookup name with
  | none => rw [Option.getD_none, hd]
  | some v => rfl

theorem Reads.required_iff (h : Reads read sections settings) {s : α}
    (hd : read (.table []) = none)
    (hno : NoLists (sections.map (name :: ·)) (.table fs)) :
    Source.required fs name read = some s ↔
      Tables (sections.map (name :: ·)) (.table fs) ∧
        ∀ x ∈ settings, x.resolve (look? (name :: x.path) (.table fs)) = some (x.of s) := by
  rw [← h.read_part_iff hno, Source.required]
  cases fs.lookup name with
  | none => rw [Option.getD_none, hd, Option.bind_none]
  | some v => rfl

/-! ## The records -/

theorem reads_serverSettings : Reads (ServerSettings.read .tree) [[]] serverSettings := by
  refine .of_entries (fun _ => rfl) (by simp [serverSettings]) fun es s _ => ?_
  obtain ⟨host, port, grace⟩ := s
  simp [serverSettings, tables_nil, Setting.resolve, Option.bind_eq_some_iff, withDefault_text_iff,
    withDefault_number_iff]

theorem reads_databaseSettings : Reads (DatabaseSettings.read .tree) [[]] databaseSettings := by
  refine .of_entries (fun _ => rfl) (by simp [databaseSettings]) fun es s _ => ?_
  obtain ⟨url, most, fewest, connect, idle, statement⟩ := s
  simp [databaseSettings, tables_nil, Setting.resolve, Option.bind_eq_some_iff, required_text_iff,
    withDefault_number_iff]

theorem reads_redisSettings : Reads (StoreSettings.readRedis .tree) [[]] redisSettings := by
  refine .of_entries (fun _ => rfl) (by simp [redisSettings]) fun es s _ => ?_
  obtain ⟨url, keyStart⟩ := s
  simp [redisSettings, tables_nil, Setting.resolve, Option.bind_eq_some_iff, withDefault_text_iff]

theorem reads_memorySettings : Reads (StoreSettings.readMemory .tree) [[]] memorySettings := by
  refine .of_entries (fun _ => rfl) (by simp [memorySettings]) fun es s _ => ?_
  simp [memorySettings, tables_nil, Setting.resolve, withDefault_number_iff]

theorem reads_costSettings : Reads (readCost .tree) [[]] costSettings := by
  refine .of_entries (fun _ => rfl) (by simp [costSettings]) fun es s _ => ?_
  obtain ⟨memory, passes, lanes⟩ := s
  simp [costSettings, tables_nil, defaultCost, Setting.resolve, Option.bind_eq_some_iff,
    withDefault_number_iff]

theorem reads_loggingSettings : Reads (LoggingSettings.read .tree) [[]] loggingSettings := by
  refine .of_entries (fun _ => rfl) (by simp [loggingSettings]) fun es s _ => ?_
  obtain ⟨level, format⟩ := s
  simp [loggingSettings, tables_nil, Setting.resolve, Option.bind_eq_some_iff,
    withDefault_text_iff]

theorem forall_mem_within {part : β → α} {t : β} :
    (∀ x ∈ settings.map (Setting.within name part), x.resolve (look? x.path v) = some (x.of t)) ↔
      ∀ x ∈ settings, x.resolve (look? (name :: x.path) v) = some (x.of (part t)) :=
  List.forall_mem_map

theorem reads_storeSettings :
    Reads (StoreSettings.read .tree) storeSections storeSettings := by
  refine .of_entries (fun _ => rfl) (by simp [storeSettings, redisSettings, memorySettings,
    Setting.within]) fun es s hno => ?_
  have hno₁ : NoLists [["redis"]] (.table es) := hno.mono (by simp)
  have hno₂ : NoLists [["memory"]] (.table es) := hno.mono (by simp)
  have hredis (p : String × String) := reads_redisSettings.withDefault_iff (s := p) rfl hno₁
  have hmemory (n : Nat) := reads_memorySettings.withDefault_iff (s := n) rfl hno₂
  have htables : Tables ([["redis"]] ++ [["memory"]]) (.table es) ↔ _ := tables_append
  rw [storeSettings, List.forall_mem_append, List.forall_mem_append, forall_mem_within,
    forall_mem_within]
  obtain ⟨provider, timeout, url, keyStart, capacity⟩ := s
  simp only [List.map_cons, List.map_nil, List.singleton_append] at hredis hmemory htables
  simp [Setting.resolve, htables, hredis, hmemory, Option.bind_eq_some_iff, withDefault_text_iff,
    withDefault_number_iff]
  tauto

theorem reads_authSettings :
    Reads (AuthSettings.read .tree) authSections authSettings := by
  refine .of_entries (fun _ => rfl) (by simp [authSettings, costSettings, Setting.within])
    fun es s hno => ?_
  have hcost (c : Digest.Argon2Cost) := reads_costSettings.withDefault_iff (s := c) rfl hno
  rw [authSettings, List.forall_mem_append, forall_mem_within]
  obtain ⟨access, refresh, password, accessTtl, refreshTtl, leeway, cost⟩ := s
  simp only [List.map_cons, List.map_nil] at hcost
  simp [Setting.resolve, hcost, Option.bind_eq_some_iff, required_text_iff,
    withDefault_number_iff, AuthSettings.defaultAccessTtl, AuthSettings.defaultRefreshTtl]
  tauto

theorem reads_appSettings : Reads (AppSettings.read .tree) ([] :: appSections) appSettings := by
  refine .of_entries (fun _ => rfl) ?_ fun es s hno => ?_
  · simp [appSettings, serverSettings, databaseSettings, storeSettings, redisSettings,
      memorySettings, authSettings, costSettings, loggingSettings, Setting.within]
  have hserver (x : ServerSettings) :=
    reads_serverSettings.withDefault_iff (d := {}) (s := x) rfl
      (hno.mono (by decide : [["server"]] ⊆ appSections))
  have hdatabase (x : DatabaseSettings) :=
    reads_databaseSettings.required_iff (s := x) rfl
      (hno.mono (by decide : [["database"]] ⊆ appSections))
  have hstore (x : StoreSettings) :=
    reads_storeSettings.withDefault_iff (d := {}) (s := x) rfl
      (hno.mono (by decide : storeSections.map ("cache" :: ·) ⊆ appSections))
  have hauth (x : AuthSettings) :=
    reads_authSettings.required_iff (s := x) rfl
      (hno.mono (by decide : authSections.map ("auth" :: ·) ⊆ appSections))
  have hlogging (x : LoggingSettings) :=
    reads_loggingSettings.withDefault_iff (d := {}) (s := x) rfl
      (hno.mono (by decide : [["logging"]] ⊆ appSections))
  rw [appSections, tables_append, tables_append, tables_append, tables_append, appSettings,
    List.forall_mem_append, List.forall_mem_append, List.forall_mem_append,
    List.forall_mem_append, forall_mem_within, forall_mem_within, forall_mem_within,
    forall_mem_within, forall_mem_within]
  simp only [Option.bind_eq_bind, Option.bind_eq_some_iff, hserver, hdatabase, hstore, hauth,
    hlogging]
  constructor
  · rintro ⟨server, ⟨ht₁, h₁⟩, database, ⟨ht₂, h₂⟩, store, ⟨ht₃, h₃⟩, auth, ⟨ht₄, h₄⟩,
      logging, ⟨ht₅, h₅⟩, he⟩
    cases he
    exact ⟨⟨⟨⟨⟨ht₁, ht₂⟩, ht₃⟩, ht₄⟩, ht₅⟩, ⟨⟨⟨⟨h₁, h₂⟩, h₃⟩, h₄⟩, h₅⟩⟩
  · rintro ⟨⟨⟨⟨⟨ht₁, ht₂⟩, ht₃⟩, ht₄⟩, ht₅⟩, ⟨⟨⟨⟨h₁, h₂⟩, h₃⟩, h₄⟩, h₅⟩⟩
    exact ⟨s.server, ⟨ht₁, h₁⟩, s.database, ⟨ht₂, h₂⟩, s.store, ⟨ht₃, h₃⟩, s.auth, ⟨ht₄, h₄⟩,
      s.logging, ⟨ht₅, h₅⟩, rfl⟩

end Gatehouse.Settings
