import Gatehouse.Directory.Seeding
import Gatehouse.Proofs.Directory.Facts
import Gatehouse.Proofs.Run.Scope

/-!
# Seeding, call by call

`Wanted` lists the facts that seeding is to make true in a directory. The rules here are for runs of
it under any terms, alone or among others: what is known of the world is an invariant that the
making of what is wanted keeps (`Steady`), and the terms only have to see to it that others keep it
too and take nothing away (`Admits`). The making of a user may lead from one invariant to another
(`Makes`). `along_seed_of` puts the rules together: a run has made sure of the catalog and of the
administrator, or it was refused because another one registered the address in the meantime, or its
last call failed (`Concludes`).
-/

namespace Gatehouse.Seeding

open Gatehouse.Action Directory

/-- The address and the name of the administrator that is asked for. -/
def named (account : Option AdminAccount) : Option (String × String) :=
  account.map fun a => (a.email, a.name)

def AdminOutcome.user : AdminOutcome → Uuid
  | created user | existing user => user

/-- What seeding is to make true in a directory: the catalog, and that the user of the
administrator's address has the role, a user who is made if there is none. -/
inductive Wanted (d : Directory) (who : Option (String × String)) : Fact → Prop where
  | permission {name : String} (h : name ∈ Catalog.permissions) : Wanted d who (.permission name)
  | role {name : String} {permissions : List String} (h : (name, permissions) ∈ Catalog.roles) :
      Wanted d who (.role name)
  | grant {name permission : String} {permissions : List String}
      (h : (name, permissions) ∈ Catalog.roles) (hp : permission ∈ permissions) :
      Wanted d who (.grant name permission)
  | promoted {email name : String} {u : User} (h : who = some (email, name))
      (hu : d.byEmail email = some u) : Wanted d who (.assignment u.email Catalog.adminRole)
  | user {email name : String} (h : who = some (email, name)) (hn : d.byEmail email = none) :
      Wanted d who (.user email name true)
  | administrator {email name : String} (h : who = some (email, name))
      (hn : d.byEmail email = none) : Wanted d who (.assignment email Catalog.adminRole)

/-- Whether no call failed. -/
def Works (tr : Trace) : Prop := ∀ o ∈ tr, ∀ e, o.how ≠ .fails e

theorem works_nil : Works [] := by
  simp [Works]

theorem Works.cons {tr : Trace} {o : Observation} (h : Works tr) (ho : ∀ e, o.how ≠ .fails e) :
    Works (o :: tr) :=
  fun x hx => (List.mem_cons.1 hx).elim (fun he => he ▸ ho) (h x)

/-- The directory after the last observation of a run that began in a world. -/
abbrev after (w : World) (tr : Trace) : Directory := (tr.world w).directory

/-! ## Invariants -/

/-- The answer to a call at some time, with what the call adds to the directory. -/
structure Change (call : Call) (f : Fact) (w w' : World) : Prop where
  answer : ∃ now id x, Directory.answer now id call w.directory = (x, w'.directory)
  adds : ∃ id, w.directory.Adds f id w'.directory ∧ id ∈ w'.drawn
  drawn : w.drawn ⊆ w'.drawn

/-- What the rules need of any world. -/
structure Orderly (w : World) : Prop where
  sound : w.directory.Sound
  unique : w.directory.Unique
  drawn : ∀ id, w.directory.Knows id → id ∈ w.drawn

theorem Orderly.keeps {w w' : World} (h : Orderly w) (he : w'.directory = w.directory)
    (hd : w.drawn ⊆ w'.drawn) : Orderly w' :=
  ⟨he ▸ h.sound, he ▸ h.unique, fun id hk => hd (h.drawn id (he ▸ hk))⟩

theorem Orderly.change {w w' : World} {call : Call} {f : Fact} (h : Orderly w)
    (hc : Change call f w w') : Orderly w' := by
  obtain ⟨id, ha, hid⟩ := hc.adds
  exact ⟨ha.sound, ha.unique, fun i hi =>
    (ha.knows i hi).elim (fun hi => hc.drawn (h.drawn i hi)) fun he => he ▸ hid⟩

/-- Whether an invariant of the world is kept by all that seeding makes but a user. -/
structure Steady (who : Option (String × String)) (I : World → Prop) : Prop where
  orderly : ∀ w, I w → Orderly w
  keeps : ∀ w w', I w → w'.directory = w.directory → w.drawn ⊆ w'.drawn → I w'
  change : ∀ w w' call f, I w → Change call f w w' → (∀ u, call ≠ .createUser u) →
    Wanted w.directory who f → I w'

/-- Whether the making of a user that is wanted leads from one invariant to another. -/
def Makes (who : Option (String × String)) (I J : World → Prop) : Prop :=
  ∀ w w' u, I w → Change (.createUser u) (.user u.email u.name u.active) w w' →
    Wanted w.directory who (.user u.email u.name u.active) → J w'

/-- Where a run can be that seeds the directory. -/
structure Underway (I : World → Prop) (w : World) (tr : Trace) : Prop where
  stage : I (tr.world w)
  works : Works tr

/-- Whether the last call of a run was the first to fail, with this failure. -/
structure Broke (I : World → Prop) (w : World) (tr : Trace) (e : Failure) : Prop where
  stage : I (tr.world w)
  last : ∃ o older, tr = o :: older ∧ o.how = .fails e ∧ Works older

/-- Whether an identifier was drawn by the last observation. -/
def JustDrew (tr : Trace) (id : Uuid) : Prop := ∃ o older, tr = o :: older ∧ o.Saw .freshId id

/-- Whether the rules hold under terms: others keep the invariant and take nothing away, an
identifier that is drawn stays unknown to the directory until the next call, and anything may be
asked but to make a user with another identifier. -/
structure Admits (T : Terms) (I : World → Prop) (w : World) : Prop where
  asks : ∀ tr q, Underway I w tr → (∀ u, q = .directory (.createUser u) → JustDrew tr u.id) →
    T.guarantee tr q
  truthful : ∀ tr o, Underway I w tr → T.rely tr o → o.Truthful
  stage : ∀ tr o, Underway I w tr → T.rely tr o → I o.before
  grown : ∀ tr o, Underway I w tr → T.rely tr o → (after w tr).Grown o.before.directory
  unknown : ∀ tr o o' id, Underway I w tr → T.rely tr o → o.Saw .freshId id →
    T.rely (o :: tr) o' → ¬o'.before.directory.Knows id ∧ id ∈ o'.before.drawn

/-- Whether someone else registered an address between two observations. -/
def Interrupted (T : Terms) (w : World) (email : String) : Prop :=
  ∃ tr o, T.rely tr o ∧ (after w tr).byEmail email = none ∧
    o.before.directory.byEmail email ≠ none

/-- Whether an address is not taken, or someone else took it in the meantime. -/
def Vacant (T : Terms) (w : World) (email : String) (tr : Trace) : Prop :=
  (after w tr).byEmail email = none ∨ Interrupted T w email

variable {α : Type} {T : Terms} {I J : World → Prop} {who : Option (String × String)} {w : World}
  {tr : Trace}

theorem Vacant.before {email : String} {o : Observation} (h : Vacant T w email tr)
    (hr : T.rely tr o) :
    o.before.directory.byEmail email = none ∨ Interrupted T w email := by
  by_cases hn : o.before.directory.byEmail email = none
  · exact .inl hn
  · exact .inr (h.elim (fun hn' => ⟨tr, o, hr, hn', hn⟩) id)

/-- Whether an action may end with the first failure of a call. -/
def MayBreak (I : World → Prop) (w : World) (ends : Trace → Outcome α → Prop) : Prop :=
  ∀ tr e, Broke I w tr e → ends tr (.finished (.error e))

/-! ## Alone -/

section

variable (halone : ∀ tr o, T.rely tr o → (tr.world w).Waits o.before ∧ o.Truthful)
include halone

/-- The rules hold for a run with nothing in between but the passing of time. -/
theorem admits_alone (hI : Steady who I) (hasks : ∀ tr q, Underway I w tr → T.guarantee tr q) :
    Admits T I w := by
  have stage : ∀ tr o, Underway I w tr → T.rely tr o → I o.before := fun tr o h hr => by
    have hb := (halone tr o hr).1
    exact hI.keeps _ _ h.stage hb.directory (hb.drawn ▸ List.Subset.refl _)
  refine ⟨fun tr q h _ => hasks tr q h, fun tr o _ hr => (halone tr o hr).2, stage,
    fun tr o _ hr => (halone tr o hr).1.directory ▸ .refl _, fun tr o o' id h hr hs hr' => ?_⟩
  have hb' : o.after.Waits o'.before := (halone _ o' hr').1
  have hi := stage tr o h hr
  have ht := (halone tr o hr).2
  obtain ⟨b, how, a, rfl⟩ := hs
  obtain ⟨hid, -, rfl⟩ := ht.freshId
  rw [hb'.directory, hb'.drawn]
  exact ⟨fun hk => hid ((hI.orderly b hi).drawn id hk), List.mem_cons_self⟩

theorem not_interrupted_alone (email : String) : ¬Interrupted T w email := by
  rintro ⟨tr, o, hr, hn, hsome⟩
  rw [(halone tr o hr).1.directory] at hsome
  exact hsome hn

end

/-! ## Calls -/

section

variable (hT : Admits T I w) (hI : Steady who I) (h : Underway I w tr)
include hT hI h

/-- A call fails, and that is all, or it is answered by the directory that the others left. -/
theorem along_callDirectory {call : Call} {ends : Trace → Outcome call.Reply → Prop}
    (hdrew : ∀ u, call = .createUser u → JustDrew tr u.id)
    (hfail : MayBreak I w ends)
    (hok : ∀ o now id x, T.rely tr o → Works (o :: tr) → I o.before →
      (after w tr).Grown o.before.directory → o.before.drawn ⊆ o.after.drawn →
      Directory.answer now id call o.before.directory = (x, o.after.directory) →
      (call.makes = true → ¬o.before.directory.Knows id ∧ id ∈ o.after.drawn) →
      ends (o :: tr) (.finished x)) :
    (callDirectory call).Along T ends tr := by
  refine ⟨hT.asks tr _ h fun u hu => ?_, fun b how x a hr => ?_⟩
  · cases hu
    exact hdrew u rfl
  have ht := hT.truthful tr _ h hr
  have hb := hT.stage tr _ h hr
  obtain ⟨e, rfl, rfl, rfl⟩ | ⟨id, hw, hx, hm⟩ := ht.directory
  · exact hfail _ e ⟨hb, _, tr, rfl, rfl, h.works⟩
  · refine hok ⟨_, _, how, x, a⟩ _ id x hr (h.works.cons hw) hb (hT.grown tr _ h hr)
      ht.drawn_subset hx fun hmakes => ?_
    obtain ⟨hnew, hid⟩ := hm hmakes
    exact ⟨fun hk => hnew ((hI.orderly _ hb).drawn id hk), hid⟩

/-! ### Calls that write -/

theorem along_ensureRole {name : String} {permissions : List String}
    {ends : Trace → Outcome Uuid → Prop} (hname : (name, permissions) ∈ Catalog.roles)
    (hfail : MayBreak I w ends)
    (hok : ∀ tr' r, Underway I w tr' → (after w tr).Grown (after w tr') →
      r ∈ (after w tr').roles → r.name = name → ends tr' (.finished (.ok r.id))) :
    (callDirectory (.ensureRole name)).Along T ends tr := by
  refine along_callDirectory hT hI h nofun hfail fun o now id x hr hw hb hg hd hx hm => ?_
  have ho := hI.orderly _ hb
  obtain ⟨hnew, hid⟩ := hm rfl
  obtain ⟨ha, r, hr, rfl, hn⟩ := adds_ensureRole ho.sound ho.unique hnew hx
  have hnext := hI.change _ o.after _ _ hb ⟨⟨_, _, _, hx⟩, ⟨id, ha, hid⟩, hd⟩ nofun (.role hname)
  exact hok (o :: tr) r ⟨hnext, hw⟩ (hg.trans ha.grown) hr hn

theorem along_ensurePermission {name : String} {ends : Trace → Outcome Uuid → Prop}
    (hname : name ∈ Catalog.permissions)
    (hfail : MayBreak I w ends)
    (hok : ∀ tr' p, Underway I w tr' → (after w tr).Grown (after w tr') →
      p ∈ (after w tr').permissions → p.name = name → ends tr' (.finished (.ok p.id))) :
    (callDirectory (.ensurePermission name)).Along T ends tr := by
  refine along_callDirectory hT hI h nofun hfail fun o now id x hr hw hb hg hd hx hm => ?_
  have ho := hI.orderly _ hb
  obtain ⟨hnew, hid⟩ := hm rfl
  obtain ⟨ha, p, hp, rfl, hn⟩ := adds_ensurePermission ho.sound ho.unique hnew hx
  have hnext := hI.change _ o.after _ _ hb ⟨⟨_, _, _, hx⟩, ⟨id, ha, hid⟩, hd⟩ nofun
    (.permission hname)
  exact hok (o :: tr) p ⟨hnext, hw⟩ (hg.trans ha.grown) hp hn

theorem along_grant {r : Role} {p : Permission} {permissions : List String}
    {ends : Trace → Outcome Unit → Prop}
    (hr : r ∈ (after w tr).roles) (hp : p ∈ (after w tr).permissions)
    (hrole : (r.name, permissions) ∈ Catalog.roles) (hpermission : p.name ∈ permissions)
    (hfail : MayBreak I w ends)
    (hok : ∀ tr', Underway I w tr' → (after w tr).Grown (after w tr') →
      (after w tr').Has (.grant r.name p.name) → ends tr' (.finished (.ok ()))) :
    (callDirectory (.grant r.id p.id)).Along T ends tr := by
  refine along_callDirectory hT hI h nofun hfail fun o now id x _ hw hb hg hd hx _ => ?_
  have ho := hI.orderly _ hb
  have hr' := hg.roles.subset hr
  have hid := hd (ho.drawn r.id (.inr (.inl (List.mem_map_of_mem hr'))))
  obtain ⟨rfl, ha⟩ : x = .ok () ∧ o.before.directory.Adds (.grant r.name p.name) r.id
      o.after.directory := adds_grant ho.sound ho.unique hr' (hg.permissions.subset hp) hx
  have hnext := hI.change _ o.after _ _ hb ⟨⟨_, _, _, hx⟩, ⟨_, ha, hid⟩, hd⟩ nofun
    (.grant hrole hpermission)
  exact hok (o :: tr) ⟨hnext, hw⟩ (hg.trans ha.grown) ((ha.has _).2 (.inr rfl))

theorem along_assign {email name : String} {u : User} {r : Role}
    {ends : Trace → Outcome Unit → Prop} (hwho : who = some (email, name))
    (hu : (after w tr).byEmail email = some u) (hr : r ∈ (after w tr).roles)
    (hrole : r.name = Catalog.adminRole)
    (hfail : MayBreak I w ends)
    (hok : ∀ tr', Underway I w tr' → (after w tr).Grown (after w tr') → tr <:+ tr' →
      (after w tr').byEmail email = some u →
      (after w tr').Has (.assignment u.email Catalog.adminRole) → ends tr' (.finished (.ok ()))) :
    (callDirectory (.assign u.id r.id)).Along T ends tr := by
  refine along_callDirectory hT hI h nofun hfail fun o now id x _ hw hb hg hd hx _ => ?_
  have ho := hI.orderly _ hb
  have hr' := hg.roles.subset hr
  have hu' := hg.byEmail ho.unique hu
  have hid := hd (ho.drawn r.id (.inr (.inl (List.mem_map_of_mem hr'))))
  obtain ⟨rfl, ha⟩ : x = .ok () ∧ o.before.directory.Adds (.assignment u.email r.name) r.id
      o.after.directory := adds_assign ho.sound ho.unique (of_byEmail hu').1 hr' hx
  rw [hrole] at ha
  have hnext := hI.change _ o.after _ _ hb ⟨⟨_, _, _, hx⟩, ⟨_, ha, hid⟩, hd⟩ nofun
    (.promoted hwho hu')
  exact hok (o :: tr) ⟨hnext, hw⟩ (hg.trans ha.grown) (List.suffix_cons _ _)
    (ha.grown.byEmail ((hI.orderly _ hnext).unique) hu') ((ha.has _).2 (.inr rfl))

/-- A user is made, or the address was taken in the meantime and nothing is. -/
theorem along_createUser {u : User} {o₀ : Observation} {ends : Trace → Outcome Bool → Prop}
    (hJ : Steady who J) (hmakes : Makes who I J) (hwho : who = some (u.email, u.name))
    (hactive : u.active = true) (hr₀ : T.rely tr o₀) (hs : o₀.Saw .freshId u.id)
    (h₀ : Underway I w (o₀ :: tr)) (hvacant : Vacant T w u.email (o₀ :: tr))
    (hfail : MayBreak I w ends)
    (hmade : ∀ tr' w₁, Underway J w tr' → (after w (o₀ :: tr)).Grown (after w tr') →
      o₀ :: tr <:+ tr' → I w₁ → w₁.directory.byEmail u.email = none →
      (after w tr').byEmail u.email = some u → ends tr' (.finished (.ok true)))
    (htaken : ∀ tr', Underway I w tr' → (after w (o₀ :: tr)).Grown (after w tr') →
      (after w tr').byEmail u.email ≠ none → Interrupted T w u.email →
      ends tr' (.finished (.ok false))) :
    (callDirectory (.createUser u)).Along T ends (o₀ :: tr) := by
  refine along_callDirectory hT hI h₀ (fun u' he => ?_) hfail
    fun o now id x hr hw hb hg hd hx _ => ?_
  · cases he
    exact ⟨o₀, tr, rfl, hs⟩
  obtain ⟨hnew, hid⟩ := hT.unknown tr o₀ o u.id h hr₀ hs hr
  by_cases hn : o.before.directory.byEmail u.email = none
  · have ho := hI.orderly _ hb
    obtain ⟨rfl, ha, hu⟩ := adds_createUser ho.sound ho.unique hnew hn hx
    have hnext := hmakes _ o.after u hb ⟨⟨_, _, _, hx⟩, ⟨_, ha, hd hid⟩, hd⟩
      (hactive ▸ .user hwho hn)
    exact hmade (o :: o₀ :: tr) o.before ⟨hnext, hw⟩ (hg.trans ha.grown) (List.suffix_cons _ _) hb
      hn (((hJ.orderly _ hnext).unique).byEmail_eq_some_iff.2 ⟨hu, rfl⟩)
  · -- the address was taken since it was looked up, so nothing is made
    have hsome : (o.before.directory.byEmail u.email).isSome = true :=
      Option.isSome_iff_ne_none.2 hn
    rw [Directory.answer, Directory.createUser, if_pos hsome] at hx
    obtain ⟨rfl, he⟩ := Prod.mk.inj hx
    have hafter : after w (o :: o₀ :: tr) = o.before.directory := he.symm
    refine htaken (o :: o₀ :: tr) ⟨hI.keeps _ _ hb hafter hd, hw⟩ (hafter ▸ hg) (hafter ▸ hn) ?_
    exact (hvacant.before hr).elim (fun hn' => absurd hn' hn) fun hi => hi

/-! ### Calls that only ask -/

theorem along_byEmail {email : String} {ends : Trace → Outcome (Option User) → Prop}
    (hfail : MayBreak I w ends)
    (hok : ∀ tr', Underway I w tr' → (after w tr).Grown (after w tr') →
      ends tr' (.finished (.ok ((after w tr').byEmail email)))) :
    (callDirectory (.byEmail email)).Along T ends tr := by
  refine along_callDirectory hT hI h nofun hfail fun o now id x _ hw hb hg hd hx _ => ?_
  obtain ⟨rfl, he⟩ := Prod.mk.inj hx
  have hafter : after w (o :: tr) = o.before.directory := he.symm
  have hend := hok (o :: tr) ⟨hI.keeps _ _ hb hafter hd, hw⟩ (hafter ▸ hg)
  rw [hafter] at hend
  exact hend

/-- The time, identifiers and new octets are always there, and asking for them does not touch the
directory. -/
theorem along_own {q : Question} {next : q.Answer → Action α} {ends : Trace → Outcome α → Prop}
    (hq : q = .now ∨ q = .freshId ∨ q = .freshSalt)
    (hok : ∀ o x, o.Saw q x → T.rely tr o → Underway I w (o :: tr) →
      (after w tr).Grown (after w (o :: tr)) →
      (∀ email, Vacant T w email tr → Vacant T w email (o :: tr)) →
      (next x).Along T ends (o :: tr)) :
    (ask q next).Along T ends tr := by
  refine ⟨hT.asks tr q h fun u hu => ?_, fun b how x a hr => ?_⟩
  · subst hu
    obtain hq | hq | hq := hq <;> cases hq
  have ht := hT.truthful tr _ h hr
  have hb := hT.stage tr _ h hr
  have hedits : ¬q.Edits := by
    obtain rfl | rfl | rfl := hq <;> exact id
  have hworks : ∀ e, how ≠ .fails e := by
    rintro e rfl
    obtain rfl | rfl | rfl := hq <;> cases ht
  have hafter : after w (⟨b, q, how, x, a⟩ :: tr) = b.directory := ht.directory_eq hedits
  refine hok ⟨b, q, how, x, a⟩ x ⟨b, how, a, rfl⟩ hr
    ⟨hI.keeps _ _ hb hafter ht.drawn_subset, h.works.cons hworks⟩ ?_ fun email hv => ?_
  · rw [hafter]
    exact hT.grown tr _ h hr
  · rw [Vacant, hafter]
    exact hv.before hr

end

/-! ## The catalog -/

section

variable (hT : Admits T I w) (hI : Steady who I)
include hT hI

theorem along_ensurePermissions {names : List String} {ends : Trace → Outcome Unit → Prop}
    (h : Underway I w tr) (hn : ∀ name ∈ names, name ∈ Catalog.permissions)
    (hfail : MayBreak I w ends)
    (hok : ∀ tr', Underway I w tr' → (after w tr).Grown (after w tr') →
      (∀ name ∈ names, (after w tr').Has (.permission name)) → ends tr' (.finished (.ok ()))) :
    (ensurePermissions names).Along T ends tr := by
  induction names generalizing tr with
  | nil => exact hok tr h (.refl _) (by simp)
  | cons name names ih =>
    refine along_bind.2 (along_ensurePermission hT hI h (hn name List.mem_cons_self) hfail
      fun tr₁ p h₁ hg₁ hp hname => ?_)
    refine ih h₁ (fun n hm => hn n (List.mem_cons_of_mem _ hm)) fun tr₂ h₂ hg₂ hall => ?_
    refine hok tr₂ h₂ (hg₁.trans hg₂) fun n hm => ?_
    obtain rfl | hm := List.mem_cons.1 hm
    · exact hg₂.has ⟨p, hp, hname⟩
    · exact hall n hm

theorem along_ensureGrants {r : Role} {permissions names : List String}
    {ends : Trace → Outcome Nat → Prop} (h : Underway I w tr) (hr : r ∈ (after w tr).roles)
    (hrole : (r.name, permissions) ∈ Catalog.roles) (hn : names ⊆ permissions)
    (hfail : MayBreak I w ends)
    (hok : ∀ tr', Underway I w tr' → (after w tr).Grown (after w tr') →
      (∀ name ∈ names, (after w tr').Has (.grant r.name name)) →
      ends tr' (.finished (.ok names.length))) :
    (ensureGrants r.id names).Along T ends tr := by
  induction names generalizing tr ends with
  | nil => exact hok tr h (.refl _) (by simp)
  | cons name names ih =>
    obtain ⟨hname, hnames⟩ := List.cons_subset.1 hn
    have hpermission := Catalog.mem_permissions_of_mem_roles _ hrole name hname
    refine along_bind.2 (along_ensurePermission hT hI h hpermission hfail
      fun tr₁ p h₁ hg₁ hp hname' => ?_)
    subst hname'
    refine along_bind.2 (along_grant hT hI h₁ (hg₁.roles.subset hr) hp hrole hname hfail
      fun tr₂ h₂ hg₂ hhas => ?_)
    refine along_bind.2 (ih h₂ (hg₂.roles.subset (hg₁.roles.subset hr)) hnames hfail
      fun tr₃ h₃ hg₃ hall => ?_)
    show ends tr₃ (.finished (.ok (1 + names.length)))
    rw [Nat.add_comm]
    refine hok tr₃ h₃ ((hg₁.trans hg₂).trans hg₃) fun n hm => ?_
    obtain rfl | hm := List.mem_cons.1 hm
    · exact hg₃.has hhas
    · exact hall n hm

end

/-- Whether a directory says all that the catalog says of a role. -/
def HasRole (d : Directory) (x : String × List String) : Prop :=
  d.Has (.role x.1) ∧ ∀ name ∈ x.2, d.Has (.grant x.1 name)

/-- Whether a directory says all that the catalog says. -/
structure Catalogued (d : Directory) : Prop where
  permissions : ∀ name ∈ Catalog.permissions, d.Has (.permission name)
  roles : ∀ x ∈ Catalog.roles, HasRole d x

theorem Catalogued.grown {d d' : Directory} (h : Catalogued d) (hg : d.Grown d') : Catalogued d' :=
  ⟨fun name hn => hg.has (h.permissions name hn), fun x hx =>
    ⟨hg.has (h.roles x hx).1, fun name hn => hg.has ((h.roles x hx).2 name hn)⟩⟩

theorem along_ensureRoles {roles : List (String × List String)} {ends : Trace → Outcome Nat → Prop}
    (hT : Admits T I w) (hI : Steady who I) (h : Underway I w tr)
    (hroles : roles ⊆ Catalog.roles)
    (hfail : MayBreak I w ends)
    (hok : ∀ tr', Underway I w tr' → (after w tr).Grown (after w tr') →
      (∀ x ∈ roles, HasRole (after w tr') x) →
      ends tr' (.finished (.ok (roles.flatMap Prod.snd).length))) :
    (ensureRoles roles).Along T ends tr := by
  induction roles generalizing tr ends with
  | nil => exact hok tr h (.refl _) (by simp)
  | cons x roles ih =>
    obtain ⟨name, permissions⟩ := x
    obtain ⟨hx, hothers⟩ := List.cons_subset.1 hroles
    refine along_bind.2 (along_ensureRole hT hI h hx hfail fun tr₁ r h₁ hg₁ hr hname => ?_)
    subst hname
    refine along_bind.2 (along_ensureGrants hT hI h₁ hr hx (List.Subset.refl _) hfail
      fun tr₂ h₂ hg₂ hgrants => ?_)
    refine along_bind.2 (ih h₂ hothers hfail fun tr₃ h₃ hg₃ hall => ?_)
    show ends tr₃ (.finished (.ok (permissions.length + (roles.flatMap Prod.snd).length)))
    rw [← List.length_append]
    refine hok tr₃ h₃ ((hg₁.trans hg₂).trans hg₃) fun y hm => ?_
    obtain rfl | hm := List.mem_cons.1 hm
    · exact ⟨(hg₂.trans hg₃).has ⟨r, hr, rfl⟩, fun n hn => hg₃.has (hgrants n hn)⟩
    · exact hall y hm

/-! ## The administrator -/

theorem mem_roles_adminRole : (Catalog.adminRole, Catalog.permissions) ∈ Catalog.roles :=
  List.mem_cons_self

/-- Whether a user is one that was made for an account. -/
structure MadeFor (hasher : PasswordHasher) (account : AdminAccount) (u : User) : Prop where
  email : u.email = account.email
  name : u.name = account.name
  active : u.active = true
  password : ∃ salt : Vector UInt8 16, ⟨u.password, u.salt⟩ =
    hasher.hashWith account.password salt.toList

/-- How an administrator can have been made sure of. -/
inductive Secured (I J : World → Prop) (hasher : PasswordHasher) (account : AdminAccount)
    (w : World) (tr : Trace) : AdminOutcome → Prop where
  | existing {u : User} (h : Underway I w tr) (hu : (after w tr).byEmail account.email = some u)
      (ha : (after w tr).Has (.assignment u.email Catalog.adminRole)) :
      Secured I J hasher account w tr (.existing u.id)
  | created {u : User} {w₁ : World} {older : Trace} (h : Underway J w tr) (h₁ : I w₁)
      (hn : w₁.directory.byEmail account.email = none) (hm : MadeFor hasher account u)
      (hd : tr.Draws u.id older) (hu : (after w tr).byEmail account.email = some u)
      (ha : (after w tr).Has (.assignment u.email Catalog.adminRole)) :
      Secured I J hasher account w tr (.created u.id)

section

variable {hasher : PasswordHasher} {account : AdminAccount}
  {ends : Trace → Outcome AdminOutcome → Prop} (hT : Admits T I w) (hI : Steady who I)
  (hTJ : Admits T J w) (hJ : Steady who J) (hmakes : Makes who I J)
  (hwho : who = some (account.email, account.name)) (hfail : MayBreak I w ends)
  (hfailJ : MayBreak J w ends)
  (htaken : ∀ tr', Underway I w tr' → (after w tr).Grown (after w tr') →
    (after w tr').byEmail account.email ≠ none → Interrupted T w account.email →
    ends tr' (.finished (.error (takenMeanwhile account.email))))
  (hok : ∀ tr' outcome, (after w tr).Grown (after w tr') →
    Secured I J hasher account w tr' outcome → ends tr' (.finished (.ok outcome)))
include hT hI hTJ hJ hmakes hwho hfail hfailJ htaken hok

theorem along_create {r : Role} (h : Underway I w tr) (hr : r ∈ (after w tr).roles)
    (hrole : r.name = Catalog.adminRole) (hn : (after w tr).byEmail account.email = none) :
    (do
      let stored ← hasher.hash account.password
      let now ← now
      let id ← freshId
      if ← callDirectory (.createUser
          ⟨id, account.name, account.email, true, stored.salt, stored.hash, now, now⟩) then
        callDirectory (.assign id r.id)
        return .created id
      else fail (takenMeanwhile account.email) : Action AdminOutcome).Along T ends tr := by
  refine along_own hT hI h (.inr (.inr rfl)) fun o₁ salt _ _ h₁ hg₁ hv₁ => ?_
  refine along_own hT hI h₁ (.inl rfl) fun o₂ t _ _ h₂ hg₂ hv₂ => ?_
  refine along_own hT hI h₂ (.inr (.inl rfl)) fun o₃ id hs hr₃ h₃ hg₃ hv₃ => ?_
  -- asking for the salt, the time and the identifier does not take the address
  have hvacant := hv₃ _ (hv₂ _ (hv₁ _ (.inl hn)))
  have hg := (hg₁.trans hg₂).trans hg₃
  let stored := hasher.hashWith account.password salt.toList
  let u : User := ⟨id, account.name, account.email, true, stored.salt, stored.hash, t, t⟩
  have hm : MadeFor hasher account u := ⟨rfl, rfl, rfl, salt, rfl⟩
  show Action.Along _ _ (callDirectory (.createUser u) >>= _) _
  refine along_bind.2 (along_createUser hT hI h₂ hJ hmakes hwho rfl hr₃ hs h₃ hvacant hfail
    (fun tr₄ w₁ h₄ hg₄ hsuf hw₁ hn₁ hu => ?_) fun tr₄ h₄ hg₄ hu hi => ?_)
  · have hr₄ := (hg.trans hg₄).roles.subset hr
    refine along_bind.2 (along_assign hTJ hJ h₄ hwho hu hr₄ hrole hfailJ
      fun tr₅ h₅ hg₅ hsuf₅ hu₅ ha => ?_)
    exact hok tr₅ _ ((hg.trans hg₄).trans hg₅)
      (.created h₅ hw₁ hn₁ hm ⟨o₃, hs, hsuf.trans hsuf₅⟩ hu₅ ha)
  · exact htaken tr₄ h₄ (hg.trans hg₄) hu hi

theorem along_ensureAdmin (h : Underway I w tr) :
    (ensureAdmin hasher account).Along T ends tr := by
  refine along_bind.2 (along_ensureRole hT hI h mem_roles_adminRole hfail
    fun tr₁ r h₁ hg₁ hr hrole => ?_)
  refine along_bind.2 (along_byEmail hT hI h₁ hfail fun tr₂ h₂ hg₂ => ?_)
  have hr₂ := hg₂.roles.subset hr
  have hg := hg₁.trans hg₂
  cases hu : (after w tr₂).byEmail account.email with
  | some u =>
    refine along_bind.2 (along_assign hT hI h₂ hwho hu hr₂ hrole hfail
      fun tr₃ h₃ hg₃ _ hu₃ ha => ?_)
    exact hok tr₃ _ (hg.trans hg₃) (.existing h₃ hu₃ ha)
  | none =>
    exact along_create hT hI hTJ hJ hmakes hwho hfail hfailJ
      (fun tr' h' hg' => htaken tr' h' (hg.trans hg'))
      (fun tr' outcome hg' => hok tr' outcome (hg.trans hg')) h₂ hr₂ hrole hu

end

/-! ## Whole runs -/

/-- The report of a run that made sure of all, with what became of the administrator. -/
def reporting (admin : Option AdminOutcome) : Report :=
  ⟨Catalog.roles.length, Catalog.permissions.length, (Catalog.roles.flatMap Prod.snd).length, admin⟩

/-- How a run can end that seeds the directory. -/
inductive Concludes (T : Terms) (I J : World → Prop) (hasher : PasswordHasher)
    (account : Option AdminAccount) (w : World) (tr : Trace) : Outcome Report → Prop where
  | broke {e : Failure} (h : Broke I w tr e ∨ Broke J w tr e) :
      Concludes T I J hasher account w tr (.finished (.error e))
  | taken {a : AdminAccount} (ha : account = some a) (h : Underway I w tr)
      (hc : Catalogued (after w tr)) (hu : (after w tr).byEmail a.email ≠ none)
      (hi : Interrupted T w a.email) :
      Concludes T I J hasher account w tr (.finished (.error (takenMeanwhile a.email)))
  | nobody (ha : account = none) (h : Underway I w tr) (hc : Catalogued (after w tr)) :
      Concludes T I J hasher account w tr (.finished (.ok (reporting none)))
  | secured {a : AdminAccount} {outcome : AdminOutcome} (ha : account = some a)
      (hc : Catalogued (after w tr)) (hs : Secured I J hasher a w tr outcome) :
      Concludes T I J hasher account w tr (.finished (.ok (reporting (some outcome))))

/-- The rule for a run whose account breaks no rule. -/
theorem along_seed_of {hasher : PasswordHasher} {account : Option AdminAccount}
    (hT : Admits T I w) (hI : Steady (named account) I) (hTJ : Admits T J w)
    (hJ : Steady (named account) J) (hmakes : Makes (named account) I J)
    (hrules : account.elim [] AdminAccount.faults = []) (h : Underway I w tr) :
    (seed hasher account).Along T (Concludes T I J hasher account w) tr := by
  unfold seed
  rw [hrules]
  have hfail : MayBreak I w (Concludes T I J hasher account w) := fun _ _ hb => .broke (.inl hb)
  have hfailJ : MayBreak J w (Concludes T I J hasher account w) := fun _ _ hb => .broke (.inr hb)
  show Action.Along _ _ (ensurePermissions Catalog.permissions >>= _) tr
  refine along_bind.2 (along_ensurePermissions hT hI h (fun _ hn => hn) hfail
    fun tr₁ h₁ hg₁ hpermissions => ?_)
  refine along_bind.2 (along_ensureRoles hT hI h₁ (List.Subset.refl _) hfail
    fun tr₂ h₂ hg₂ hroles => ?_)
  have hc : Catalogued (after w tr₂) := ⟨fun n hn => hg₂.has (hpermissions n hn), hroles⟩
  cases account with
  | none => exact .nobody rfl h₂ hc
  | some a =>
    exact along_bind.2 (along_bind.2 (along_ensureAdmin hT hI hTJ hJ hmakes rfl hfail hfailJ
      (fun tr₃ h₃ hg₃ hu hi => .taken rfl h₃ (hc.grown hg₃) hu hi)
      (fun tr₃ outcome hg₃ hs => .secured rfl (hc.grown hg₃) hs) h₂))

/-- An account that breaks a rule is reported before anything is asked. -/
theorem seed_eq_of_faults {hasher : PasswordHasher} {account : Option AdminAccount}
    (h : account.elim [] AdminAccount.faults ≠ []) :
    seed hasher account =
      done (.error (.invalid (FieldFault.lines (account.elim [] AdminAccount.faults)))) := by
  unfold seed
  cases hf : account.elim [] AdminAccount.faults with
  | nil => exact absurd hf h
  | cons fault faults => rfl

end Gatehouse.Seeding
