import Gatehouse.Proofs.Directory.Seeding

/-!
# Seeding can be repeated and resumed

At any time of a run alone the directory is at a `Stage`: it holds all that it held at the start,
and says nothing else but what it said then or what was wanted then. What it says together with what
is wanted in it is therefore the same at every stage (`Stage.seeded_iff`), and a run that completes
leaves nothing wanted (`Completed.settled`). `Attempts` are any number of runs of one seeding, each
stopped anywhere: because the directory stays at a stage of the first (`Attempts.stage`), it does
not matter how often and where earlier runs stopped, and a run that finds nothing wanted changes
nothing (`seeding_resumes`). `Progress` lists where a single run can be at any time.
-/

namespace Gatehouse.Seeding

open Gatehouse.Action Directory

/-! ## Stages -/

/-- What a directory says once it is seeded. -/
def Seeded (d : Directory) (who : Option (String × String)) (f : Fact) : Prop :=
  d.Has f ∨ Wanted d who f

/-- Where a world can be after some seeding of the directory that it started with. -/
structure Stage (d₀ : Directory) (who : Option (String × String)) (w : World) : Prop
    extends Orderly w where
  grown : d₀.Grown w.directory
  within : ∀ f, w.directory.Has f → Seeded d₀ who f
  /-- Where nothing was wanted nothing has changed. -/
  idle : (∀ f, Wanted d₀ who f → d₀.Has f) → w.directory = d₀

variable {d₀ : Directory} {who : Option (String × String)} {w w' : World} {tr : Trace} {f : Fact}

theorem Stage.start (h : w.directory.Sound) (hu : w.directory.Unique)
    (hw : ∀ id, w.directory.Knows id → id ∈ w.drawn) : Stage w.directory who w :=
  ⟨⟨h, hu, hw⟩, .refl _, fun _ hf => .inl hf, fun _ => rfl⟩

theorem Stage.keeps (h : Stage d₀ who w) (he : w'.directory = w.directory)
    (hd : w.drawn ⊆ w'.drawn) : Stage d₀ who w' :=
  ⟨h.toOrderly.keeps he hd, he ▸ h.grown, fun f hf => h.within f (he ▸ hf),
    fun hall => he.trans (h.idle hall)⟩

theorem wanted_user_iff {d : Directory} {email name : String} {active : Bool} :
    Wanted d who (.user email name active) ↔
      who = some (email, name) ∧ d.byEmail email = none ∧ active = true := by
  constructor
  · generalize hf : Fact.user email name active = f
    intro h
    cases h with
    | user hw hn =>
      cases hf
      exact ⟨hw, hn, rfl⟩
    | _ => cases hf
  · rintro ⟨hw, hn, rfl⟩
    exact .user hw hn

theorem Stage.byEmail_eq_none (h : Stage d₀ who w) {email : String}
    (hn : w.directory.byEmail email = none) : d₀.byEmail email = none := by
  cases h₀ : d₀.byEmail email with
  | none => rfl
  | some u => cases hn.symm.trans (h.grown.byEmail h.unique h₀)

/-- A user that was not there at the start was made as it was asked for. -/
theorem Stage.made (h : Stage d₀ who w) {email name : String} {u : User}
    (hw : who = some (email, name)) (hn : d₀.byEmail email = none)
    (hu : w.directory.byEmail email = some u) :
    u.email = email ∧ u.name = name ∧ u.active = true := by
  obtain ⟨hmem, hfold⟩ := of_byEmail hu
  obtain ⟨v, hv, he, -⟩ | hwant := h.within (.user u.email u.name u.active) ⟨u, hmem, rfl, rfl, rfl⟩
  · exact absurd (he ▸ hfold) (byEmail_eq_none_iff.1 hn v hv)
  · obtain ⟨hw', -, ha⟩ := wanted_user_iff.1 hwant
    cases hw.symm.trans hw'
    exact ⟨rfl, rfl, ha⟩

/-- The role is wanted for whoever has the address of the administrator by now. -/
theorem Stage.wanted_assignment (h : Stage d₀ who w) {email name : String} {u : User}
    (hw : who = some (email, name)) (hu : w.directory.byEmail email = some u) :
    Wanted d₀ who (.assignment u.email Catalog.adminRole) := by
  cases h₀ : d₀.byEmail email with
  | some u₀ =>
    cases hu.symm.trans (h.grown.byEmail h.unique h₀)
    exact .promoted hw h₀
  | none =>
    obtain ⟨rfl, -, -⟩ := h.made hw h₀ hu
    exact .administrator hw h₀

/-- What a directory says together with what is wanted in it is the same at every stage. -/
theorem Stage.seeded_iff (h : Stage d₀ who w) : Seeded w.directory who f ↔ Seeded d₀ who f := by
  constructor
  · rintro (hf | hf)
    · exact h.within f hf
    · cases hf with
      | permission hn => exact .inr (.permission hn)
      | role hr => exact .inr (.role hr)
      | grant hr hp => exact .inr (.grant hr hp)
      | promoted hw hu => exact .inr (h.wanted_assignment hw hu)
      | user hw hn => exact .inr (.user hw (h.byEmail_eq_none hn))
      | administrator hw hn => exact .inr (.administrator hw (h.byEmail_eq_none hn))
  · rintro (hf | hf)
    · exact .inl (h.grown.has hf)
    · cases hf with
      | permission hn => exact .inr (.permission hn)
      | role hr => exact .inr (.role hr)
      | grant hr hp => exact .inr (.grant hr hp)
      | promoted hw hu => exact .inr (.promoted hw (h.grown.byEmail h.unique hu))
      | @user email name hw hn =>
        -- the user may have been made by now
        cases hu : w.directory.byEmail email with
        | none => exact .inr (.user hw hu)
        | some u =>
          obtain ⟨he, hname, ha⟩ := h.made hw hn hu
          exact .inl ⟨u, (of_byEmail hu).1, he, hname, ha⟩
      | @administrator email name hw hn =>
        cases hu : w.directory.byEmail email with
        | none => exact .inr (.administrator hw hu)
        | some u =>
          obtain ⟨rfl, -, -⟩ := h.made hw hn hu
          exact .inr (.promoted hw hu)

theorem Stage.change {call : Call} (h : Stage d₀ who w) (hc : Change call f w w')
    (hf : Wanted w.directory who f) : Stage d₀ who w' where
  toOrderly := h.toOrderly.change hc
  grown := by
    obtain ⟨id, ha, -⟩ := hc.adds
    exact h.grown.trans ha.grown
  within g hg := by
    obtain ⟨id, ha, -⟩ := hc.adds
    exact ((ha.has g).1 hg).elim (h.within g) fun he => he ▸ h.seeded_iff.1 (.inr hf)
  idle hall := by
    obtain ⟨id, ha, -⟩ := hc.adds
    have hsame := h.idle hall
    rw [ha.same (hsame ▸ hall f (hsame ▸ hf)), hsame]

theorem stage_steady : Steady who (Stage d₀ who) where
  orderly _ h := h.toOrderly
  keeps _ _ h he hd := h.keeps he hd
  change _ _ _ _ h hc _ hf := h.change hc hf

theorem stage_makes : Makes who (Stage d₀ who) (Stage d₀ who) :=
  fun _ _ _ h hc hf => h.change hc hf

/-! ## Runs alone -/

/-- The terms of seeding alone in a world. -/
def seedingTerms (d₀ : Directory) (who : Option (String × String)) (w : World) : Terms where
  rely tr o := o.before = tr.world w ∧ o.Truthful
  guarantee tr _ := Underway (Stage d₀ who) w tr

/-- What is so of the administrator after a run that reports this of it. -/
structure Administers (d₀ d : Directory) (email : String) (outcome : AdminOutcome) : Prop where
  holds : ∃ u, d.byEmail email = some u ∧ outcome.user = u.id ∧
    d.Has (.assignment u.email Catalog.adminRole)
  existing : ∀ u, d₀.byEmail email = some u → outcome = .existing u.id

/-- Where an administrator was made sure of, in a run from a stage on. -/
theorem Secured.administers {hasher : PasswordHasher} {account : AdminAccount}
    {outcome : AdminOutcome}
    (h : Secured (Stage d₀ who) (Stage d₀ who) hasher account w tr outcome) :
    Underway (Stage d₀ who) w tr ∧ Administers d₀ (after w tr) account.email outcome := by
  cases h with
  | existing h hu ha =>
    refine ⟨h, ⟨_, hu, rfl, ha⟩, fun u₀ h₀ => ?_⟩
    cases hu.symm.trans (h.stage.grown.byEmail h.stage.unique h₀)
    rfl
  | created h h₁ hn _ _ hu ha =>
    refine ⟨h, ⟨_, hu, rfl, ha⟩, fun u₀ h₀ => ?_⟩
    cases hn.symm.trans (h₁.grown.byEmail h₁.unique h₀)

/-- What is so after a run that completes with a report. -/
structure Completed (d₀ : Directory) (who : Option (String × String)) (d : Directory)
    (report : Report) : Prop where
  catalogued : Catalogued d
  counts : report = ⟨Catalog.roles.length, Catalog.permissions.length,
    (Catalog.roles.flatMap Prod.snd).length, report.admin⟩
  nobody : who = none → report.admin = none
  administers : ∀ email name, who = some (email, name) →
    ∃ outcome, report.admin = some outcome ∧ Administers d₀ d email outcome

/-- How a run alone in a world ends that seeds the directory. -/
def Ended (d₀ : Directory) (who : Option (String × String)) (w : World) (tr : Trace) :
    Outcome Report → Prop
  | .finished (.ok report) => Underway (Stage d₀ who) w tr ∧ Completed d₀ who (after w tr) report
  | .finished (.error e) => Broke (Stage d₀ who) w tr e
  | .crashed => False

theorem along_seed {hasher : PasswordHasher} {account : Option AdminAccount}
    (hrules : account.elim [] AdminAccount.faults = [])
    (h : Underway (Stage d₀ (named account)) w tr) :
    (seed hasher account).Along (seedingTerms d₀ (named account) w)
      (Ended d₀ (named account) w) tr := by
  have halone : ∀ tr o, (seedingTerms d₀ (named account) w).rely tr o →
      (tr.world w).Waits o.before ∧ o.Truthful :=
    fun _ _ hr => ⟨hr.1 ▸ World.waits_refl _, hr.2⟩
  have hT := admits_alone halone stage_steady fun _ _ h => h
  refine (along_seed_of hT stage_steady hT stage_steady stage_makes hrules h).mono
    fun tr out hc => ?_
  cases hc with
  | broke hb => exact hb.elim id id
  | taken _ _ _ _ hi => exact absurd hi (not_interrupted_alone halone _)
  | nobody ha h hc => exact ⟨h, hc, rfl, fun _ => rfl, by subst ha; nofun⟩
  | secured ha hc hs =>
    subst ha
    have hadmin := hs.administers
    exact ⟨hadmin.1, hc, rfl, nofun, fun email name he => ⟨_, rfl, by cases he; exact hadmin.2⟩⟩

theorem Completed.settled {d : Directory} {report : Report} (h : Completed d₀ who d report)
    (hf : Wanted d who f) : d.Has f := by
  cases hf with
  | permission hn => exact h.catalogued.permissions _ hn
  | role hr => exact (h.catalogued.roles _ hr).1
  | grant hr hp => exact (h.catalogued.roles _ hr).2 _ hp
  | promoted hw hu =>
    obtain ⟨_, -, ha⟩ := h.administers _ _ hw
    obtain ⟨v, hv, -, hhas⟩ := ha.holds
    cases hu.symm.trans hv
    exact hhas
  | user hw hn | administrator hw hn =>
    obtain ⟨_, -, ha⟩ := h.administers _ _ hw
    obtain ⟨v, hv, -⟩ := ha.holds
    cases hn.symm.trans hv

theorem Completed.has_iff {report : Report} (h : Completed d₀ who w.directory report)
    (hs : Stage d₀ who w) : w.directory.Has f ↔ Seeded d₀ who f := by
  rw [← hs.seeded_iff]
  exact ⟨.inl, fun hf => hf.elim (fun hf => hf) h.settled⟩

/-! ## Progress -/

/-- Where a run is, at any time. -/
inductive Progress (d₀ : Directory) (account : Option AdminAccount) (w : World) :
    Trace → Action Report → Prop where
  | refused (h : account.elim [] AdminAccount.faults ≠ []) :
      Progress d₀ account w []
        (done (.error (.invalid (FieldFault.lines (account.elim [] AdminAccount.faults)))))
  | broke {tr : Trace} {e : Failure} (hrules : account.elim [] AdminAccount.faults = [])
      (h : Broke (Stage d₀ (named account)) w tr e) : Progress d₀ account w tr (done (.error e))
  | completed {tr : Trace} {report : Report} (hrules : account.elim [] AdminAccount.faults = [])
      (h : Underway (Stage d₀ (named account)) w tr)
      (hc : Completed d₀ (named account) (after w tr) report) :
      Progress d₀ account w tr (done (.ok report))
  | underway {tr : Trace} {b : Action Report} {q : Σ q : Question, q.Answer → Action Report}
      (hrules : account.elim [] AdminAccount.faults = [])
      (h : Underway (Stage d₀ (named account)) w tr) (ho : b.offer? false = some q) :
      Progress d₀ account w tr b

theorem progress_of_reaches {hasher : PasswordHasher} {account : Option AdminAccount}
    {b : Action Report} (hs : Stage d₀ (named account) w)
    (hr : (seed hasher account).Reaches tr b) (ha : tr.Alone w) :
    Progress d₀ account w tr b := by
  by_cases hrules : account.elim [] AdminAccount.faults = []
  · have hstart : Underway (Stage d₀ (named account)) w [] := ⟨hs, works_nil⟩
    obtain ⟨out, rfl, hend⟩ | ⟨q, ho, hg⟩ :=
      ((hr.along (along_seed hrules hstart) ha).1).over_or_asks
    · rcases out with (e | report) | _
      · exact .broke hrules hend
      · exact .completed hrules hend.1 hend.2
      · exact hend.elim
    · exact .underway hrules hg ho
  · rw [seed_eq_of_faults hrules] at hr
    obtain ⟨rfl, rfl⟩ := Reaches.of_over (.finished _) hr
    exact .refused hrules

theorem Progress.stage {account : Option AdminAccount} {b : Action Report}
    (h : Progress d₀ account w tr b) (hs : Stage d₀ (named account) w) :
    Stage d₀ (named account) (tr.world w) := by
  cases h with
  | refused => exact hs
  | broke _ h => exact h.stage
  | completed _ h => exact h.stage
  | underway _ h => exact h.stage

/-- Whether any number of runs of one seeding lead from a world to another, each alone and each
stopped anywhere. -/
inductive Attempts (who : Option (String × String)) (w : World) : World → Prop where
  | start : Attempts who w w
  | attempt {w' : World} {hasher : PasswordHasher} {account : Option AdminAccount} {tr : Trace}
      {b : Action Report} (h : Attempts who w w') (ha : named account = who)
      (hr : (seed hasher account).Reaches tr b) (halone : tr.Alone w') :
      Attempts who w (tr.world w')

theorem Attempts.stage (h : Attempts who w w') (hs : Stage w.directory who w) :
    Stage w.directory who w' := by
  induction h with
  | start => exact hs
  | attempt _ ha hr halone ih =>
    subst ha
    exact (progress_of_reaches ih hr halone).stage ih

/-- The first call to fail is the last, and its failure is the result. -/
theorem Progress.first_failure {account : Option AdminAccount} {b : Action Report}
    (h : Progress d₀ account w tr b) {o : Observation} {e : Failure} (ho : o ∈ tr)
    (he : o.how = .fails e) : tr.head? = some o ∧ b = done (.error e) := by
  cases h with
  | refused => cases ho
  | broke _ h =>
    obtain ⟨o', older, rfl, he', hworks⟩ := h.last
    rcases List.mem_cons.1 ho with rfl | ho
    · cases he.symm.trans he'
      exact ⟨rfl, rfl⟩
    · exact absurd he (hworks o ho e)
  | completed _ h => exact absurd he (h.works o ho e)
  | underway _ h => exact absurd he (h.works o ho e)

/-- A run that is over without a broken rule has failed by its last call, or has completed. -/
theorem Progress.over {account : Option AdminAccount} {out : Outcome Report}
    (h : Progress d₀ account w tr out.action)
    (hrules : account.elim [] AdminAccount.faults = []) :
    (∃ o e, tr.head? = some o ∧ o.how = .fails e ∧ out = .finished (.error e)) ∨
      ∃ report, out = .finished (.ok report) := by
  generalize hb : out.action = b at h
  cases h with
  | refused h => exact absurd hrules h
  | @broke tr e _ h =>
    obtain ⟨o, older, rfl, he, -⟩ := h.last
    cases out with
    | finished r =>
      cases hb
      exact .inl ⟨o, e, rfl, he, rfl⟩
    | crashed => cases hb
  | @completed tr report =>
    cases out with
    | finished r =>
      cases hb
      exact .inr ⟨report, rfl⟩
    | crashed => cases hb
  | underway _ _ ho => cases out <;> cases hb <;> cases ho

theorem Progress.completion {account : Option AdminAccount} {report : Report}
    (h : Progress d₀ account w tr (done (.ok report))) :
    Completed d₀ (named account) (after w tr) report := by
  cases h with
  | completed _ _ hc => exact hc
  | underway _ _ ho => cases ho

/-- Where nothing is wanted, a run reports the administrator that was there. -/
theorem Completed.report_eq {d : Directory} {report report' : Report}
    (h : Completed d₀ who d report) (h' : Completed d who d report') :
    report' = { report with admin := report.admin.map fun o => .existing o.user } := by
  rw [h'.counts, h.counts]
  cases who with
  | none => rw [h.nobody rfl, h'.nobody rfl, Option.map_none]
  | some asked =>
    obtain ⟨o, ho, ha⟩ := h.administers _ _ rfl
    obtain ⟨o', ho', ha'⟩ := h'.administers _ _ rfl
    obtain ⟨u, hu, hid, -⟩ := ha.holds
    rw [ho, ho', ha'.existing u hu, Option.map_some, hid]

/-- Seeding can be repeated, and resumed after any failure. After any number of runs that stopped
anywhere, all that was there before the first is still there. A further run is refused before it
asks anything if the account breaks a rule, else its first failing call ends it with that failure.
If it completes, the whole catalog is there and counted, and the administrator, if one was asked
for, is there and reported; the directory says what it says after one uninterrupted run; and one
more run for the same address and name, with whatever password, leaves the directory as it is and
finds the administrator there. -/
theorem seeding_resumes {account : Option AdminAccount} {w w' : World} {hasher : PasswordHasher}
    {tr : Trace} {b : Action Report} (hd : w.directory.Reached) (hu : w.directory.Unique)
    (hw : ∀ id, w.directory.Knows id → id ∈ w.drawn) (ha : Attempts (named account) w w')
    (hr : (seed hasher account).Reaches tr b) (halone : tr.Alone w') :
    w.directory.Grown (after w' tr) ∧ (after w' tr).Unique ∧
    (account.elim [] AdminAccount.faults ≠ [] →
      tr = [] ∧ ∃ e, b = done (.error e) ∧ e.kind = .validation) ∧
    (∀ o ∈ tr, ∀ e, o.how = .fails e → tr.head? = some o ∧ b = done (.error e)) ∧
    (account.elim [] AdminAccount.faults = [] → ∀ out : Outcome Report, b = out.action →
      (∃ o e, tr.head? = some o ∧ o.how = .fails e ∧ out = .finished (.error e)) ∨
        ∃ report, out = .finished (.ok report)) ∧
    ∀ report, b = done (.ok report) →
      Completed w.directory (named account) (after w' tr) report ∧
      (∀ hasher₁ tr₁ report₁, (seed hasher₁ account).Reaches tr₁ (done (.ok report₁)) →
        tr₁.Alone w → ∀ f, (after w' tr).Has f ↔ (after w tr₁).Has f) ∧
      ∀ hasher₂ account₂ tr₂ b₂, named account₂ = named account →
        (seed hasher₂ account₂).Reaches tr₂ b₂ → tr₂.Alone (tr.world w') →
        after (tr.world w') tr₂ = after w' tr ∧
        ∀ report₂, b₂ = done (.ok report₂) →
          report₂ = { report with admin := report.admin.map fun o => .existing o.user } := by
  have hstart : Stage w.directory (named account) w := .start hd.sound hu hw
  have hs := ha.stage hstart
  have hp := progress_of_reaches hs hr halone
  have hs' := hp.stage hs
  refine ⟨hs'.grown, hs'.unique, fun hf => ?_, fun o ho e he => hp.first_failure ho he,
    fun hrules out hout => (hout ▸ hp).over hrules, fun report hb => ?_⟩
  · rw [seed_eq_of_faults hf] at hr
    obtain ⟨rfl, rfl⟩ := Reaches.of_over (.finished _) hr
    exact ⟨rfl, _, rfl, rfl⟩
  subst hb
  have hc := hp.completion
  refine ⟨hc, fun hasher₁ tr₁ report₁ hr₁ ha₁ f => ?_,
    fun hasher₂ account₂ tr₂ b₂ hn hr₂ ha₂ => ?_⟩
  · have hp₁ := progress_of_reaches hstart hr₁ ha₁
    rw [hc.has_iff hs', hp₁.completion.has_iff (hp₁.stage hstart)]
  · -- From here on the directory that the completed run left is the one to start with.
    have hs₂ : Stage (after w' tr) (named account₂) (tr.world w') :=
      .start hs'.sound hs'.unique hs'.drawn
    have hp₂ := progress_of_reaches hs₂ hr₂ ha₂
    have hsame : after (tr.world w') tr₂ = after w' tr :=
      (hp₂.stage hs₂).idle fun f hf => hc.settled (hn ▸ hf)
    refine ⟨hsame, fun report₂ hb₂ => ?_⟩
    subst hb₂
    have hc₂ := hp₂.completion
    rw [hn, hsame] at hc₂
    exact hc.report_eq hc₂

/-! ## A small run -/

/-- The drawing of an identifier. Its number stands in the first digits, where identifiers are told
apart soonest. -/
def drawing (n : Nat) : Bool × Reaction := (false, .draws (.ofNat (n <<< 116)))

/-- The reactions to the calls for the catalog if all work, with new identifiers from a number
on. -/
def catalogReactions (first : Nat) : List (Bool × Reaction) :=
  (List.range 16).map (fun n => drawing (first + n)) ++
    [16, 10, 4, 3].zipIdx.flatMap fun (grants, i) =>
      drawing (first + 20 * (i + 1)) :: (List.range grants).flatMap fun j =>
        [drawing (first + 20 * (i + 1) + j + 1), (false, .works)]

/-- The reactions to a run that makes the administrator. -/
def makingReactions (first : Nat) : List (Bool × Reaction) :=
  catalogReactions first ++
    [drawing (first + 100), (false, .works), (false, .salts (Vector.replicate 16 0)),
      (false, .shows ⟨1000, 0⟩), drawing (first + 101), (false, .works), (false, .works)]

/-- The reactions to a run that finds the administrator. -/
def findingReactions (first : Nat) : List (Bool × Reaction) :=
  catalogReactions first ++ [drawing (first + 100), (false, .works), (false, .works)]

/-- The reactions to a run whose second call fails. -/
def stoppingReactions : List (Bool × Reaction) :=
  [drawing 1, (false, .fails (.database "connection refused"))]

def smallAccount (password : String) : AdminAccount := ⟨"Root", "root@example.com", password⟩

def smallHasher : PasswordHasher := ⟨fun _ _ => Vector.replicate 32 0⟩

def emptyWorld : World := ⟨⟨0, 0⟩, 0, .empty, .empty, []⟩

/-- What seeding comes to if the world reacts like that. -/
def smallSeeding (w : World) (password : String) (rs : List (Bool × Reaction)) :
    Option (Trace × Action Report) :=
  play w rs ([], seed smallHasher (some (smallAccount password)))

/-- The world after a run that completes. -/
def completing (w : World) (password : String) (rs : List (Bool × Reaction)) : Option World :=
  match smallSeeding w password rs with
  | some (tr, .done (.ok _)) => some (tr.world w)
  | _ => none

/-- The world after a run that is stopped, one that completes, and one with another password. -/
def resuming (w : World) (stopping making finding : List (Bool × Reaction)) : Option World := do
  let (tr, _) ← smallSeeding w "secret" stopping
  let w ← completing (tr.world w) "secret" making
  completing w "other" finding

theorem exists_of_completing {password : String} {rs : List (Bool × Reaction)}
    (h : completing w password rs = some w') :
    ∃ tr report, (seed smallHasher (some (smallAccount password))).Reaches tr
      (done (.ok report)) ∧ tr.Alone w ∧ tr.world w = w' := by
  unfold completing at h
  split at h
  · rename_i tr report hplay
    cases h
    obtain ⟨hr, ha⟩ := reaches_of_play hplay .start trivial
    exact ⟨tr, report, hr, ha, rfl⟩
  · cases h

theorem exists_of_resuming (stopping making finding : List (Bool × Reaction))
    (h : (resuming w stopping making finding).isSome = true) :
    ∃ w' tr report tr₂ report₂, Attempts (named (some (smallAccount "secret"))) w w' ∧
      ((seed smallHasher (some (smallAccount "secret"))).Reaches tr (done (.ok report)) ∧
        tr.Alone w') ∧
      (seed smallHasher (some (smallAccount "other"))).Reaches tr₂ (done (.ok report₂)) ∧
        tr₂.Alone (tr.world w') := by
  obtain ⟨w₂, h⟩ := Option.isSome_iff_exists.1 h
  obtain ⟨⟨tr₀, b₀⟩, h₀, h⟩ := Option.bind_eq_some_iff.1 h
  obtain ⟨w₁, h₁, h₂⟩ := Option.bind_eq_some_iff.1 h
  obtain ⟨hr₀, ha₀⟩ := reaches_of_play h₀ .start trivial
  obtain ⟨tr, report, hr, ha, rfl⟩ := exists_of_completing h₁
  obtain ⟨tr₂, report₂, hr₂, ha₂, -⟩ := exists_of_completing h₂
  exact ⟨_, tr, report, tr₂, report₂, .attempt .start rfl hr₀ ha₀, ⟨hr, ha⟩, hr₂, ha₂⟩

/-- A run that was stopped by its second call is completed by the next one, which reports the
administrator, and a third one with another password finds it there. -/
theorem stopped_seeding_resumes :
    ∃ w' tr report, Attempts (named (some (smallAccount "secret"))) emptyWorld w' ∧
      (seed smallHasher (some (smallAccount "secret"))).Reaches tr (done (.ok report)) ∧
      tr.Alone w' ∧
      (∃ outcome, report.admin = some outcome ∧
        Administers .empty (after w' tr) "root@example.com" outcome) ∧
      (∃ tr₁ report₁, (seed smallHasher (some (smallAccount "secret"))).Reaches tr₁
          (done (.ok report₁)) ∧ tr₁.Alone emptyWorld ∧
        ∀ f, (after w' tr).Has f ↔ (after emptyWorld tr₁).Has f) ∧
      ∃ tr₂ report₂, (seed smallHasher (some (smallAccount "other"))).Reaches tr₂
          (done (.ok report₂)) ∧ tr₂.Alone (tr.world w') ∧
        after (tr.world w') tr₂ = after w' tr ∧
        report₂ = { report with admin := report.admin.map fun o => .existing o.user } := by
  obtain ⟨w₁, hwhole⟩ : ∃ w₁, completing emptyWorld "secret" (makingReactions 1) = some w₁ :=
    Option.isSome_iff_exists.1 (by decide +kernel)
  obtain ⟨tr₁, report₁, hr₁, ha₁, -⟩ := exists_of_completing hwhole
  obtain ⟨w', tr, report, tr₂, report₂, hattempts, ⟨hr, ha⟩, hr₂, ha₂⟩ := exists_of_resuming
    (w := emptyWorld) stoppingReactions (makingReactions 200) (findingReactions 400)
    (by decide +kernel)
  obtain ⟨-, -, -, -, -, hcompletes⟩ := seeding_resumes (w := emptyWorld) .empty
    ⟨.nil, .nil, .nil⟩ (by simp [emptyWorld, Knows, Directory.empty]) hattempts hr ha
  obtain ⟨hcompleted, hsame, hagain⟩ := hcompletes report rfl
  obtain ⟨hidle, hreport⟩ := hagain _ (some (smallAccount "other")) _ _ rfl hr₂ ha₂
  exact ⟨w', tr, report, hattempts, hr, ha, hcompleted.administers _ _ rfl,
    ⟨tr₁, report₁, hr₁, ha₁, hsame _ _ _ hr₁ ha₁⟩, tr₂, report₂, hr₂, ha₂, hidle,
    hreport report₂ rfl⟩

end Gatehouse.Seeding
