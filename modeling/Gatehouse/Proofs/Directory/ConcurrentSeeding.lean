import Gatehouse.Proofs.Directory.Resumption
import Gatehouse.Proofs.Run.Log

/-!
# Seeding from several places at once

Any number of runs of seeding, each for an account of its own, whose calls to one directory come in
any order. No call takes anything away, and each leaves the directory orderly (`orderly_after`); so
a run may rely on what it made sure of, and on nothing else (`amongTerms`). `Coherent` is what every
state of all runs together keeps (`Coherent.step`), and from it each run keeps to the rules of
seeding (`Coherent.concludes`). Of the runs for one address at most one makes the user
(`concurrent_seeding_safe`), because the others look the address up or make the user in the very
call that finds it taken.
-/

namespace Gatehouse.Seeding

open Gatehouse.Action Directory RunState

/-- Runs of seeding, each with a hasher and the administrator that is asked for. -/
def workload : Workload where
  Request := PasswordHasher × Option AdminAccount
  Result _ := Report
  action r := seed r.1 r.2

/-- A step in which nobody else edits the directory: it changes by answers to requests only. -/
def Unedited {W : Workload} (S S' : RunState W) : Prop :=
  Step S S' ∧ (S'.world.directory = S.world.directory ∨ ∃ i older o, Observed S S' i older o)

variable {w : World} {tr : Trace} {S S' : RunState workload}

/-! ## What a run may rely on -/

/-- The terms of seeding among others: what a run has left stays, and an identifier that it has just
drawn is used by nobody else. It makes users with such identifiers only. -/
def amongTerms (w : World) : Terms where
  rely tr o := o.Truthful ∧ Orderly o.before ∧ (after w tr).Grown o.before.directory ∧
    ∀ id, JustDrew tr id → ¬o.before.directory.Knows id ∧ id ∈ o.before.drawn
  guarantee tr q := ∀ u, q = .directory (.createUser u) → JustDrew tr u.id

theorem admits_among : Admits (amongTerms w) Orderly w where
  asks _ _ _ h := h
  truthful _ _ _ h := h.1
  stage _ _ _ h := h.2.1
  grown _ _ _ h := h.2.2.1
  unknown tr o _ id _ _ hs h := h.2.2.2 id ⟨o, tr, rfl, hs⟩

theorem orderly_steady {who : Option (String × String)} : Steady who Orderly where
  orderly _ h := h
  keeps _ _ h := h.keeps
  change _ _ _ _ h hc _ _ := h.change hc

theorem orderly_makes {who : Option (String × String)} : Makes who Orderly Orderly :=
  fun _ _ _ h hc _ => h.change hc

/-- How a run ends among others, if its account breaks no rule. -/
def EndsAmong (w : World) (r : PasswordHasher × Option AdminAccount) (tr : Trace)
    (out : Outcome Report) : Prop :=
  r.2.elim [] AdminAccount.faults = [] →
    Concludes (amongTerms w) Orderly Orderly r.1 r.2 w tr out

theorem along_seed_among (h : Orderly w) (r : PasswordHasher × Option AdminAccount) :
    (seed r.1 r.2).Along (amongTerms w) (EndsAmong w r) [] := by
  have hstart : Underway Orderly w [] := ⟨h, works_nil⟩
  by_cases hrules : r.2.elim [] AdminAccount.faults = []
  · exact (along_seed_of admits_among orderly_steady admits_among orderly_steady orderly_makes
      hrules hstart).mono fun _ _ hc _ => hc
  · rw [seed_eq_of_faults hrules]
    exact fun hr => absurd hr hrules

/-! ## What one answer does -/

/-- An answer leaves the world orderly and takes nothing away. The directory knows nothing new after
it but an identifier that was not in use, or that of a user that was to be made. -/
theorem orderly_after {o : Observation} (h : Orderly o.before) (ht : o.Truthful)
    (hcreate : ∀ u, o.question = .directory (.createUser u) →
      ¬o.before.directory.Knows u.id ∧ u.id ∈ o.before.drawn) :
    Orderly o.after ∧ o.before.directory.Grown o.after.directory ∧
      ∀ id, o.after.directory.Knows id → o.before.directory.Knows id ∨ id ∉ o.before.drawn ∨
        ∃ u, o.question = .directory (.createUser u) ∧ id = u.id := by
  have hd := ht.drawn_subset
  have same : o.after.directory = o.before.directory → Orderly o.after ∧
      o.before.directory.Grown o.after.directory ∧
      ∀ id, o.after.directory.Knows id → o.before.directory.Knows id ∨ id ∉ o.before.drawn ∨
        ∃ u, o.question = .directory (.createUser u) ∧ id = u.id := fun he =>
    ⟨h.keeps he hd, he ▸ .refl _, fun id hk => .inl (he ▸ hk)⟩
  obtain ⟨b, q, how, x, a⟩ := o
  cases q with
  | directory call =>
    obtain ⟨e, -, -, rfl⟩ | ⟨fresh, -, hx, hm⟩ := ht.directory
    · exact same rfl
    have hnew : call.makes = true → ¬b.directory.Knows fresh :=
      fun hmakes hk => (hm hmakes).1 (h.drawn fresh hk)
    obtain he | ⟨f, id, ha, hid⟩ := adds_answer h.sound h.unique hnew
      (fun u hu => (hcreate u (hu ▸ rfl)).1) hx
    · exact same he
    refine ⟨h.change (f := f) ⟨⟨_, _, _, hx⟩, ⟨id, ha, ?_⟩, hd⟩, ha.grown, fun i hi => ?_⟩
    · -- the identifier of the new fact was known, drawn by this call, or drawn for the user
      obtain hk | ⟨hmakes, rfl⟩ | ⟨u, rfl, rfl⟩ := hid
      · exact hd (h.drawn id hk)
      · exact (hm hmakes).2
      · exact hd (hcreate u rfl).2
    · obtain hi | rfl := ha.knows i hi
      · exact .inl hi
      obtain hk | ⟨hmakes, rfl⟩ | ⟨u, rfl, rfl⟩ := hid
      · exact .inl hk
      · exact .inr (.inl (hm hmakes).1)
      · exact .inr (.inr ⟨u, rfl, rfl⟩)
  | _ => exact same (ht.directory_eq id)

/-! ## All runs together -/

/-- What every state of runs of seeding keeps that began in a world. -/
structure Coherent (w : World) (S : RunState workload) : Prop where
  begun : Runs ⟨w, []⟩ S
  orderly : Orderly S.world
  grown : w.directory.Grown S.world.directory
  relied : ∀ (i : Nat) (t : Thread workload), S.threads[i]? = some t →
    t.trace.All (amongTerms w).rely
  left : ∀ (i : Nat) (t : Thread workload), S.threads[i]? = some t →
    (after w t.trace).Grown S.world.directory
  /-- What a run has just drawn, nobody else has made anything with. -/
  unknown : ∀ (i : Nat) (t : Thread workload) (id : Uuid), S.threads[i]? = some t →
    JustDrew t.trace id → ¬S.world.directory.Knows id

theorem JustDrew.draws {id : Uuid} (h : JustDrew tr id) : ∃ older, tr.Draws id older := by
  obtain ⟨o, older, rfl, ho⟩ := h
  exact ⟨older, o, ho, List.suffix_refl _⟩

/-- A step without an observation leaves the directory and all traces as they are. -/
theorem Coherent.quiet (h : Coherent w S) (hs : Step S S') (hq : Quiet S S')
    (hd : S'.world.directory = S.world.directory) : Coherent w S' where
  begun := h.begun.tail hs
  orderly := h.orderly.keeps hd (hq.drawn ▸ List.Subset.refl _)
  grown := hd ▸ h.grown
  relied i t ht := by
    obtain ht | ⟨-, r, rfl⟩ := hq.new i t ht
    · exact h.relied i t ht
    · trivial
  left i t ht := by
    obtain ht | ⟨-, r, rfl⟩ := hq.new i t ht
    · exact hd ▸ h.left i t ht
    · exact hd ▸ h.grown
  unknown i t id ht hj := by
    obtain ht | ⟨-, r, rfl⟩ := hq.new i t ht
    · exact hd ▸ h.unknown i t id ht hj
    · obtain ⟨_, _, he, -⟩ := hj
      cases he

theorem Coherent.asks (h : Coherent w S) {i : Nat} {older : Trace} {o : Observation}
    (hw : Orderly w) (ho : Observed S S' i older o) :
    (amongTerms w).guarantee older o.question := by
  obtain ⟨r, a, second, next, ht, hoffer, -⟩ := ho.thread
  have hr := h.begun.reaches ht
  exact ((hr.along (along_seed_among hw r) (h.relied i _ ht)).1.step hoffer).1

theorem Coherent.observed (h : Coherent w S) (hw : Orderly w) (hs : Step S S') {i : Nat}
    {older : Trace} {o : Observation} (ho : Observed S S' i older o) : Coherent w S' := by
  obtain ⟨r, a, second, next, ht, -, ht'⟩ := ho.thread
  have hb : o.before = S.world := ho.before.symm
  have hbefore : Orderly o.before := hb ▸ h.orderly
  have hpending : ∀ id, JustDrew older id →
      ¬o.before.directory.Knows id ∧ id ∈ o.before.drawn := by
    intro id hj
    obtain ⟨old, hd⟩ := hj.draws
    rw [hb]
    exact ⟨h.unknown i _ id ht hj, h.begun.mem_drawn ht hd⟩
  have hask := h.asks hw ho
  obtain ⟨horderly, hgrown, hknows⟩ := orderly_after hbefore ho.truthful
    fun u hu => hpending u.id (hask u hu)
  have hnow : S'.world.directory = o.after.directory := congrArg World.directory ho.after
  have hwas : o.before.directory = S.world.directory := congrArg World.directory hb
  -- a run is the one that asked, or was there before and has observed nothing new
  have split : ∀ {j t'}, S'.threads[j]? = some t' → (j = i ∧ t' = ⟨r, o :: older, next o.answer⟩) ∨
      (j ≠ i ∧ S.threads[j]? = some t') := by
    intro j t' hj
    by_cases hij : j = i
    · subst hij
      exact .inl ⟨rfl, Option.some.inj (hj.symm.trans ht')⟩
    · exact .inr ⟨hij, (ho.others j hij).symm.trans hj⟩
  refine ⟨h.begun.tail hs, ho.after ▸ horderly, hnow ▸ h.grown.trans (hwas ▸ hgrown),
    fun j t' hj => ?_, fun j t' hj => ?_, fun j t' id hj hdrew => ?_⟩
  · obtain ⟨rfl, rfl⟩ | ⟨-, hj⟩ := split hj
    · exact ⟨⟨ho.truthful, hbefore, hwas ▸ h.left _ _ ht, hpending⟩, h.relied _ _ ht⟩
    · exact h.relied j t' hj
  · obtain ⟨rfl, rfl⟩ | ⟨-, hj⟩ := split hj
    · exact hnow ▸ .refl _
    · exact hnow ▸ (h.left j t' hj).trans (hwas ▸ hgrown)
  · rw [hnow]
    intro hk
    obtain ⟨rfl, rfl⟩ | ⟨hij, hj⟩ := split hj
    · -- what this observation has drawn was not in use
      obtain ⟨_, _, he, hs⟩ := hdrew
      cases he
      obtain ⟨b, how, a, rfl⟩ := hs
      obtain ⟨hid, -, rfl⟩ := ho.truthful.freshId
      exact hid (hbefore.drawn id hk)
    · obtain ⟨old, hd⟩ := hdrew.draws
      obtain hk | hid | ⟨u, hu, rfl⟩ := hknows id hk
      · exact h.unknown j t' id hj hdrew (hwas ▸ hk)
      · exact hid (hb ▸ h.begun.mem_drawn hj hd)
      · -- no two runs have drawn the same identifier
        obtain ⟨old', hd'⟩ := (hask u hu).draws
        exact hij (h.begun.drew_unique hj ht hd hd').1

theorem Coherent.step (h : Coherent w S) (hw : Orderly w) (hs : Unedited S S') :
    Coherent w S' := by
  obtain ⟨i, older, o, ho⟩ | hq := hs.1.cases
  · exact h.observed hw hs.1 ho
  · obtain hd | ⟨i, older, o, ho⟩ := hs.2
    · exact h.quiet hs.1 hq hd
    · exact h.observed hw hs.1 ho

theorem coherent_of_runs (hw : Orderly w) (hr : Relation.ReflTransGen Unedited ⟨w, []⟩ S) :
    Coherent w S := by
  induction hr with
  | refl => exact ⟨.refl, hw, .refl _, nofun, nofun, nofun⟩
  | tail _ hs ih => exact ih.step hw hs

/-! ## What the runs come to -/

/-- Whether a run is over without a failed call, and its account breaks no rule. -/
structure Done (t : Thread workload) : Prop where
  rules : t.request.2.elim [] AdminAccount.faults = []
  works : Works t.trace
  ended : ∀ second, t.rest.offer? second = none

/-- Whether a role of a name grants a permission of a name, once. -/
def GrantsOnce (d : Directory) (role permission : String) : Prop :=
  ∃ r ∈ d.roles, ∃ p ∈ d.permissions, r.name = role ∧ p.name = permission ∧
    d.grants.count (r.id, p.id) = 1

/-- Whether a user is the one of an address, and has the role of administrators, once. -/
def Administrates (d : Directory) (email : String) (user : Uuid) : Prop :=
  ∃ u, d.byEmail email = some u ∧ u.id = user ∧ ∃ r ∈ d.roles, r.name = Catalog.adminRole ∧
    d.assignments.count (u.id, r.id) = 1

/-- What a run for an account comes to, by the directory that all runs left. -/
inductive ComesTo (d : Directory) : Option AdminAccount → Outcome Report → Prop where
  | nobody : ComesTo d none (.finished (.ok (reporting none)))
  | secured {a : AdminAccount} {outcome : AdminOutcome}
      (h : Administrates d a.email outcome.user) :
      ComesTo d (some a) (.finished (.ok (reporting (some outcome))))
  | taken {a : AdminAccount} (h : d.byEmail a.email ≠ none) :
      ComesTo d (some a) (.finished (.error (takenMeanwhile a.email)))

/-- Whether a run is over and reports this of the administrator it was for. -/
def Reports (t : Thread workload) (a : AdminAccount) (outcome : AdminOutcome) : Prop :=
  t.request.2 = some a ∧ t.rest = .done (.ok (reporting (some outcome)))

theorem Orderly.grantsOnce (h : Orderly w) {role permission : String}
    (hg : w.directory.Has (.grant role permission)) : GrantsOnce w.directory role permission := by
  obtain ⟨r, hr, p, hp, hrn, hpn, hg⟩ := hg
  exact ⟨r, hr, p, hp, hrn, hpn, List.count_eq_one_of_mem h.sound.grantedOnce hg⟩

theorem Orderly.administrates (h : Orderly w) {email : String} {u : User}
    (hu : w.directory.byEmail email = some u)
    (ha : w.directory.Has (.assignment u.email Catalog.adminRole)) :
    Administrates w.directory email u.id := by
  obtain ⟨v, hv, r, hr, he, hrole, ha⟩ := ha
  obtain rfl := h.unique.user_eq hv (of_byEmail hu).1 (congrArg Ascii.lowerString he)
  exact ⟨v, hu, rfl, r, hr, hrole, List.count_eq_one_of_mem h.sound.assignedOnce ha⟩

section

variable (h : Coherent w S) {i j : Nat} {t u : Thread workload} (ht : S.threads[i]? = some t)
include h ht

theorem Coherent.concludes (hw : Orderly w) (hd : Done t) :
    ∃ out : Outcome Report, t.rest = out.action ∧
      Concludes (amongTerms w) Orderly Orderly t.request.1 t.request.2 w t.trace out := by
  have hr := h.begun.reaches ht
  have hend := (hr.along (along_seed_among hw t.request) (h.relied i t ht)).1
  obtain ⟨out, hout, hc⟩ | ⟨q, ho, -⟩ := hend.over_or_asks
  · exact ⟨out, hout, hc hd.rules⟩
  · rw [hd.ended false] at ho
    cases ho

/-- What a run has left is there when all others have gone on. -/
theorem Coherent.secured {hasher : PasswordHasher} {a : AdminAccount} {outcome : AdminOutcome}
    (hs : Secured Orderly Orderly hasher a w t.trace outcome) :
    Administrates S.world.directory a.email outcome.user := by
  have hleft := h.left i t ht
  cases hs with
  | existing _ hu ha | created _ _ _ _ _ hu ha =>
    exact h.orderly.administrates (hleft.byEmail h.orderly.unique hu) (hleft.has ha)

theorem Coherent.comesTo (hw : Orderly w) (hd : Done t) :
    Catalogued S.world.directory ∧
      ∃ out : Outcome Report, t.rest = out.action ∧
        ComesTo S.world.directory t.request.2 out := by
  obtain ⟨out, hout, hc⟩ := h.concludes ht hw hd
  have hleft := h.left i t ht
  cases hc with
  | broke hb =>
    obtain ⟨o, older, he, hfails, -⟩ := hb.elim Broke.last Broke.last
    exact absurd hfails (hd.works o (he ▸ List.mem_cons_self) _)
  | taken ha _ hc hu _ =>
    refine ⟨hc.grown hleft, _, hout, ha ▸ .taken fun hn => ?_⟩
    obtain ⟨u, hu⟩ := Option.ne_none_iff_exists'.1 hu
    cases hn.symm.trans (hleft.byEmail h.orderly.unique hu)
  | nobody ha _ hc => exact ⟨hc.grown hleft, _, hout, ha ▸ .nobody⟩
  | secured ha hc hs => exact ⟨hc.grown hleft, _, hout, ha ▸ .secured (h.secured ht hs)⟩

/-- How a run that reports an administrator made sure of it. -/
theorem Coherent.reports (hw : Orderly w) (hd : Done t) {a : AdminAccount} {outcome : AdminOutcome}
    (hr : Reports t a outcome) : Secured Orderly Orderly t.request.1 a w t.trace outcome := by
  obtain ⟨out, hout, hc⟩ := h.concludes ht hw hd
  rw [hr.2] at hout
  cases hc with
  | secured ha _ hs =>
    cases hr.1.symm.trans ha
    cases hout
    exact hs
  | _ => cases hout

theorem Coherent.user_eq (hu : S.threads[j]? = some u) (hw : Orderly w) (hdt : Done t)
    (hdu : Done u) {a b : AdminAccount} {x y : AdminOutcome} (hx : Reports t a x)
    (hy : Reports u b y) (he : Ascii.lowerString a.email = Ascii.lowerString b.email) :
    x.user = y.user := by
  obtain ⟨v, hv, hvx, -⟩ := h.secured ht (h.reports ht hw hdt hx)
  obtain ⟨v', hv', hvy, -⟩ := h.secured hu (h.reports hu hw hdu hy)
  obtain ⟨hm, hf⟩ := of_byEmail hv
  obtain ⟨hm', hf'⟩ := of_byEmail hv'
  rw [← hvx, ← hvy, h.orderly.unique.user_eq hm hm' (hf.trans (he.trans hf'.symm))]

theorem Coherent.draws_of_created (hw : Orderly w) (hd : Done t) {a : AdminAccount} {id : Uuid}
    (hr : Reports t a (.created id)) : ∃ older, t.trace.Draws id older := by
  cases h.reports ht hw hd hr with
  | created _ _ _ _ hdraws _ _ => exact ⟨_, hdraws⟩

end

/-- Runs of seeding do not disturb each other. Whatever the order of their calls, nothing is lost
and names and addresses stay unique. Once a run is over every role of the catalog grants each of its
permissions once; the run reports a user who has its address and the role of administrators, once,
or that the address was taken. Of the runs for one address, letters compared without case, all
report the same user, and at most one that it made the user. -/
theorem concurrent_seeding_safe {w : World} {S : RunState workload} (hd : w.directory.Reached)
    (hu : w.directory.Unique) (hw : ∀ id, w.directory.Knows id → id ∈ w.drawn)
    (hr : Relation.ReflTransGen Unedited ⟨w, []⟩ S) :
    w.directory.Grown S.world.directory ∧ S.world.directory.Unique ∧
    (∀ (i : Nat) (t : Thread workload), S.threads[i]? = some t → Done t →
      (∀ x ∈ Catalog.roles, ∀ permission ∈ x.2,
        GrantsOnce S.world.directory x.1 permission) ∧
      ∃ out : Outcome Report, t.rest = out.action ∧
        ComesTo S.world.directory t.request.2 out) ∧
    ∀ (i j : Nat) (t u : Thread workload) a b x y, S.threads[i]? = some t →
      S.threads[j]? = some u → Done t → Done u → Reports t a x → Reports u b y →
      Ascii.equalFold a.email b.email = true →
      x.user = y.user ∧ ∀ id id', x = .created id → y = .created id' → i = j := by
  have hstart : Orderly w := ⟨hd.sound, hu, hw⟩
  have h := coherent_of_runs hstart hr
  refine ⟨h.grown, h.orderly.unique, fun i t ht hdone => ?_,
    fun i j t u a b x y ht hu hdt hdu hx hy he => ?_⟩
  · obtain ⟨hc, hout⟩ := h.comesTo ht hstart hdone
    exact ⟨fun x hx p hp => h.orderly.grantsOnce ((hc.roles x hx).2 p hp), hout⟩
  · have huser := h.user_eq ht hu hstart hdt hdu hx hy (equalFold_iff.1 he)
    refine ⟨huser, ?_⟩
    rintro id id' rfl rfl
    obtain ⟨older, hdrew⟩ := h.draws_of_created ht hstart hdt hx
    obtain ⟨older', hdrew'⟩ := h.draws_of_created hu hstart hdu hy
    rw [show id = id' from huser] at hdrew
    exact (h.begun.drew_unique ht hu hdrew hdrew').1

/-! ## Three small runs -/

theorem unedited_of_answered {W : Workload} {S S' : RunState W} {log : Log}
    (h : Answered S log S') : Relation.ReflTransGen Unedited S S' := by
  induction h with
  | nil => exact .refl
  | observed _ hs ho ih => exact ih.tail ⟨hs, .inr ⟨_, _, _, ho⟩⟩

theorem unedited_of_played {r : PasswordHasher × Option AdminAccount}
    {rs : List (Bool × Reaction)} {b : Action Report}
    (h : play S.world rs ([], seed r.1 r.2) = some (tr, b)) :
    Relation.ReflTransGen Unedited S ⟨tr.world S.world, S.threads ++ [⟨r, tr, b⟩]⟩ := by
  obtain ⟨hr, ha⟩ := reaches_of_play h .start trivial
  exact .head ⟨.start S r, .inl rfl⟩
    (unedited_of_answered (Answered.started (W := workload) (r := r) S hr ha))

theorem unedited_of_played_on {i : Nat} {r : PasswordHasher × Option AdminAccount}
    {tr₀ : Trace} {rs : List (Bool × Reaction)} {a b : Action Report}
    (ht : S.threads[i]? = some ⟨r, tr₀, a⟩) (h : play S.world rs ([], a) = some (tr, b)) :
    Relation.ReflTransGen Unedited S
      ⟨tr.world S.world, S.threads.set i ⟨r, tr ++ tr₀, b⟩⟩ := by
  obtain ⟨hr, ha⟩ := reaches_of_play h .start trivial
  exact unedited_of_answered (Answered.alone ht hr ha)

/-- The same address in other letters. -/
def shoutedAccount : AdminAccount := ⟨"Root", "ROOT@example.com", "other"⟩

/-- The reactions until the address was looked up in vain. -/
def lookingReactions (first : Nat) : List (Bool × Reaction) :=
  (makingReactions first).take 88

/-- The traces and the ends of three runs. The first two look the same address up before either
makes the user, then both go on, and the third comes later. -/
def contending : Option (List (Trace × Action Report)) := do
  let (tr₁, a₁) ← smallSeeding emptyWorld "secret" (lookingReactions 1)
  let w₁ := tr₁.world emptyWorld
  let (tr₂, a₂) ← play w₁ (lookingReactions 200) ([], seed smallHasher (some shoutedAccount))
  let w₂ := tr₂.world w₁
  let (tr₁', b₁) ← play w₂ ((makingReactions 1).drop 88) ([], a₁)
  let w₃ := tr₁'.world w₂
  let (tr₂', b₂) ← play w₃ (((makingReactions 200).drop 88).take 4) ([], a₂)
  let (tr₃, b₃) ← smallSeeding (tr₂'.world w₃) "third" (findingReactions 400)
  return [(tr₁' ++ tr₁, b₁), (tr₂' ++ tr₂, b₂), (tr₃, b₃)]

/-- What a run has come to, if it is over and no call failed. -/
def result? (p : Trace × Action Report) : Option (Except Failure Report) :=
  match p.2 with
  | .done r => if p.1.all fun o => !o.how matches .fails _ then some r else none
  | _ => none

theorem of_result? {r : PasswordHasher × Option AdminAccount} {b : Action Report}
    {x : Except Failure Report} (hrules : r.2.elim [] AdminAccount.faults = [])
    (h : result? (tr, b) = some x) : b = .done x ∧ Done ⟨r, tr, b⟩ := by
  unfold result? at h
  split at h
  · rename_i r' hb
    split at h
    · rename_i hall
      cases h
      dsimp only at hb
      subst hb
      refine ⟨rfl, hrules, fun o ho e he => ?_, fun _ => rfl⟩
      have := List.all_eq_true.1 hall o ho
      simp [he] at this
    · cases h
  · cases h

theorem exists_of_contending {ends : List (Trace × Action Report)} (h : contending = some ends) :
    ∃ S : RunState workload, Relation.ReflTransGen Unedited ⟨emptyWorld, []⟩ S ∧
      S.threads = ends.zipWith (fun p a => ⟨(smallHasher, some a), p.1, p.2⟩)
        [smallAccount "secret", shoutedAccount, smallAccount "third"] := by
  unfold contending at h
  obtain ⟨⟨tr₁, a₁⟩, h₁, h⟩ := Option.bind_eq_some_iff.1 h
  obtain ⟨⟨tr₂, a₂⟩, h₂, h⟩ := Option.bind_eq_some_iff.1 h
  obtain ⟨⟨tr₁', b₁⟩, h₃, h⟩ := Option.bind_eq_some_iff.1 h
  obtain ⟨⟨tr₂', b₂⟩, h₄, h⟩ := Option.bind_eq_some_iff.1 h
  obtain ⟨⟨tr₃, b₃⟩, h₅, h⟩ := Option.bind_eq_some_iff.1 h
  cases h
  let r₁ : PasswordHasher × Option AdminAccount := (smallHasher, some (smallAccount "secret"))
  let r₂ : PasswordHasher × Option AdminAccount := (smallHasher, some shoutedAccount)
  let r₃ : PasswordHasher × Option AdminAccount := (smallHasher, some (smallAccount "third"))
  let S₀ : RunState workload := ⟨emptyWorld, []⟩
  have l₁ := unedited_of_played (S := S₀) (r := r₁) h₁
  have l₂ := l₁.trans (unedited_of_played (r := r₂) h₂)
  have l₃ := l₂.trans (unedited_of_played_on (i := 0) (r := r₁) rfl h₃)
  have l₄ := l₃.trans (unedited_of_played_on (i := 1) (r := r₂) rfl h₄)
  have l₅ := l₄.trans (unedited_of_played (r := r₃) h₅)
  exact ⟨_, l₅, rfl⟩

/-- What the runs come to if the first makes a user. -/
def contended (id : Uuid) : List (Option (Except Failure Report)) :=
  [some (.ok (reporting (some (.created id)))), some (.error (takenMeanwhile "ROOT@example.com")),
    some (.ok (reporting (some (.existing id))))]

theorem exists_threads_of_contending {id : Uuid}
    (h : contending.map (List.map result?) = some (contended id)) :
    ∃ (S : RunState workload) (t₁ t₂ t₃ : Thread workload),
      Relation.ReflTransGen Unedited ⟨emptyWorld, []⟩ S ∧ S.threads = [t₁, t₂, t₃] ∧
      (Done t₁ ∧ Done t₂ ∧ Done t₃) ∧ Reports t₁ (smallAccount "secret") (.created id) ∧
      t₂.rest = .done (.error (takenMeanwhile "ROOT@example.com")) ∧
      Reports t₃ (smallAccount "third") (.existing id) := by
  obtain ⟨ends, hc, hends⟩ := Option.map_eq_some_iff.1 h
  obtain ⟨S, hr, hthreads⟩ := exists_of_contending hc
  obtain ⟨⟨tr₁, b₁⟩, ends₁, rfl, h₁, hends⟩ := List.map_eq_cons_iff.1 hends
  obtain ⟨⟨tr₂, b₂⟩, ends₂, rfl, h₂, hends⟩ := List.map_eq_cons_iff.1 hends
  obtain ⟨⟨tr₃, b₃⟩, ends₃, rfl, h₃, hends⟩ := List.map_eq_cons_iff.1 hends
  obtain rfl := List.map_eq_nil_iff.1 hends
  obtain ⟨rfl, d₁⟩ := of_result? (r := (smallHasher, some (smallAccount "secret")))
    (by decide +kernel) h₁
  obtain ⟨rfl, d₂⟩ := of_result? (r := (smallHasher, some shoutedAccount)) (by decide +kernel) h₂
  obtain ⟨rfl, d₃⟩ := of_result? (r := (smallHasher, some (smallAccount "third")))
    (by decide +kernel) h₃
  exact ⟨S, _, _, _, hr, hthreads, ⟨d₁, d₂, d₃⟩, ⟨rfl, rfl⟩, rfl, ⟨rfl, rfl⟩⟩

/-- The second run was refused, the third found the user of the first, who is an administrator. -/
theorem small_seeding_contended :
    ∃ (S : RunState workload) (t₁ t₂ t₃ : Thread workload) (id : Uuid),
      Relation.ReflTransGen Unedited ⟨emptyWorld, []⟩ S ∧ S.threads = [t₁, t₂, t₃] ∧
      (Done t₁ ∧ Done t₂ ∧ Done t₃) ∧ Reports t₁ (smallAccount "secret") (.created id) ∧
      t₂.rest = .done (.error (takenMeanwhile "ROOT@example.com")) ∧
      Reports t₃ (smallAccount "third") (.existing id) ∧
      Administrates S.world.directory "root@example.com" id := by
  obtain ⟨id, h⟩ : ∃ id, contending.map (List.map result?) = some (contended id) :=
    ⟨.ofNat (102 <<< 116), by decide +kernel⟩
  obtain ⟨S, t₁, t₂, t₃, hr, hthreads, hdone, h₁, h₂, h₃⟩ := exists_threads_of_contending h
  have ht₁ : S.threads[0]? = some t₁ := by
    rw [hthreads]
    rfl
  obtain ⟨-, -, hover, -⟩ := concurrent_seeding_safe (w := emptyWorld) .empty ⟨.nil, .nil, .nil⟩
    (by simp [emptyWorld, Knows, Directory.empty]) hr
  obtain ⟨-, out, hout, hcomes⟩ := hover 0 t₁ ht₁ hdone.1
  refine ⟨S, t₁, t₂, t₃, id, hr, hthreads, hdone, h₁, h₂, h₃, ?_⟩
  rw [h₁.1] at hcomes
  rw [h₁.2] at hout
  cases hcomes with
  | secured h =>
    cases hout
    exact h
  | taken => cases hout

end Gatehouse.Seeding
