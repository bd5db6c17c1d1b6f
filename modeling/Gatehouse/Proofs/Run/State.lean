import Mathlib.Logic.Relation
import Gatehouse.Proofs.Run.Along
import Gatehouse.Proofs.Store.Memory

/-!
# Runs of many actions

A `RunState` is a world with the requests that were started in it. One `RunState.Step` starts a
request, answers one question of one of them, edits the directory, or lets time pass, so the
questions of different requests are answered in any order. A system is `Reachable` if such steps
lead to it from a world with an empty store.

Every observation was made in a step of the run (`Runs.observed`), every text of the store was
written by one (`Reachable.written`), and no identifier is drawn twice (`Reachable.drew_unique`).
-/

namespace Gatehouse

open Time (Instant)

/-- A change of the directory from outside. -/
inductive Directory.Edit where
  | insertUser (user : User)
  | insertRole (role : Role)
  | insertPermission (permission : Permission)
  | setActive (user : Uuid) (active : Bool)
  | assign (user role : Uuid)
  | grant (role permission : Uuid)
  | revoke (role permission : Uuid)

/-- The directory after a change; one that fails changes nothing. -/
def Directory.edit (d : Directory) : Edit → Directory
  | .insertUser user => d.insertUser user
  | .insertRole role => d.insertRole role
  | .insertPermission permission => d.insertPermission permission
  | .setActive user active => (d.keep (d.setActive user active)).2
  | .assign user role => (d.keep (d.assign user role)).2
  | .grant role permission => (d.keep (d.grant role permission)).2
  | .revoke role permission => d.revoke role permission

/-- What may be requested, and the action of each request. -/
structure Workload where
  Request : Type
  Result : Request → Type
  action : (r : Request) → Action (Result r)

/-- A request that was started. -/
structure Thread (W : Workload) where
  request : W.Request
  trace : Trace
  rest : Action (W.Result request)

/-- A world with the requests that were started in it, in the order of their start. -/
structure RunState (W : Workload) where
  world : World
  threads : List (Thread W)

namespace RunState

variable {W : Workload}

/-- One step of a run. -/
inductive Step : RunState W → RunState W → Prop where
  | start (S : RunState W) (r : W.Request) :
      Step S { S with threads := S.threads ++ [⟨r, [], W.action r⟩] }
  | answer {S : RunState W} {i : Nat} {r : W.Request} {tr : Trace} {a : Action (W.Result r)}
      {second : Bool} {q : Question} {next : q.Answer → Action (W.Result r)}
      {x : q.Answer} {how : Reaction} {w : World} (ht : S.threads[i]? = some ⟨r, tr, a⟩)
      (ho : a.offer? second = some ⟨q, next⟩) (hw : S.world.answer? how q = some (x, w)) :
      Step S ⟨w, S.threads.set i ⟨r, ⟨S.world, q, how, x, w⟩ :: tr, next x⟩⟩
  | edit (S : RunState W) (e : Directory.Edit) :
      Step S { S with world := { S.world with directory := S.world.directory.edit e } }
  | tick (S : RunState W) (nanos : Nat) :
      Step S { S with world := { S.world with moment := S.world.moment + nanos } }

/-- Any number of steps. -/
abbrev Runs : RunState W → RunState W → Prop := Relation.ReflTransGen Step

/-- Whether steps lead to a system from a world with an empty store and without requests. -/
def Reachable (S : RunState W) : Prop :=
  ∃ w : World, w.store = .empty ∧ Runs ⟨w, []⟩ S

theorem Reachable.runs {S S' : RunState W} (h : S.Reachable) (hr : Runs S S') : S'.Reachable := by
  obtain ⟨w, hw, h⟩ := h
  exact ⟨w, hw, h.trans hr⟩

/-! ## One step -/

/-- A step in which a request makes an observation. -/
structure Observed (S S' : RunState W) (i : Nat) (older : Trace) (o : Observation) : Prop where
  before : S.world = o.before
  after : S'.world = o.after
  truthful : o.Truthful
  thread : ∃ r a second, ∃ next : o.question.Answer → Action (W.Result r),
    S.threads[i]? = some ⟨r, older, a⟩ ∧ a.offer? second = some ⟨o.question, next⟩ ∧
      S'.threads[i]? = some ⟨r, o :: older, next o.answer⟩
  others : ∀ j, j ≠ i → S'.threads[j]? = S.threads[j]?

/-- A step in which no request makes an observation. -/
structure Quiet (S S' : RunState W) : Prop where
  store : S'.world.store = S.world.store
  drawn : S'.world.drawn = S.world.drawn
  kept : ∀ (i : Nat) (t : Thread W), S.threads[i]? = some t → S'.threads[i]? = some t
  new : ∀ (i : Nat) (t : Thread W), S'.threads[i]? = some t →
    S.threads[i]? = some t ∨ S.threads[i]? = none ∧ ∃ r, t = ⟨r, [], W.action r⟩

variable {S S' S₀ : RunState W} {i j : Nat} {t : Thread W} {older : Trace} {o : Observation}

theorem observed_of_answer {r : W.Request} {tr : Trace} {a : Action (W.Result r)} {second : Bool}
    {q : Question} {next : q.Answer → Action (W.Result r)} {x : q.Answer} {how : Reaction}
    {w : World} (ht : S.threads[i]? = some ⟨r, tr, a⟩) (ho : a.offer? second = some ⟨q, next⟩)
    (hw : S.world.answer? how q = some (x, w)) :
    Observed S ⟨w, S.threads.set i ⟨r, ⟨S.world, q, how, x, w⟩ :: tr, next x⟩⟩ i tr
      ⟨S.world, q, how, x, w⟩ := by
  have hi := (List.getElem?_eq_some_iff.1 ht).1
  refine ⟨rfl, rfl, hw, ⟨r, a, second, next, ht, ho, List.getElem?_set_self hi⟩, fun j hj => ?_⟩
  exact List.getElem?_set_ne hj.symm

theorem quiet_start (S : RunState W) (r : W.Request) :
    Quiet S { S with threads := S.threads ++ [⟨r, [], W.action r⟩] } := by
  refine ⟨rfl, rfl, fun i t ht => ?_, fun i t ht => ?_⟩
  · rw [List.getElem?_append_left (List.getElem?_eq_some_iff.1 ht).1, ht]
  · rw [List.getElem?_append] at ht
    split at ht
    · exact .inl ht
    · refine .inr ⟨List.getElem?_eq_none (by omega), r, ?_⟩
      exact List.mem_singleton.1 (List.mem_of_getElem? ht)

/-- What a step does. -/
theorem Step.cases (h : Step S S') : (∃ i older o, Observed S S' i older o) ∨ Quiet S S' := by
  cases h with
  | start r => exact .inr (quiet_start S r)
  | @answer i r tr a second q next x how w ht ho hw =>
    exact .inl ⟨i, tr, ⟨S.world, q, how, x, w⟩, observed_of_answer ht ho hw⟩
  | edit e => exact .inr ⟨rfl, rfl, fun i t ht => ht, fun i t ht => .inl ht⟩
  | tick n => exact .inr ⟨rfl, rfl, fun i t ht => ht, fun i t ht => .inl ht⟩

/-- What has become of a request after a step. -/
theorem Step.thread (h : Step S S') (ht : S.threads[i]? = some t) :
    ∃ t', S'.threads[i]? = some t' ∧ t'.request = t.request ∧ t.trace <:+ t'.trace := by
  obtain ⟨j, older, o, ho⟩ | hq := h.cases
  · by_cases hij : i = j
    · obtain ⟨r, a, second, next, h₁, -, h₂⟩ := ho.thread
      subst hij
      cases ht.symm.trans h₁
      exact ⟨_, h₂, rfl, List.suffix_cons _ _⟩
    · exact ⟨t, (ho.others i hij).trans ht, rfl, List.suffix_refl _⟩
  · exact ⟨t, hq.kept i t ht, rfl, List.suffix_refl _⟩

/-- A request that is over stays as it is. -/
theorem Step.over (h : Step S S') (ht : S.threads[i]? = some t)
    (hd : ∀ second, t.rest.offer? second = none) : S'.threads[i]? = some t := by
  obtain ⟨j, older, o, ho⟩ | hq := h.cases
  · by_cases hij : i = j
    · obtain ⟨r, a, second, next, h₁, hn, -⟩ := ho.thread
      subst hij
      cases ht.symm.trans h₁
      exact absurd hn (by simp [hd second])
    · exact (ho.others i hij).trans ht
  · exact hq.kept i t ht

/-- An observation that is there after a step was there before, or was made in it. -/
theorem Step.observed (h : Step S S') (ht : S'.threads[i]? = some t) (hs : o :: older <:+ t.trace) :
    (∃ t₀, S.threads[i]? = some t₀ ∧ o :: older <:+ t₀.trace) ∨ Observed S S' i older o := by
  obtain ⟨j, older', o', ho⟩ | hq := h.cases
  · by_cases hij : i = j
    · obtain ⟨r, a, second, next, h₁, -, h₂⟩ := ho.thread
      subst hij
      cases ht.symm.trans h₂
      rcases List.suffix_cons_iff.1 hs with he | hs
      · cases he
        exact .inr ho
      · exact .inl ⟨_, h₁, hs⟩
    · exact .inl ⟨t, (ho.others i hij).symm.trans ht, hs⟩
  · obtain ht | ⟨-, r, rfl⟩ := hq.new i t ht
    · exact .inl ⟨t, ht, hs⟩
    · exact absurd (List.eq_nil_of_suffix_nil hs) (by simp)

/-- A text that is there after a step was there before, or was written in it. -/
theorem Step.written (h : Step S S') {e : Store.Entry} (he : e ∈ S'.world.store.entries) :
    e ∈ S.world.store.entries ∨ ∃ i older o ttl, Observed S S' i older o ∧
      o.question = .store (.set e.key e.value ttl) ∧ e.deadline = o.before.moment + ttl.nanos := by
  obtain ⟨j, older, o, ho⟩ | hq := h.cases
  · rw [ho.after] at he
    rw [ho.before]
    obtain hst | ⟨call, hq, hst⟩ := ho.truthful.store_eq
    · exact .inl (hst ▸ he)
    · rw [hst] at he
      obtain he | ⟨ttl, rfl, hd⟩ := Store.Memory.mem_answer he
      · exact .inl he
      · exact .inr ⟨j, older, o, ttl, ho, hq, hd⟩
  · exact .inl (hq.store ▸ he)

/-- Time does not go back. -/
theorem Step.moment_le (h : Step S S') : S.world.moment ≤ S'.world.moment := by
  cases h with
  | start r => exact Nat.le_refl _
  | answer ht ho hw =>
    exact Nat.le_of_eq (observed_of_answer ht ho hw).truthful.moment_eq.symm
  | edit e => exact Nat.le_refl _
  | tick nanos => exact Nat.le_add_right _ _

theorem Step.drawn_subset (h : Step S S') : S.world.drawn ⊆ S'.world.drawn := by
  obtain ⟨j, older, o, ho⟩ | hq := h.cases
  · rw [ho.before, ho.after]
    exact ho.truthful.drawn_subset
  · rw [hq.drawn]
    exact List.Subset.refl _

/-! ## Whole runs -/

theorem Runs.thread (h : Runs S S') (ht : S.threads[i]? = some t) :
    ∃ t', S'.threads[i]? = some t' ∧ t'.request = t.request ∧ t.trace <:+ t'.trace := by
  induction h with
  | refl => exact ⟨t, ht, rfl, List.suffix_refl _⟩
  | tail _ hs ih =>
    obtain ⟨t₁, ht₁, hr₁, h₁⟩ := ih
    obtain ⟨t₂, ht₂, hr₂, h₂⟩ := hs.thread ht₁
    exact ⟨t₂, ht₂, hr₂.trans hr₁, h₁.trans h₂⟩

theorem Runs.over (h : Runs S S') (ht : S.threads[i]? = some t)
    (hd : ∀ second, t.rest.offer? second = none) : S'.threads[i]? = some t := by
  induction h with
  | refl => exact ht
  | tail _ hs ih => exact hs.over ih hd

/-- Every observation was there at the start of a run, or was made in one of its steps. -/
theorem Runs.observed (h : Runs S₀ S) (ht : S.threads[i]? = some t) (hs : o :: older <:+ t.trace) :
    (∃ t₀, S₀.threads[i]? = some t₀ ∧ o :: older <:+ t₀.trace) ∨
      ∃ S₁ S₂, Runs S₀ S₁ ∧ Step S₁ S₂ ∧ Observed S₁ S₂ i older o ∧ Runs S₂ S := by
  induction h generalizing t with
  | refl => exact .inl ⟨t, ht, hs⟩
  | @tail S₁ S₂ hr hst ih =>
    obtain ⟨t₁, ht₁, hs₁⟩ | ho := hst.observed ht hs
    · obtain h₀ | ⟨T₁, T₂, h₁, hT, ho, h₂⟩ := ih ht₁ hs₁
      · exact .inl h₀
      · exact .inr ⟨T₁, T₂, h₁, hT, ho, h₂.tail hst⟩
    · exact .inr ⟨S₁, S₂, hr, hst, ho, .refl⟩

/-- What a request observes that was started in a run, it observes in the run. -/
theorem Runs.observed_of_new (h : Runs S₀ S) (hi : S₀.threads.length ≤ i)
    (ht : S.threads[i]? = some t) (hs : o :: older <:+ t.trace) :
    ∃ S₁ S₂, Runs S₀ S₁ ∧ Runs S₁ S ∧ Observed S₁ S₂ i older o := by
  obtain ⟨t₀, ht₀, -⟩ | ⟨S₁, S₂, h₁, hst, ho, h₂⟩ := h.observed ht hs
  · rw [List.getElem?_eq_none hi] at ht₀
    cases ht₀
  · exact ⟨S₁, S₂, h₁, .head hst h₂, ho⟩

theorem Runs.moment_le (h : Runs S S') : S.world.moment ≤ S'.world.moment := by
  induction h with
  | refl => exact Nat.le_refl _
  | tail _ hs ih => exact Nat.le_trans ih hs.moment_le

theorem Runs.drawn_subset (h : Runs S S') : S.world.drawn ⊆ S'.world.drawn := by
  induction h with
  | refl => exact List.Subset.refl _
  | tail _ hs ih => exact List.Subset.trans ih hs.drawn_subset

/-! ## Runs from the start -/

section

variable {w : World}

/-- A request is what its action comes to by what it has observed. -/
theorem Runs.reaches (h : Runs ⟨w, []⟩ S) (ht : S.threads[i]? = some t) :
    (W.action t.request).Reaches t.trace t.rest := by
  induction h generalizing i t with
  | refl => simp at ht
  | tail _ hs ih =>
    obtain ⟨j, older, o, ho⟩ | hq := hs.cases
    · by_cases hij : i = j
      · obtain ⟨r, a, second, next, h₁, hn, h₂⟩ := ho.thread
        subst hij
        cases ht.symm.trans h₂
        exact .step (ih h₁) hn o.before o.how o.answer o.after
      · exact ih ((ho.others i hij).symm.trans ht)
    · obtain ht | ⟨-, r, rfl⟩ := hq.new i t ht
      · exact ih ht
      · exact .start

theorem Observed.draws (h : Observed S S' i older o) {t' : Thread W}
    (ht' : S'.threads[i]? = some t') {id : Uuid} {old : Trace} (hd : t'.trace.Draws id old) :
    (∃ t, S.threads[i]? = some t ∧ t.trace.Draws id old) ∨ old = older ∧ id ∉ S.world.drawn := by
  obtain ⟨r, a, second, next, h₁, -, h₂⟩ := h.thread
  cases h₂.symm.trans ht'
  obtain ⟨o', ho', hs⟩ := hd
  rcases List.suffix_cons_iff.1 hs with he | hs
  · cases he
    obtain ⟨b, how, c, rfl⟩ := ho'
    exact .inr ⟨rfl, by rw [h.before]; exact h.truthful.freshId.1⟩
  · exact .inl ⟨_, h₁, o', ho', hs⟩

/-- An identifier that was drawn is in use. -/
theorem Runs.mem_drawn (h : Runs ⟨w, []⟩ S) (ht : S.threads[i]? = some t) {id : Uuid}
    (hd : t.trace.Draws id older) : id ∈ S.world.drawn := by
  obtain ⟨_, ⟨b, how, a, rfl⟩, hs⟩ := hd
  obtain ⟨t₀, ht₀, -⟩ | ⟨S₁, S₂, -, -, ho, hr⟩ := h.observed ht hs
  · simp at ht₀
  refine hr.drawn_subset ?_
  obtain ⟨-, -, ha⟩ := ho.truthful.freshId
  rw [ho.after, ha]
  exact List.mem_cons_self

/-- No identifier is drawn twice. -/
theorem Runs.drew_unique (h : Runs ⟨w, []⟩ S) {u : Thread W} (ht : S.threads[i]? = some t)
    (hu : S.threads[j]? = some u) {id : Uuid} {older' : Trace} (hd : t.trace.Draws id older)
    (hd' : u.trace.Draws id older') : i = j ∧ older = older' := by
  induction h generalizing i j t u older older' with
  | refl => simp at ht
  | @tail S S' hr hs ih =>
    obtain ⟨k, old, o, ho⟩ | hq := hs.cases
    · -- a draw was there before the step, or was made in it of an identifier not in use
      have split : ∀ {i : Nat} {t : Thread W} {older : Trace}, S'.threads[i]? = some t →
          t.trace.Draws id older → (∃ t, S.threads[i]? = some t ∧ t.trace.Draws id older) ∨
            i = k ∧ older = old ∧ id ∉ S.world.drawn := by
        intro i t older ht hd
        by_cases hik : i = k
        · subst hik
          obtain h₀ | ⟨he, hid⟩ := ho.draws ht hd
          · exact .inl h₀
          · exact .inr ⟨rfl, he, hid⟩
        · exact .inl ⟨t, (ho.others i hik).symm.trans ht, hd⟩
      obtain ⟨t₁, ht₁, hd₁⟩ | ⟨hi, ho₁, hid⟩ := split ht hd
      · obtain ⟨u₁, hu₁, hd₁'⟩ | ⟨-, -, hid⟩ := split hu hd'
        · exact ih ht₁ hu₁ hd₁ hd₁'
        · exact absurd (Runs.mem_drawn hr ht₁ hd₁) hid
      · obtain ⟨u₁, hu₁, hd₁'⟩ | ⟨hj, ho₂, -⟩ := split hu hd'
        · exact absurd (Runs.mem_drawn hr hu₁ hd₁') hid
        · exact ⟨hi.trans hj.symm, ho₁.trans ho₂.symm⟩
    · have was : ∀ {i : Nat} {t : Thread W} {older : Trace}, S'.threads[i]? = some t →
          t.trace.Draws id older → S.threads[i]? = some t := by
        intro i t older ht hd
        obtain ht | ⟨-, r, rfl⟩ := hq.new i t ht
        · exact ht
        · obtain ⟨o, -, hs⟩ := hd
          exact absurd (List.eq_nil_of_suffix_nil hs) (by simp)
      exact ih (was ht hd) (was hu hd') hd hd'

end

/-! ## Reachable systems -/

/-- A request is what its action comes to by what it has observed. -/
theorem Reachable.reaches (h : S.Reachable) (ht : S.threads[i]? = some t) :
    (W.action t.request).Reaches t.trace t.rest := by
  obtain ⟨w, -, hr⟩ := h
  exact hr.reaches ht

/-- Every observation was made in a step between reachable systems. -/
theorem Reachable.observed (h : S.Reachable) (ht : S.threads[i]? = some t)
    (hs : o :: older <:+ t.trace) :
    ∃ S₁ S₂, S₁.Reachable ∧ Step S₁ S₂ ∧ Observed S₁ S₂ i older o ∧ Runs S₂ S := by
  obtain ⟨w, hw, hr⟩ := h
  obtain ⟨t₀, ht₀, -⟩ | ⟨S₁, S₂, h₁, hst, ho, h₂⟩ := hr.observed ht hs
  · simp at ht₀
  · exact ⟨S₁, S₂, ⟨w, hw, h₁⟩, hst, ho, h₂⟩

/-- What a request observed earlier, it observed at no later moment. -/
theorem Reachable.moment_le (h : S.Reachable) (ht : S.threads[i]? = some t)
    (hs : o :: older <:+ t.trace) {o' : Observation} (ho' : o' ∈ older) :
    o'.before.moment ≤ o.before.moment := by
  obtain ⟨S₁, S₂, h₁, -, hobs, -⟩ := h.observed ht hs
  obtain ⟨r, a, second, next, ht₁, -, -⟩ := hobs.thread
  obtain ⟨newer, older', rfl⟩ := List.append_of_mem ho'
  obtain ⟨T₁, T₂, -, hst, hobs', hr⟩ := h₁.observed ht₁ (List.suffix_append newer _)
  have hle := Runs.moment_le (.head hst hr)
  rwa [hobs'.before, hobs.before] at hle

/-- Every text of the store was written by a request. -/
theorem Reachable.written (h : S.Reachable) {e : Store.Entry} (he : e ∈ S.world.store.entries) :
    ∃ (i : Nat) (t : Thread W) (older : Trace) (o : Observation) (ttl : Time.Duration),
      S.threads[i]? = some t ∧ o :: older <:+ t.trace ∧
      o.question = .store (.set e.key e.value ttl) ∧ e.deadline = o.before.moment + ttl.nanos := by
  obtain ⟨w, hw, hr⟩ := h
  induction hr with
  | refl =>
    rw [show w.store.entries = [] by rw [hw]; rfl] at he
    cases he
  | @tail S S' hr hs ih =>
    obtain he | ⟨j, older, o, ttl, ho, hq, hd⟩ := hs.written he
    · obtain ⟨i, t, older, o, ttl, ht, ho, hq, hd⟩ := ih he
      obtain ⟨t', ht', -, hs'⟩ := hs.thread ht
      exact ⟨i, t', older, o, ttl, ht', ho.trans hs', hq, hd⟩
    · obtain ⟨r, a, second, next, -, -, ht'⟩ := ho.thread
      exact ⟨j, _, older, o, ttl, ht', List.suffix_refl _, hq, hd⟩

/-- An identifier that was drawn is in use. -/
theorem Reachable.mem_drawn (h : S.Reachable) (ht : S.threads[i]? = some t) {id : Uuid}
    (hd : t.trace.Draws id older) : id ∈ S.world.drawn := by
  obtain ⟨w, -, hr⟩ := h
  exact hr.mem_drawn ht hd

/-- No identifier is drawn twice. -/
theorem Reachable.drew_unique (h : S.Reachable) {u : Thread W} (ht : S.threads[i]? = some t)
    (hu : S.threads[j]? = some u) {id : Uuid} {older' : Trace} (hd : t.trace.Draws id older)
    (hd' : u.trace.Draws id older') : i = j ∧ older = older' := by
  obtain ⟨w, -, hr⟩ := h
  exact hr.drew_unique ht hu hd hd'

end RunState

end Gatehouse
