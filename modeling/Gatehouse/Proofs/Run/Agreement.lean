import Mathlib.Data.List.Forall2
import Gatehouse.Proofs.Run.Alone

/-!
# Two runs of one action

Two runs are compared that take the questions in the same order (`Action.ReachesBy`) and are
answered alike wherever they ask the same (`Trace.Alike`); which answers are alike is up to a
`Likeness`. `Action.Agree` says by induction on two actions that they ask the same and end alike
under all answers that are alike, with a rule for each way to build an action (`agree_bind`,
`agree_attempt`). `Agree.runs` carries it to runs, so that an action that agrees with itself is
`Indistinct`: its runs ask the same questions to the last, change the store alike, and end alike.
-/

namespace Gatehouse

/-- Which two answers to a question are alike, and which answers show a fault. -/
structure Likeness where
  alike : (q : Question) → q.Answer → q.Answer → Prop
  faulty : (q : Question) → q.Answer → Prop

/-! ## Observations -/

/-- Whether a call took effect. -/
def Observation.Carried (o : Observation) : Prop := o.how = .works ∨ ∃ e, o.how = .unseen e

/-- Whether two observations are made at the same moment and, if they are of the same question, are
answered alike; calls that write take effect alike. -/
structure Observation.Alike (L : Likeness) (o o' : Observation) : Prop where
  moment : o.before.moment = o'.before.moment
  answer : ∀ x, o'.Saw o.question x → L.alike o.question o.answer x
  carried : o.question = o'.question → o.question.Writes → (o.Carried ↔ o'.Carried)

/-- Whether two observations are of the same question and change the store alike. -/
def Observation.Same (o o' : Observation) : Prop :=
  o.question = o'.question ∧ ∀ key, o.leaves key = o'.leaves key

namespace Observation

variable {L : Likeness} {o o' : Observation}

theorem leaves_of_carried (h : o.Carried) (key : String) :
    o.leaves key = match o.question with
      | .store call => Store.Memory.leaves o.before.moment key call
      | _ => none := by
  obtain ⟨b, q, how, x, a⟩ := o
  obtain rfl | ⟨e, rfl⟩ : how = .works ∨ ∃ e, how = .unseen e := h
  · cases q <;> rfl
  · cases q <;> rfl

theorem leaves_of_not_carried (h : ¬o.Carried) (key : String) : o.leaves key = none := by
  obtain ⟨b, q, how, x, a⟩ := o
  cases how with
  | works => exact absurd (.inl rfl) h
  | unseen e => exact absurd (.inr ⟨e, rfl⟩) h
  | _ => cases q <;> rfl

theorem Alike.same (h : o.Alike L o') (hq : o.question = o'.question) : o.Same o' := by
  refine ⟨hq, fun key => ?_⟩
  by_cases hw : o.question.Writes
  · have hc := h.carried hq hw
    by_cases ho : o.Carried
    · rw [leaves_of_carried ho, leaves_of_carried (hc.1 ho), hq, h.moment]
    · rw [leaves_of_not_carried ho, leaves_of_not_carried fun ho' => ho (hc.2 ho')]
  · rw [leaves_of_not_writes hw, leaves_of_not_writes (hq ▸ hw)]

end Observation

namespace Trace

variable {w w' : World} {tr tr' : Trace} {key : String}

/-- Whether two traces are answered alike wherever they are of the same questions. -/
def Alike (L : Likeness) : Trace → Trace → Prop := List.Forall₂ (Observation.Alike L)

/-- Whether two traces are of the same questions and change the store alike. -/
def Same : Trace → Trace → Prop := List.Forall₂ Observation.Same

theorem Same.live?_eq (h : tr.Same tr') (ha : tr.Alone w) (ha' : tr'.Alone w')
    (hk : w.store.live? w.moment key = w'.store.live? w'.moment key) :
    tr.live? w key = tr'.live? w' key := by
  induction h with
  | nil => exact hk
  | @cons o o' tr tr' ho _ ih =>
    rw [live?_cons ha, live?_cons ha', ho.2 key, ih ha.2 ha'.2]

end Trace

namespace Action

variable {α β : Type} {L : Likeness}

/-- What an action comes to, with the order in which the questions were taken: whether, of two at
the same time, the second one came next. -/
inductive ReachesBy (a : Action α) : List Bool → Trace → Action α → Prop where
  | start : ReachesBy a [] [] a
  | step {order : List Bool} {tr : Trace} {b : Action α} {second : Bool} {q : Question}
      {next : q.Answer → Action α} (h : ReachesBy a order tr b)
      (ho : b.offer? second = some ⟨q, next⟩) (before : World) (how : Reaction) (x : q.Answer)
      (after : World) :
      ReachesBy a (second :: order) (⟨before, q, how, x, after⟩ :: tr) (next x)

theorem ReachesBy.step_ask {a : Action α} {order : List Bool} {tr : Trace} {q : Question}
    {next : q.Answer → Action α} (h : a.ReachesBy order tr (.ask q next)) (before : World)
    (how : Reaction) (x : q.Answer) (after : World) :
    a.ReachesBy (false :: order) (⟨before, q, how, x, after⟩ :: tr) (next x) :=
  @ReachesBy.step _ _ _ _ _ false _ _ h rfl before how x after

theorem reaches_iff_exists_order {a b : Action α} {tr : Trace} :
    a.Reaches tr b ↔ ∃ order, a.ReachesBy order tr b := by
  constructor
  · intro h
    induction h with
    | start => exact ⟨[], .start⟩
    | step _ ho before how x after ih =>
      obtain ⟨order, h⟩ := ih
      exact ⟨_, h.step ho before how x after⟩
  · rintro ⟨order, h⟩
    induction h with
    | start => exact .start
    | step _ ho before how x after ih => exact ih.step ho before how x after

/-- Whether two actions ask the same and end in the same way, as said, under all answers that are
alike; what is said of the end may depend on whether a fault was seen. -/
inductive Agree (L : Likeness) (ends : Prop → Outcome α → Prop) :
    Prop → Action α → Action α → Prop where
  | done {seen : Prop} {r : Except Failure α} (h : ends seen (.finished r)) :
      Agree L ends seen (done r) (done r)
  | crash {seen : Prop} (h : ends seen .crashed) : Agree L ends seen crash crash
  | ask {seen : Prop} {q : Question} {next next' : q.Answer → Action α}
      (h : ∀ x x', L.alike q x x' → Agree L ends (seen ∨ L.faulty q x) (next x) (next' x')) :
      Agree L ends seen (ask q next) (ask q next')
  | both {seen : Prop} {q r : Question} {next next' : q.Answer → r.Answer → Action α}
      (h : ∀ x x' y y', L.alike q x x' → L.alike r y y' →
        Agree L ends (seen ∨ L.faulty q x ∨ L.faulty r y) (next x y) (next' x' y')) :
      Agree L ends seen (both q r next) (both q r next')

variable {ends : Prop → Outcome α → Prop} {seen : Prop} {a a' b b' : Action α}

/-! ## Rules -/

theorem Agree.mono {ends' : Prop → Outcome α → Prop} (h : Agree L ends seen a a')
    (he : ∀ seen out, ends seen out → ends' seen out) : Agree L ends' seen a a' := by
  induction h with
  | done h => exact .done (he _ _ h)
  | crash h => exact .crash (he _ _ h)
  | ask _ ih => exact .ask ih
  | both _ ih => exact .both ih

/-- A change of actions that only concerns their ends. -/
theorem agree_change {F : Action α → Action β} {ends' : Prop → Outcome β → Prop}
    (hask : ∀ q next, F (.ask q next) = .ask q fun x => F (next x))
    (hboth : ∀ q r next, F (.both q r next) = .both q r fun x y => F (next x y))
    (hends : ∀ seen out, ends seen out → Agree L ends' seen (F out.action) (F out.action))
    (h : Agree L ends seen a a') : Agree L ends' seen (F a) (F a') := by
  induction h with
  | done h => exact hends _ (.finished _) h
  | crash h => exact hends _ .crashed h
  | ask _ ih =>
    rw [hask, hask]
    exact .ask ih
  | both _ ih =>
    rw [hboth, hboth]
    exact .both ih

/-- The end of an action after which another one starts. -/
def Resumes (L : Likeness) (f : α → Action β) (ends : Prop → Outcome β → Prop) (seen : Prop) :
    Outcome α → Prop
  | .finished (.ok x) => Agree L ends seen (f x) (f x)
  | .finished (.error e) => ends seen (.finished (.error e))
  | .crashed => ends seen .crashed

theorem agree_bind {f : α → Action β} {ends : Prop → Outcome β → Prop}
    (h : Agree L (Resumes L f ends) seen a a') : Agree L ends seen (a >>= f) (a' >>= f) := by
  refine agree_change (F := (· >>= f)) (fun _ _ => rfl) (fun _ _ _ => rfl) (fun seen out h => ?_) h
  rcases out with (e | x) | _
  · exact .done h
  · exact h
  · exact .crash h

theorem agree_attempt {ends : Prop → Outcome (Except Failure α) → Prop}
    (h : Agree L (fun seen out => ends seen out.attempt) seen a a') :
    Agree L ends seen a.attempt a'.attempt := by
  refine agree_change (F := Action.attempt) (fun _ _ => rfl) (fun _ _ _ => rfl)
    (fun seen out h => ?_) h
  cases out with
  | finished r => exact .done h
  | crashed => exact .crash h

/-! ## Soundness -/

theorem Agree.step (h : Agree L ends seen b b') {second : Bool} {q : Question}
    {next : q.Answer → Action α} (ho : b.offer? second = some ⟨q, next⟩) :
    ∃ next', b'.offer? second = some ⟨q, next'⟩ ∧ ∀ x x', L.alike q x x' →
      Agree L ends (seen ∨ L.faulty q x) (next x) (next' x') := by
  cases h with
  | done h => cases ho
  | crash h => cases ho
  | ask h =>
    cases ho
    exact ⟨_, rfl, h⟩
  | both h =>
    -- the one that is not taken is still to be asked, and whether a fault was seen does not depend
    -- on which came first
    cases second with
    | false =>
      cases ho
      refine ⟨_, rfl, fun x x' hx => .ask fun y y' hy => ?_⟩
      rw [or_assoc]
      exact h x x' y y' hx hy
    | true =>
      cases ho
      refine ⟨_, rfl, fun y y' hy => .ask fun x x' hx => ?_⟩
      rw [or_assoc, or_comm (a := L.faulty _ y)]
      exact h x x' y y' hx hy

/-- Two actions that agree ask the same questions in two runs that are answered alike, and what they
come to agrees. -/
theorem Agree.runs {order : List Bool} {tr tr' : Trace} (h : Agree L ends False a a')
    (hr : a.ReachesBy order tr b) (hr' : a'.ReachesBy order tr' b') (hm : tr.Alike L tr') :
    tr.Same tr' ∧ Agree L ends (∃ o ∈ tr, L.faulty o.question o.answer) b b' := by
  induction hr generalizing tr' b' with
  | start =>
    cases hr'
    refine ⟨.nil, ?_⟩
    simpa using h
  | @step order tr b second q next hr ho before how x after ih =>
    cases hr' with
    | @step _ tr' b' _ q' next' hr' ho' before' how' x' after' =>
      cases hm with
      | cons ho₁ hm =>
        obtain ⟨hsame, hagree⟩ := ih hr' hm
        -- both runs take the same of two questions, so the next one is the same
        obtain ⟨_, hn, hnext⟩ := hagree.step ho
        cases ho'.symm.trans hn
        refine ⟨.cons (ho₁.same rfl) hsame, ?_⟩
        have hx := hnext x x' (ho₁.answer x' ⟨before', how', after', rfl⟩)
        simpa [or_comm] using hx

/-- An action that agrees with one that is over is over in the same way. -/
theorem Agree.eq_of_over (out : Outcome α) (h : Agree L ends seen out.action b) :
    b = out.action ∧ ends seen out := by
  cases out with
  | finished r =>
    cases h with
    | done h => exact ⟨rfl, h⟩
  | crashed =>
    cases h with
    | crash h => exact ⟨rfl, h⟩

theorem Agree.over_iff {out : Outcome α} (h : Agree L ends seen b b') :
    b = out.action ↔ b' = out.action := by
  cases h with
  | done h => exact Iff.rfl
  | crash h => exact Iff.rfl
  | ask h => cases out <;> constructor <;> nofun
  | both h => cases out <;> constructor <;> nofun

/-- Whether two runs of an action that are answered alike cannot be told apart. At any time they
have asked the same and changed the store alike, so that alone in two worlds they leave the same
under a key that both worlds had the same under; and one is over when the other is, with the same
outcome. -/
def Indistinct (L : Likeness) (a : Action α) : Prop :=
  ∀ order tr tr' b b', a.ReachesBy order tr b → a.ReachesBy order tr' b' → tr.Alike L tr' →
    tr.Same tr' ∧
    (∀ w w' key, tr.Alone w → tr'.Alone w' →
      w.store.live? w.moment key = w'.store.live? w'.moment key →
      tr.live? w key = tr'.live? w' key) ∧
    ∀ out : Outcome α, b = out.action ↔ b' = out.action

theorem Agree.indistinct (h : Agree L ends False a a) : Indistinct L a := by
  intro order tr tr' b b' hr hr' hm
  obtain ⟨hsame, hagree⟩ := h.runs hr hr' hm
  exact ⟨hsame, fun w w' key ha ha' hk => hsame.live?_eq ha ha' hk, fun out => hagree.over_iff⟩

end Action

end Gatehouse
