import Gatehouse.Proofs.Run.World

/-!
# What holds along an action

`Action.Reaches a tr b`: after the observations `tr` the action `a` has come to `b`. `Action.Along`
is the weakest condition under which an action asks only what its `Terms` guarantee, and ends as
said, as long as the observations are ones that the terms rely on; it is computed by recursion on
the action, with one rule for each way to build one (`along_bind`, `along_mapFailure`,
`along_attempt`). `Action.Reaches.along` carries it to everything an action can come to.
`Action.Within` bounds the answers that an action takes.
-/

namespace Gatehouse

namespace Action

variable {α β : Type}

/-! ## Steps -/

/-- A question that an action asks now, with what follows. Of two questions at the same time the
second is meant if `second` is set; the other one is asked next. -/
def offer? (second : Bool) : Action α → Option (Σ q : Question, q.Answer → Action α)
  | done _ | crash => none
  | ask q next => some ⟨q, next⟩
  | both q r next =>
    if second then some ⟨r, fun y => ask q fun x => next x y⟩
    else some ⟨q, fun x => ask r (next x)⟩

/-- What an action comes to after some observations. -/
inductive Reaches (a : Action α) : Trace → Action α → Prop where
  | start : Reaches a [] a
  | step {tr : Trace} {b : Action α} {second : Bool} {q : Question} {next : q.Answer → Action α}
      (h : Reaches a tr b) (ho : b.offer? second = some ⟨q, next⟩) (before : World)
      (how : Reaction) (x : q.Answer) (after : World) :
      Reaches a (⟨before, q, how, x, after⟩ :: tr) (next x)

/-! ## Terms -/

/-- What an action may observe and what it may ask, both depending on what it observed before. -/
structure Terms where
  rely : Trace → Observation → Prop
  guarantee : Trace → Question → Prop

/-- Whether the newer observations may be made after the older ones. -/
def Terms.Relies (T : Terms) (older : Trace) : Trace → Prop
  | [] => True
  | o :: newer => T.rely (newer ++ older) o ∧ T.Relies older newer

/-- Whatever an action observes from now on, it keeps to its terms and ends as said. -/
def Along (T : Terms) (ends : Trace → Outcome α → Prop) : Action α → Trace → Prop
  | done r, tr => ends tr (.finished r)
  | crash, tr => ends tr .crashed
  | ask q next, tr =>
    T.guarantee tr q ∧ ∀ b how x a, T.rely tr ⟨b, q, how, x, a⟩ →
      Along T ends (next x) (⟨b, q, how, x, a⟩ :: tr)
  | both q r next, tr =>
    (T.guarantee tr q ∧ ∀ b how x a, T.rely tr ⟨b, q, how, x, a⟩ →
      T.guarantee (⟨b, q, how, x, a⟩ :: tr) r ∧
        ∀ b' how' y a', T.rely (⟨b, q, how, x, a⟩ :: tr) ⟨b', r, how', y, a'⟩ →
          Along T ends (next x y) (⟨b', r, how', y, a'⟩ :: ⟨b, q, how, x, a⟩ :: tr)) ∧
    (T.guarantee tr r ∧ ∀ b how y a, T.rely tr ⟨b, r, how, y, a⟩ →
      T.guarantee (⟨b, r, how, y, a⟩ :: tr) q ∧
        ∀ b' how' x a', T.rely (⟨b, r, how, y, a⟩ :: tr) ⟨b', q, how', x, a'⟩ →
          Along T ends (next x y) (⟨b', q, how', x, a'⟩ :: ⟨b, r, how, y, a⟩ :: tr))

variable {T : Terms} {ends : Trace → Outcome α → Prop} {tr : Trace}

/-! ## Rules -/

@[simp] theorem along_done {r : Except Failure α} :
    (done r).Along T ends tr ↔ ends tr (.finished r) := Iff.rfl

@[simp] theorem along_pure {x : α} :
    (pure x : Action α).Along T ends tr ↔ ends tr (.finished (.ok x)) := Iff.rfl

@[simp] theorem along_fail {e : Failure} :
    (fail e : Action α).Along T ends tr ↔ ends tr (.finished (.error e)) := Iff.rfl

@[simp] theorem along_ofExcept {r : Except Failure α} :
    (ofExcept r).Along T ends tr ↔ ends tr (.finished r) := Iff.rfl

@[simp] theorem along_crash : (crash : Action α).Along T ends tr ↔ ends tr .crashed := Iff.rfl

theorem Along.mono {ends' : Trace → Outcome α → Prop} {a : Action α} (h : a.Along T ends tr)
    (he : ∀ tr out, ends tr out → ends' tr out) : a.Along T ends' tr := by
  induction a generalizing tr with
  | done r => exact he _ _ h
  | crash => exact he _ _ h
  | ask q next ih => exact ⟨h.1, fun b how x a hr => ih x (h.2 b how x a hr)⟩
  | both q r next ih =>
    refine ⟨⟨h.1.1, fun b how x a hr => ?_⟩, ⟨h.2.1, fun b how y a hr => ?_⟩⟩
    · obtain ⟨hg, hn⟩ := h.1.2 b how x a hr
      exact ⟨hg, fun b' how' y a' hr' => ih x y (hn b' how' y a' hr')⟩
    · obtain ⟨hg, hn⟩ := h.2.2 b how y a hr
      exact ⟨hg, fun b' how' x a' hr' => ih x y (hn b' how' x a' hr')⟩

/-- The action that is over with an outcome. -/
def Outcome.action : Outcome α → Action α
  | .finished r => done r
  | .crashed => crash

theorem along_action {out : Outcome α} : out.action.Along T ends tr ↔ ends tr out := by
  cases out <;> exact Iff.rfl

/-- An action that asks nothing is over. -/
theorem exists_outcome {a : Action α} (h : ∀ second, a.offer? second = none) :
    ∃ out : Outcome α, a = out.action := by
  cases a with
  | done r => exact ⟨.finished r, rfl⟩
  | crash => exact ⟨.crashed, rfl⟩
  | ask q next => cases h false
  | both q r next => cases h false

/-- A change of actions that only concerns their ends. -/
theorem along_change {F : Action α → Action β} {ends' : Trace → Outcome β → Prop} {a : Action α}
    (hask : ∀ q next, F (ask q next) = ask q fun x => F (next x))
    (hboth : ∀ q r next, F (both q r next) = both q r fun x y => F (next x y))
    (hends : ∀ tr out, (F out.action).Along T ends' tr ↔ ends tr out) :
    (F a).Along T ends' tr ↔ a.Along T ends tr := by
  induction a generalizing tr with
  | done r => exact hends tr (.finished r)
  | crash => exact hends tr .crashed
  | ask q next ih =>
    rw [hask]
    refine and_congr_right fun _ => ?_
    exact forall_congr' fun b => forall_congr' fun how => forall_congr' fun x =>
      forall_congr' fun a => imp_congr_right fun _ => ih x
  | both q r next ih =>
    rw [hboth]
    refine and_congr (and_congr_right fun _ => ?_) (and_congr_right fun _ => ?_)
    · refine forall_congr' fun b => forall_congr' fun how => forall_congr' fun x =>
        forall_congr' fun a => imp_congr_right fun _ => and_congr_right fun _ => ?_
      exact forall_congr' fun b' => forall_congr' fun how' => forall_congr' fun y =>
        forall_congr' fun a' => imp_congr_right fun _ => ih x y
    · refine forall_congr' fun b => forall_congr' fun how => forall_congr' fun y =>
        forall_congr' fun a => imp_congr_right fun _ => and_congr_right fun _ => ?_
      exact forall_congr' fun b' => forall_congr' fun how' => forall_congr' fun x =>
        forall_congr' fun a' => imp_congr_right fun _ => ih x y

/-- The end of an action after which another one starts. -/
def Continues (T : Terms) (f : α → Action β) (ends : Trace → Outcome β → Prop) (tr : Trace) :
    Outcome α → Prop
  | .finished (.ok x) => (f x).Along T ends tr
  | .finished (.error e) => ends tr (.finished (.error e))
  | .crashed => ends tr .crashed

theorem along_bind {a : Action α} {f : α → Action β} {ends : Trace → Outcome β → Prop} :
    (a >>= f).Along T ends tr ↔ a.Along T (Continues T f ends) tr := by
  refine along_change (F := (· >>= f)) (fun _ _ => rfl) (fun _ _ _ => rfl) fun tr out => ?_
  rcases out with (e | x) | _ <;> exact Iff.rfl

/-- The outcome with its failure changed. -/
def Outcome.mapFailure (f : Failure → Failure) : Outcome α → Outcome α
  | .finished r => .finished (r.mapError f)
  | .crashed => .crashed

theorem along_mapFailure {f : Failure → Failure} {a : Action α} :
    (a.mapFailure f).Along T ends tr ↔ a.Along T (fun tr out => ends tr (out.mapFailure f)) tr := by
  refine along_change (F := mapFailure f) (fun _ _ => rfl) (fun _ _ _ => rfl) fun tr out => ?_
  cases out <;> exact Iff.rfl

/-- The outcome with its result as a value. -/
def Outcome.attempt : Outcome α → Outcome (Except Failure α)
  | .finished r => .finished (.ok r)
  | .crashed => .crashed

theorem along_attempt {ends : Trace → Outcome (Except Failure α) → Prop} {a : Action α} :
    a.attempt.Along T ends tr ↔ a.Along T (fun tr out => ends tr out.attempt) tr := by
  refine along_change (F := attempt) (fun _ _ => rfl) (fun _ _ _ => rfl) fun tr out => ?_
  cases out <;> exact Iff.rfl

/-! ## Soundness -/

theorem Along.step {a : Action α} (h : a.Along T ends tr) {second : Bool} {q : Question}
    {next : q.Answer → Action α} (ho : a.offer? second = some ⟨q, next⟩) :
    T.guarantee tr q ∧ ∀ b how x a, T.rely tr ⟨b, q, how, x, a⟩ →
      (next x).Along T ends (⟨b, q, how, x, a⟩ :: tr) := by
  cases a with
  | done r => cases ho
  | crash => cases ho
  | ask q next =>
    cases ho
    exact h
  | both q r next =>
    cases second with
    | false =>
      cases ho
      exact h.1
    | true =>
      cases ho
      exact h.2

/-- An action is over as said, or asks something. -/
theorem Along.over_or_asks {a : Action α} (h : a.Along T ends tr) :
    (∃ out : Outcome α, a = out.action ∧ ends tr out) ∨
      ∃ q, a.offer? false = some q ∧ T.guarantee tr q.1 := by
  cases a with
  | done r => exact .inl ⟨.finished r, rfl, h⟩
  | crash => exact .inl ⟨.crashed, rfl, h⟩
  | ask q next => exact .inr ⟨_, rfl, h.1⟩
  | both q r next => exact .inr ⟨_, rfl, h.1.1⟩

/-- What holds along an action holds of everything it comes to. -/
theorem Reaches.along {a b : Action α} (hr : a.Reaches tr b) (h : a.Along T ends [])
    (ht : tr.All T.rely) :
    b.Along T ends tr ∧ tr.All fun older o => T.guarantee older o.question := by
  induction hr with
  | start => exact ⟨h, trivial⟩
  | step _ ho before how x after ih =>
    obtain ⟨hb, hg⟩ := ih ht.2
    obtain ⟨hq, hn⟩ := hb.step ho
    exact ⟨hn before how x after ht.1, hq, hg⟩

/-- An action that relies on nothing asks only what it may. -/
theorem Reaches.asked {a b : Action α} {p : Question → Prop} (hr : a.Reaches tr b)
    (h : a.Along ⟨fun _ _ => True, fun _ q => p q⟩ ends []) {o : Observation} (ho : o ∈ tr) :
    p o.question := by
  obtain ⟨_, hq⟩ := (hr.along h (Trace.all_true tr)).2.exists_of_mem ho
  exact hq

section

variable {a : Action α} {q r : Question}

theorem Reaches.step_ask {next : q.Answer → Action α} (h : a.Reaches tr (.ask q next))
    (before : World) (how : Reaction) (x : q.Answer) (after : World) :
    a.Reaches (⟨before, q, how, x, after⟩ :: tr) (next x) :=
  @Reaches.step _ _ _ _ false _ _ h rfl before how x after

variable {next : q.Answer → r.Answer → Action α} (h : a.Reaches tr (.both q r next))
  (before : World) (how : Reaction)
include h

theorem Reaches.step_first (x : q.Answer) (after : World) :
    a.Reaches (⟨before, q, how, x, after⟩ :: tr) (.ask r (next x)) :=
  @Reaches.step _ _ _ _ false _ _ h rfl before how x after

theorem Reaches.step_second (y : r.Answer) (after : World) :
    a.Reaches (⟨before, r, how, y, after⟩ :: tr) (.ask q fun x => next x y) :=
  @Reaches.step _ _ _ _ true _ _ h rfl before how y after

end

/-- An action that is over comes to nothing else. -/
theorem Reaches.of_over (out : Outcome α) {b : Action α} (h : out.action.Reaches tr b) :
    tr = [] ∧ b = out.action := by
  induction h with
  | start => exact ⟨rfl, rfl⟩
  | step _ ho _ _ _ _ ih =>
    rw [ih.2] at ho
    cases out <;> cases ho

/-- An action that begins with a question has not been answered yet, or goes on with the first
answer. -/
theorem Reaches.of_ask {q : Question} {next : q.Answer → Action α} {b : Action α}
    (h : (ask q next).Reaches tr b) :
    tr = [] ∧ b = ask q next ∨
      ∃ newer o x, tr = newer ++ [o] ∧ o.Saw q x ∧ (next x).Reaches newer b := by
  induction h with
  | start => exact .inl ⟨rfl, rfl⟩
  | step _ ho before how x after ih =>
    obtain ⟨rfl, rfl⟩ | ⟨newer, o, y, rfl, hy, hr⟩ := ih
    · -- a single question is asked as the first or as the second one alike
      cases ho
      exact .inr ⟨[], _, x, rfl, ⟨before, how, after, rfl⟩, .start⟩
    · exact .inr ⟨_ :: newer, o, y, rfl, hy, hr.step ho before how x after⟩

/-- After the answer to its first question an action goes on with it. -/
theorem Reaches.of_first {q : Question} {next : q.Answer → Action α} {b : Action α}
    {newer : Trace} {o : Observation} {x : q.Answer} (h : (ask q next).Reaches (newer ++ [o]) b)
    (ho : o.Saw q x) : (next x).Reaches newer b := by
  obtain ⟨he, -⟩ | ⟨newer', o', y, he, hy, hr⟩ := h.of_ask
  · simp at he
  · obtain ⟨hn, ho'⟩ := List.append_inj' he rfl
    cases ho'
    cases ho.unique hy
    exact hn ▸ hr

/-- A change of actions that only concerns their ends leaves what they ask. -/
theorem Reaches.change {F : Action α → Action β} {a b : Action α}
    (hask : ∀ q next, F (ask q next) = ask q fun x => F (next x))
    (hboth : ∀ q r next, F (both q r next) = both q r fun x y => F (next x y))
    (h : a.Reaches tr b) : (F a).Reaches tr (F b) := by
  induction h with
  | start => exact .start
  | @step tr b second q next _ ho before how x after ih =>
    cases b with
    | done r => cases ho
    | crash => cases ho
    | ask q next =>
      cases ho
      rw [hask] at ih
      exact ih.step_ask before how x after
    | both q r next =>
      rw [hboth] at ih
      cases second with
      | false =>
        cases ho
        rw [hask]
        exact ih.step_first before how x after
      | true =>
        cases ho
        rw [hask]
        exact ih.step_second before how x after

theorem Reaches.bind {a b : Action α} (h : a.Reaches tr b) (f : α → Action β) :
    (a >>= f).Reaches tr (b >>= f) :=
  h.change (F := (· >>= f)) (fun _ _ => rfl) fun _ _ _ => rfl

theorem Reaches.attempt {a b : Action α} (h : a.Reaches tr b) :
    a.attempt.Reaches tr b.attempt :=
  h.change (F := Action.attempt) (fun _ _ => rfl) fun _ _ _ => rfl

/-- Along an action, what it ends with is what it comes to. -/
theorem Along.reaching {a b : Action α} (h : b.Along T ends tr) (hr : a.Reaches tr b) :
    b.Along T (fun tr out => ends tr out ∧ a.Reaches tr out.action) tr := by
  induction b generalizing tr with
  | done r => exact ⟨h, hr⟩
  | crash => exact ⟨h, hr⟩
  | ask q next ih =>
    exact ⟨h.1, fun b how x a ht => ih x (h.2 b how x a ht) (hr.step_ask ..)⟩
  | both q r next ih =>
    refine ⟨⟨h.1.1, fun b how x a ht => ?_⟩, ⟨h.2.1, fun b how y a ht => ?_⟩⟩
    · obtain ⟨hg, hn⟩ := h.1.2 b how x a ht
      exact ⟨hg, fun b' how' y a' ht' =>
        ih x y (hn b' how' y a' ht') ((hr.step_first b how x a).step_ask ..)⟩
    · obtain ⟨hg, hn⟩ := h.2.2 b how y a ht
      exact ⟨hg, fun b' how' x a' ht' =>
        ih x y (hn b' how' x a' ht') ((hr.step_second b how y a).step_ask ..)⟩

/-! ## How long an action takes -/

/-- Whether an action is over after so many answers at the latest. -/
def Within : Action α → Nat → Prop
  | done _, _ | crash, _ => True
  | ask _ next, n => 0 < n ∧ ∀ x, (next x).Within (n - 1)
  | both _ _ next, n => 1 < n ∧ ∀ x y, (next x y).Within (n - 2)

theorem Within.mono {a : Action α} {n k : Nat} (h : a.Within n) (hk : n ≤ k) : a.Within k := by
  induction a generalizing n k with
  | done r => trivial
  | crash => trivial
  | ask q next ih =>
    obtain ⟨h0, hn⟩ := h
    exact ⟨by omega, fun x => ih x (hn x) (by omega)⟩
  | both q r next ih =>
    obtain ⟨h1, hn⟩ := h
    exact ⟨by omega, fun x y => ih x y (hn x y) (by omega)⟩

theorem within_bind {a : Action α} {f : α → Action β} {n k : Nat} (h : a.Within n)
    (hf : ∀ x, (f x).Within k) : (a >>= f).Within (n + k) := by
  induction a generalizing n with
  | done r =>
    cases r with
    | error e => trivial
    | ok x => exact (hf x).mono (by omega)
  | crash => trivial
  | ask q next ih =>
    obtain ⟨h0, hn⟩ := h
    exact ⟨by omega, fun x => (ih x (hn x)).mono (by omega)⟩
  | both q r next ih =>
    obtain ⟨h1, hn⟩ := h
    exact ⟨by omega, fun x y => (ih x y (hn x y)).mono (by omega)⟩

theorem within_mapFailure {a : Action α} {f : Failure → Failure} {n : Nat} (h : a.Within n) :
    (a.mapFailure f).Within n := by
  induction a generalizing n with
  | done r => trivial
  | crash => trivial
  | ask q next ih => exact ⟨h.1, fun x => ih x (h.2 x)⟩
  | both q r next ih => exact ⟨h.1, fun x y => ih x y (h.2 x y)⟩

theorem Within.step {a : Action α} {n : Nat} (h : a.Within n) {second : Bool} {q : Question}
    {next : q.Answer → Action α} (ho : a.offer? second = some ⟨q, next⟩) :
    0 < n ∧ ∀ x, (next x).Within (n - 1) := by
  cases a with
  | done r => cases ho
  | crash => cases ho
  | ask q next =>
    cases ho
    exact h
  | both q r next =>
    obtain ⟨h1, hn⟩ := h
    cases second with
    | false =>
      cases ho
      exact ⟨by omega, fun x => ⟨by omega, fun y => hn x y⟩⟩
    | true =>
      cases ho
      exact ⟨by omega, fun y => ⟨by omega, fun x => hn x y⟩⟩

/-- What an action comes to takes as many answers less as it was given. -/
theorem Reaches.within {a b : Action α} {n : Nat} (hr : a.Reaches tr b) (h : a.Within n) :
    tr.length ≤ n ∧ b.Within (n - tr.length) := by
  induction hr with
  | start => exact ⟨Nat.zero_le n, h⟩
  | @step tr b second q next _ ho before how x after ih =>
    obtain ⟨hle, hb⟩ := ih
    obtain ⟨h0, hn⟩ := hb.step ho
    rw [List.length_cons]
    exact ⟨by omega, (hn x).mono (by omega)⟩

end Action

end Gatehouse
