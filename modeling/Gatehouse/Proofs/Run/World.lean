import Gatehouse.Action
import Gatehouse.Directory.Memory
import Gatehouse.Store.Memory

/-!
# The surroundings of a run

`World` is what the questions of all actions are put to: the store, the directory, the clock and the
identifiers in use. `World.answer?` is the answer under a `Reaction`, which decides whether a call
works, fails without effect, or fails although it took effect. An `Observation` is one question with
all that happened to it, and is `Truthful` if the world reacted like that. No answer moves the
moment of the store (`Observation.Truthful.moment_eq`), and an identifier that is drawn was not in
use (`Observation.Truthful.freshId`).
-/

namespace Gatehouse

open Time (Instant)

/-- What surrounds the actions of a run: what the clock showed last, the moment by which the store
decides what is present, the store, the directory, and the identifiers that are in use. -/
structure World where
  clock : Instant
  moment : Nat
  store : Store.Memory
  directory : Directory
  drawn : List Uuid

/-- How the surroundings react to a question. A call works, fails without effect, or fails `unseen`:
it is carried out and reported to have failed all the same. -/
inductive Reaction where
  | works
  | fails (e : Failure)
  | unseen (e : Failure)
  | shows (t : Instant)
  | draws (id : Uuid)
  | salts (octets : Vector UInt8 16)
  | reports (works : Bool)

/-- Whether a call to the directory may make something with a new identifier. -/
def Directory.Call.makes : Directory.Call → Bool
  | .ensureRole _ | .ensurePermission _ => true
  | _ => false

namespace World

/-- The world with what a call does to its store. -/
def carryOut (w : World) (call : Store.Call) : World :=
  { w with store := (Store.Memory.answer w.moment call w.store).2 }

/-- The answer to a question under a reaction and the world after it; not every reaction is one to
every question. -/
def answer? (w : World) : Reaction → (q : Question) → Option (q.Answer × World)
  | .works, .store call => some ((Store.Memory.answer w.moment call w.store).1, w.carryOut call)
  | .fails e, .store _ => some (.error e, w)
  | .unseen e, .store call => some (.error e, w.carryOut call)
  | .works, .directory call =>
    if call.makes then none
    else
      let (x, d) := Directory.answer w.clock default call w.directory
      some (x, { w with directory := d })
  | .draws id, .directory call =>
    if id ∈ w.drawn then none
    else
      let (x, d) := Directory.answer w.clock id call w.directory
      some (x, { w with directory := d, drawn := id :: w.drawn })
  | .fails e, .directory _ => some (.error e, w)
  | .reports b, .database => some (.ok b, w)
  | .fails e, .database => some (.error e, w)
  | .shows t, .now => some (t, { w with clock := t })
  | .draws id, .freshId =>
    if id ∈ w.drawn then none else some (id, { w with drawn := id :: w.drawn })
  | .salts octets, .freshSalt => some (octets, w)
  | _, _ => none

/-- The text under a key of the store that is present now. -/
def get? (w : World) (key : String) : Option String :=
  w.store.get? w.moment key

end World

/-- A question with its answer, and the world before and after it. -/
structure Observation where
  before : World
  question : Question
  how : Reaction
  answer : question.Answer
  after : World

/-- What an action has observed, the newest first. -/
abbrev Trace := List Observation

/-- Whether a statement holds of every observation and what was observed before it. -/
def Trace.All (p : Trace → Observation → Prop) : Trace → Prop
  | [] => True
  | o :: older => p older o ∧ Trace.All p older

/-- Whether a question is a call that changes the store. -/
def Question.Writes : Question → Prop
  | .store (.set _ _ _) | .store (.delete _) => True
  | _ => False

/-- Whether a question only looks at the store, at the clock, or at roles and permissions, or draws
an identifier. -/
def Question.Looks : Question → Prop
  | .store (.get _) | .store (.isPresent _) | .now | .freshId => True
  | .directory (.rolesOf _) | .directory (.permissionsOf _) => True
  | _ => False

theorem Question.Looks.not_writes {q : Question} (h : q.Looks) : ¬q.Writes := by
  intro hw
  unfold Writes at hw
  split at hw
  · exact h
  · exact h
  · exact hw

/-- Whether no observation is of a call that changes the store. -/
def Trace.Writeless (tr : Trace) : Prop := ∀ o ∈ tr, ¬o.question.Writes

theorem Trace.Writeless.append {newer older : Trace} (h : newer.Writeless) (h' : older.Writeless) :
    Trace.Writeless (newer ++ older) :=
  fun o ho => (List.mem_append.1 ho).elim (h o) (h' o)

theorem Trace.writeless_cons {o : Observation} {older : Trace} :
    Trace.Writeless (o :: older) ↔ ¬o.question.Writes ∧ older.Writeless := by
  simp [Trace.Writeless]

theorem Trace.writeless_nil : Trace.Writeless [] := by
  simp [Trace.Writeless]

/-- Whether all observations are of calls that change the store. -/
def Trace.Writing (tr : Trace) : Prop := ∀ o ∈ tr, o.question.Writes

theorem Trace.writing_nil : Trace.Writing [] := by
  simp [Trace.Writing]

theorem Trace.Writing.cons {o : Observation} {tr : Trace} (h : tr.Writing)
    (ho : o.question.Writes) : Trace.Writing (o :: tr) := by
  intro x hx
  rcases List.mem_cons.1 hx with rfl | hx
  · exact ho
  · exact h x hx

theorem Trace.Writing.append {newer older : Trace} (h : newer.Writing) (h' : older.Writing) :
    Trace.Writing (newer ++ older) :=
  fun o ho => (List.mem_append.1 ho).elim (h o) (h' o)

/-- A call that changes the store reads nothing from it. -/
theorem Trace.Writing.ne_get {tr : Trace} (h : tr.Writing) {o : Observation} (ho : o ∈ tr)
    (key : String) : o.question ≠ .store (.get key) := by
  intro hq
  have hw := h o ho
  rw [hq] at hw
  exact hw

theorem Trace.Writing.ne_now {tr : Trace} (h : tr.Writing) {o : Observation} (ho : o ∈ tr) :
    o.question ≠ .now := by
  intro hq
  have hw := h o ho
  rw [hq] at hw
  exact hw

theorem Trace.All.of_suffix {p : Trace → Observation → Prop} {tr older : Trace} {o : Observation}
    (h : tr.All p) (hs : o :: older <:+ tr) : p older o := by
  induction tr with
  | nil => exact absurd (List.eq_nil_of_suffix_nil hs) (by simp)
  | cons o' tr ih =>
    rcases List.suffix_cons_iff.1 hs with he | hs
    · cases he
      exact h.1
    · exact ih h.2 hs

/-- An observation was made at some point of its trace. -/
theorem Trace.exists_suffix_of_mem {tr : Trace} {o : Observation} (ho : o ∈ tr) :
    ∃ older, o :: older <:+ tr := by
  obtain ⟨newer, older, rfl⟩ := List.append_of_mem ho
  exact ⟨older, List.suffix_append newer _⟩

theorem Trace.All.exists_of_mem {p : Trace → Observation → Prop} {tr : Trace} {o : Observation}
    (h : tr.All p) (ho : o ∈ tr) : ∃ older, p older o := by
  obtain ⟨older, hs⟩ := Trace.exists_suffix_of_mem ho
  exact ⟨older, h.of_suffix hs⟩

theorem Trace.All.of_forall {p : Trace → Observation → Prop} {tr : Trace}
    (h : ∀ o older, o :: older <:+ tr → p older o) : tr.All p := by
  induction tr with
  | nil => trivial
  | cons o tr ih =>
    refine ⟨h o tr (List.suffix_refl _), ih fun o' older hs => ?_⟩
    exact h o' older (hs.trans (List.suffix_cons _ _))

theorem Trace.all_true (tr : Trace) : tr.All fun _ _ => True :=
  .of_forall fun _ _ _ => trivial

namespace Observation

/-- Whether the call is reported to have failed, with or without effect. -/
def Fails (o : Observation) : Prop :=
  ∃ e, o.how = .fails e ∨ o.how = .unseen e

/-- Whether the question was this one and the answer too. -/
def Saw (o : Observation) (q : Question) (x : q.Answer) : Prop :=
  ∃ b how a, o = ⟨b, q, how, x, a⟩

theorem Saw.question {o : Observation} {q : Question} {x : q.Answer} (h : o.Saw q x) :
    o.question = q := by
  obtain ⟨b, how, a, rfl⟩ := h
  rfl

/-- One observation has one answer. -/
theorem Saw.unique {o : Observation} {q : Question} {x y : q.Answer} (h : o.Saw q x)
    (h' : o.Saw q y) : x = y := by
  obtain ⟨b, how, a, rfl⟩ := h
  obtain ⟨b', how', a', h'⟩ := h'
  cases h'
  rfl

/-- Whether the world reacted as observed. -/
def Truthful (o : Observation) : Prop :=
  o.before.answer? o.how o.question = some (o.answer, o.after)

/-! ## Truthful observations -/

namespace Truthful

variable {b a : World} {how : Reaction}

/-- What can happen to a call to the store. -/
theorem store {call : Store.Call} {x : Except Failure call.Reply}
    (h : Truthful ⟨b, .store call, how, x, a⟩) :
    (how = .works ∧ x = (Store.Memory.answer b.moment call b.store).1 ∧ a = b.carryOut call) ∨
      (∃ e, how = .fails e ∧ x = .error e ∧ a = b) ∨
      (∃ e, how = .unseen e ∧ x = .error e ∧ a = b.carryOut call) := by
  unfold Truthful at h
  cases how <;> simp only [World.answer?, Option.some.injEq, Prod.mk.injEq, reduceCtorEq] at h
  · exact .inl ⟨rfl, h.1.symm, h.2.symm⟩
  · exact .inr (.inl ⟨_, rfl, h.1.symm, h.2.symm⟩)
  · exact .inr (.inr ⟨_, rfl, h.1.symm, h.2.symm⟩)

/-- A call that is answered without a failure took effect. -/
theorem store_ok {call : Store.Call} {x : call.Reply}
    (h : Truthful ⟨b, .store call, how, .ok x, a⟩) :
    Store.Memory.answer b.moment call b.store = (.ok x, a.store) ∧ a = b.carryOut call := by
  obtain ⟨-, hx, ha⟩ | ⟨e, -, hx, -⟩ | ⟨e, -, hx, -⟩ := h.store
  · exact ⟨Prod.ext hx.symm (by rw [ha]; rfl), ha⟩
  · cases hx
  · cases hx

/-- A text that is reported to be kept is in the store. -/
theorem store_of_set {o : Observation} {key value : String} {ttl : Time.Duration} (h : o.Truthful)
    (ho : o.Saw (.store (.set key value ttl)) (.ok ())) :
    o.after.store = o.before.store.insert ⟨key, value, o.before.moment + ttl.nanos⟩ := by
  obtain ⟨b, how, a, rfl⟩ := ho
  obtain ⟨hx, -⟩ := h.store_ok
  by_cases h0 : ttl.nanos = 0
  · simp [Store.Memory.answer, h0] at hx
  · simp only [Store.Memory.answer, if_neg h0] at hx
    exact (congrArg Prod.snd hx).symm

/-- A text is answered from the store, or the call fails. -/
theorem get {key : String} {x : Except Failure (Option String)}
    (h : Truthful ⟨b, .store (.get key), how, x, a⟩) :
    x = .ok (b.get? key) ∨ (∃ e, x = .error e) ∧ Fails ⟨b, .store (.get key), how, x, a⟩ := by
  obtain ⟨-, rfl, -⟩ | ⟨e, rfl, rfl, -⟩ | ⟨e, rfl, rfl, -⟩ := h.store
  · exact .inl rfl
  · exact .inr ⟨⟨e, rfl⟩, e, .inl rfl⟩
  · exact .inr ⟨⟨e, rfl⟩, e, .inr rfl⟩

/-- Whether a key is present is answered from the store, or the call fails. -/
theorem isPresent {key : String} {x : Except Failure Bool}
    (h : Truthful ⟨b, .store (.isPresent key), how, x, a⟩) :
    x = .ok (b.get? key).isSome ∨
      (∃ e, x = .error e) ∧ Fails ⟨b, .store (.isPresent key), how, x, a⟩ := by
  obtain ⟨-, rfl, -⟩ | ⟨e, rfl, rfl, -⟩ | ⟨e, rfl, rfl, -⟩ := h.store
  · exact .inl rfl
  · exact .inr ⟨⟨e, rfl⟩, e, .inl rfl⟩
  · exact .inr ⟨⟨e, rfl⟩, e, .inr rfl⟩

theorem now {t : Instant} (h : Truthful ⟨b, .now, how, t, a⟩) :
    how = .shows t ∧ a = { b with clock := t } := by
  unfold Truthful at h
  cases how <;> simp only [World.answer?, Option.some.injEq, Prod.mk.injEq, reduceCtorEq] at h
  obtain ⟨rfl, rfl⟩ := h
  exact ⟨rfl, rfl⟩

theorem freshId {id : Uuid} (h : Truthful ⟨b, .freshId, how, id, a⟩) :
    id ∉ b.drawn ∧ how = .draws id ∧ a = { b with drawn := id :: b.drawn } := by
  unfold Truthful at h
  cases how <;> simp only [World.answer?, reduceCtorEq] at h
  split at h
  · cases h
  · rename_i hid
    simp only [Option.some.injEq, Prod.mk.injEq] at h
    obtain ⟨rfl, rfl⟩ := h
    exact ⟨hid, rfl, rfl⟩

/-- What can happen to a call to the directory. -/
theorem directory {call : Directory.Call} {x : Except Failure call.Reply}
    (h : Truthful ⟨b, .directory call, how, x, a⟩) :
    (∃ e, how = .fails e ∧ x = .error e ∧ a = b) ∨
      ∃ id, (∀ e, how ≠ .fails e) ∧
        Directory.answer b.clock id call b.directory = (x, a.directory) ∧
        (call.makes = true → id ∉ b.drawn ∧ id ∈ a.drawn) := by
  unfold Truthful at h
  cases how <;> simp only [World.answer?, Option.some.injEq, Prod.mk.injEq, reduceCtorEq] at h
  · split at h
    · cases h
    · rename_i hmakes
      simp only [Option.some.injEq, Prod.mk.injEq] at h
      obtain ⟨rfl, rfl⟩ := h
      exact .inr ⟨default, nofun, rfl, fun hm => absurd hm hmakes⟩
  · obtain ⟨rfl, rfl⟩ := h
    exact .inl ⟨_, rfl, rfl, rfl⟩
  · split at h
    · cases h
    · rename_i id hid
      simp only [Option.some.injEq, Prod.mk.injEq] at h
      obtain ⟨rfl, rfl⟩ := h
      exact .inr ⟨id, nofun, rfl, fun _ => ⟨hid, List.mem_cons_self⟩⟩

/-- A call to the directory that does not fail is answered by it. -/
theorem directory_ok {call : Directory.Call} {x : call.Reply}
    (h : Truthful ⟨b, .directory call, how, .ok x, a⟩) :
    ∃ id, Directory.answer b.clock id call b.directory = (.ok x, a.directory) := by
  obtain ⟨e, -, hx, -⟩ | ⟨id, -, hx, -⟩ := h.directory
  · cases hx
  · exact ⟨id, hx⟩

/-- A call to the directory is answered by it, or fails. -/
theorem directory_or_fails {call : Directory.Call} {x : Except Failure call.Reply}
    (h : Truthful ⟨b, .directory call, how, x, a⟩) :
    (∃ id, x = (Directory.answer b.clock id call b.directory).1) ∨
      (∃ e, x = .error e) ∧ Fails ⟨b, .directory call, how, x, a⟩ := by
  obtain ⟨e, rfl, rfl, -⟩ | ⟨id, -, hx, -⟩ := h.directory
  · exact .inr ⟨⟨e, rfl⟩, e, .inl rfl⟩
  · exact .inl ⟨id, (congrArg Prod.fst hx).symm⟩

theorem permissionsOf {role : Uuid} {x : Except Failure (List Permission)}
    (h : Truthful ⟨b, .directory (.permissionsOf role), how, x, a⟩) :
    x = .ok (b.directory.permissionsOf role) ∨
      (∃ e, x = .error e) ∧ Fails ⟨b, .directory (.permissionsOf role), how, x, a⟩ :=
  h.directory_or_fails.imp_left fun ⟨_, hx⟩ => hx

theorem rolesOf {user : Uuid} {x : Except Failure (List RoleRef)}
    (h : Truthful ⟨b, .directory (.rolesOf user), how, x, a⟩) :
    x = .ok (b.directory.rolesOf user) ∨
      (∃ e, x = .error e) ∧ Fails ⟨b, .directory (.rolesOf user), how, x, a⟩ :=
  h.directory_or_fails.imp_left fun ⟨_, hx⟩ => hx

variable {o : Observation}

/-- A call to the store that does not fail is answered as the store does. -/
theorem answer_of_works {call : Store.Call} {x : Except Failure call.Reply}
    (h : Truthful ⟨b, .store call, how, x, a⟩) (hw : ¬Fails ⟨b, .store call, how, x, a⟩) :
    x = (Store.Memory.answer b.moment call b.store).1 := by
  obtain ⟨-, hx, -⟩ | ⟨e, rfl, -⟩ | ⟨e, rfl, -⟩ := h.store
  · exact hx
  · exact absurd ⟨e, .inl rfl⟩ hw
  · exact absurd ⟨e, .inr rfl⟩ hw

theorem removed (h : o.Truthful) (hw : ¬o.Fails) {key : String}
    (hq : o.question = .store (.delete key)) : o.Saw (.store (.delete key)) (.ok ()) := by
  obtain ⟨b, q, how, x, a⟩ := o
  cases hq
  obtain rfl := h.answer_of_works hw
  exact ⟨b, how, a, rfl⟩

theorem kept (h : o.Truthful) (hw : ¬o.Fails) {key value : String} {ttl : Time.Duration}
    (h0 : ttl.nanos ≠ 0) (hq : o.question = .store (.set key value ttl)) :
    o.Saw (.store (.set key value ttl)) (.ok ()) := by
  obtain ⟨b, q, how, x, a⟩ := o
  cases hq
  obtain rfl := h.answer_of_works hw
  refine ⟨b, how, a, ?_⟩
  simp only [Store.Memory.answer, if_neg h0]

/-- Answers do not take time. -/
theorem moment_eq (h : o.Truthful) : o.after.moment = o.before.moment := by
  obtain ⟨b, q, how, x, a⟩ := o
  unfold Truthful at h
  dsimp only at h ⊢
  cases q <;> cases how <;>
    simp only [World.answer?, World.carryOut, Option.some.injEq, Prod.mk.injEq, reduceCtorEq,
      Option.ite_none_left_eq_some] at h
  all_goals first
    | rw [← h.2]
    | rw [← h.2.2]

/-- An identifier in use stays in use. -/
theorem drawn_subset (h : o.Truthful) : o.before.drawn ⊆ o.after.drawn := by
  obtain ⟨b, q, how, x, a⟩ := o
  unfold Truthful at h
  dsimp only at h ⊢
  cases q <;> cases how <;>
    simp only [World.answer?, World.carryOut, Option.some.injEq, Prod.mk.injEq, reduceCtorEq,
      Option.ite_none_left_eq_some] at h
  all_goals first
    | exact h.2 ▸ List.Subset.refl _
    | exact h.2.2 ▸ List.Subset.refl _
    | exact h.2.2 ▸ List.subset_cons_self _ _

/-- Only calls to the store change it. -/
theorem store_eq (h : o.Truthful) :
    o.after.store = o.before.store ∨
      ∃ call, o.question = .store call ∧ o.after = o.before.carryOut call := by
  obtain ⟨b, q, how, x, a⟩ := o
  cases q with
  | store call =>
    obtain ⟨-, -, ha⟩ | ⟨e, -, -, ha⟩ | ⟨e, -, -, ha⟩ := h.store
    · exact .inr ⟨call, rfl, ha⟩
    · exact .inl (congrArg _ ha)
    · exact .inr ⟨call, rfl, ha⟩
  | _ =>
    refine .inl ?_
    unfold Truthful at h
    dsimp only at h ⊢
    cases how <;>
      simp only [World.answer?, Option.some.injEq, Prod.mk.injEq, reduceCtorEq,
        Option.ite_none_left_eq_some] at h
    all_goals first
      | rw [← h.2]
      | rw [← h.2.2]

end Truthful

end Observation

/-- Whether an identifier was drawn after some observations. -/
def Trace.Draws (tr : Trace) (id : Uuid) (older : Trace) : Prop :=
  ∃ o : Observation, o.Saw .freshId id ∧ o :: older <:+ tr

end Gatehouse
