import Gatehouse.Proofs.Run.Alone
import Gatehouse.Proofs.Run.Along

/-!
# What an action may change

An action keeps to `permitting P` if it never changes the directory, and changes the store only
after a trace of mere questions has met a condition `P` for some keys, and then only under these
keys. `scoped_of_permitted` takes such a trace apart at its first change, `Trace.live?_of_confined`
says that an action that runs alone leaves everything else as it was. `Along.permitted` is the rule
for the part of an action that changes the store: once the condition is met, only the keys of the
single calls matter.
-/

namespace Gatehouse

/-- Whether a question is a call that changes the directory. -/
def Question.Edits : Question → Prop
  | .directory (.byEmail _) | .directory (.rolesOf _) | .directory (.permissionsOf _) => False
  | .directory _ => True
  | _ => False

/-- Whether a question changes the store under some keys at most. -/
def Question.Confined (keys : List String) (q : Question) : Prop :=
  q.Writes → ∃ call, q = .store call ∧ call.key ∈ keys

theorem Question.confined_of_not_writes {q : Question} (h : ¬q.Writes) (keys : List String) :
    q.Confined keys := fun hw => absurd hw h

theorem Question.confined_store {call : Store.Call} {keys : List String} (h : call.key ∈ keys) :
    (Question.store call).Confined keys := fun _ => ⟨call, rfl, h⟩

theorem Question.Looks.not_edits {q : Question} (h : q.Looks) : ¬q.Edits := by
  unfold Looks at h
  split at h <;> first | exact id | exact h.elim

/-! ## Terms -/

namespace Action

/-- An action may change the store under some keys, and never the directory. -/
def confining (keys : List String) : Terms where
  rely _ _ := True
  guarantee _ q := ¬q.Edits ∧ q.Confined keys

/-- Whether a trace is one of mere questions that met a condition for some keys, followed by changes
under these keys. -/
def Scoped (P : Trace → List String → Prop) (keys : List String) (tr : Trace) : Prop :=
  ∃ newer older, tr = newer ++ older ∧ older.Writeless ∧ P older keys ∧
    ∀ o ∈ newer, o.question.Confined keys

/-- An action may change the store when a condition is met for some keys, under these keys, and
never the directory. -/
def permitting (P : Trace → List String → Prop) : Terms where
  rely _ _ := True
  guarantee tr q := ¬q.Edits ∧ (q.Writes → ∃ keys, Scoped P keys tr ∧ q.Confined keys)

variable {α : Type} {P : Trace → List String → Prop} {keys : List String} {tr older : Trace}

theorem Scoped.cons {o : Observation} (h : Scoped P keys tr) (ho : o.question.Confined keys) :
    Scoped P keys (o :: tr) := by
  obtain ⟨newer, older, rfl, hw, hp, hn⟩ := h
  refine ⟨o :: newer, older, rfl, hw, hp, fun x hx => ?_⟩
  rcases List.mem_cons.1 hx with rfl | hx
  · exact ho
  · exact hn x hx

theorem permitting_of_not_writes {q : Question} (he : ¬q.Edits) (hw : ¬q.Writes) :
    (permitting P).guarantee tr q := ⟨he, fun h => absurd h hw⟩

/-- Once the condition is met for some keys, an action that keeps to these keys is permitted. -/
theorem Along.permitted {ends : Trace → Outcome α → Prop} {a : Action α}
    (h : a.Along (confining keys) ends tr) (hs : Scoped P keys tr) :
    a.Along (permitting P) ends tr := by
  have asks : ∀ {tr q}, (confining keys).guarantee tr q → Scoped P keys tr →
      (permitting P).guarantee tr q := fun hg hs => ⟨hg.1, fun _ => ⟨keys, hs, hg.2⟩⟩
  induction a generalizing tr with
  | done r => exact h
  | crash => exact h
  | ask q next ih =>
    exact ⟨asks h.1 hs, fun b how x a ht => ih x (h.2 b how x a ht) (hs.cons h.1.2)⟩
  | both q r next ih =>
    refine ⟨⟨asks h.1.1 hs, fun b how x a ht => ?_⟩, ⟨asks h.2.1 hs, fun b how y a ht => ?_⟩⟩
    · obtain ⟨hg, hn⟩ := h.1.2 b how x a ht
      have hs' := Scoped.cons (o := ⟨b, q, how, x, a⟩) hs h.1.1.2
      exact ⟨asks hg hs', fun b' how' y a' ht' =>
        ih x y (hn b' how' y a' ht') (hs'.cons hg.2)⟩
    · obtain ⟨hg, hn⟩ := h.2.2 b how y a ht
      have hs' := Scoped.cons (o := ⟨b, r, how, y, a⟩) hs h.2.1.2
      exact ⟨asks hg hs', fun b' how' x a' ht' =>
        ih x y (hn b' how' x a' ht') (hs'.cons hg.2)⟩

/-- An action may only look. -/
def asking : Terms where
  rely _ _ := True
  guarantee _ q := q.Looks

/-- An action that only looks is permitted to, and changes nothing. -/
theorem Along.looked {ends : Trace → Outcome α → Prop} {a : Action α} (h : a.Along asking ends tr)
    (hw : tr.Writeless) :
    a.Along (permitting P) (fun tr out => ends tr out ∧ tr.Writeless) tr := by
  have asks : ∀ {tr q}, q.Looks → (permitting P).guarantee tr q :=
    fun hq => permitting_of_not_writes hq.not_edits hq.not_writes
  have looked : ∀ {tr : Trace} {o : Observation}, tr.Writeless → o.question.Looks →
      Trace.Writeless (o :: tr) := fun hw hq => Trace.writeless_cons.2 ⟨hq.not_writes, hw⟩
  induction a generalizing tr with
  | done r => exact ⟨h, hw⟩
  | crash => exact ⟨h, hw⟩
  | ask q next ih =>
    exact ⟨asks h.1, fun b how x a ht => ih x (h.2 b how x a ht) (looked hw h.1)⟩
  | both q r next ih =>
    refine ⟨⟨asks h.1.1, fun b how x a ht => ?_⟩, ⟨asks h.2.1, fun b how y a ht => ?_⟩⟩
    · obtain ⟨hg, hn⟩ := h.1.2 b how x a ht
      exact ⟨asks hg, fun b' how' y a' ht' =>
        ih x y (hn b' how' y a' ht') (looked (looked hw h.1.1) hg)⟩
    · obtain ⟨hg, hn⟩ := h.2.2 b how y a ht
      exact ⟨asks hg, fun b' how' x a' ht' =>
        ih x y (hn b' how' x a' ht') (looked (looked hw h.2.1) hg)⟩

/-- A trace of permitted questions changes nothing, or begins its changes when the condition is met
for the keys of all of them. -/
theorem scoped_of_permitted (h : tr.All fun older o => (permitting P).guarantee older o.question) :
    tr.Writeless ∨ ∃ keys, Scoped P keys tr := by
  induction tr with
  | nil => exact .inl Trace.writeless_nil
  | cons o tr ih =>
    obtain ⟨⟨-, hg⟩, hall⟩ := h
    by_cases hw : o.question.Writes
    · obtain ⟨keys, hs, hk⟩ := hg hw
      exact .inr ⟨keys, hs.cons hk⟩
    · obtain hold | ⟨keys, hs⟩ := ih hall
      · exact .inl (Trace.writeless_cons.2 ⟨hw, hold⟩)
      · exact .inr ⟨keys, hs.cons (Question.confined_of_not_writes hw keys)⟩

theorem not_edits_of_permitted
    (h : tr.All fun older o => (permitting P).guarantee older o.question) :
    ∀ o ∈ tr, ¬o.question.Edits := by
  induction tr with
  | nil => simp
  | cons o tr ih =>
    intro x hx
    rcases List.mem_cons.1 hx with rfl | hx
    · exact h.1.1
    · exact ih h.2 x hx

end Action

/-! ## What is left as it was -/

theorem Directory.answer_eq {call : Directory.Call} (h : ¬(Question.directory call).Edits)
    (now : Time.Instant) (id : Uuid) (d : Directory) : (Directory.answer now id call d).2 = d := by
  cases call with
  | byEmail email => rfl
  | rolesOf user => rfl
  | permissionsOf role => rfl
  | _ => exact (h trivial).elim

theorem Observation.Truthful.directory_eq {o : Observation} (h : o.Truthful)
    (he : ¬o.question.Edits) : o.after.directory = o.before.directory := by
  obtain ⟨b, q, how, x, a⟩ := o
  unfold Truthful at h
  dsimp only at h he ⊢
  cases q with
  | directory call =>
    cases how <;> simp only [World.answer?, Option.some.injEq, Prod.mk.injEq, reduceCtorEq,
      Option.ite_none_left_eq_some] at h
    · rw [← h.2.2]
      exact Directory.answer_eq he _ _ _
    · rw [← h.2]
    · rw [← h.2.2]
      exact Directory.answer_eq he _ _ _
  | _ =>
    cases how <;> simp only [World.answer?, World.carryOut, Option.some.injEq, Prod.mk.injEq,
      reduceCtorEq, Option.ite_none_left_eq_some] at h
    all_goals first
      | rw [← h.2]
      | rw [← h.2.2]

theorem Observation.Truthful.store_eq_of_not_writes {o : Observation} (h : o.Truthful)
    (hw : ¬o.question.Writes) : o.after.store = o.before.store := by
  obtain hs | ⟨call, hq, ha⟩ := h.store_eq
  · exact hs
  · rw [ha]
    rw [hq] at hw
    cases call with
    | set k value ttl => exact absurd trivial hw
    | delete k => exact absurd trivial hw
    | _ => rfl

/-- A call about another key leaves a key as it was, at any moment. -/
theorem Observation.Truthful.live?_eq_of_key_ne {o : Observation} {call : Store.Call}
    {key : String} (h : o.Truthful) (hq : o.question = .store call) (hk : call.key ≠ key)
    (moment : Nat) : o.after.store.live? moment key = o.before.store.live? moment key := by
  obtain hs | ⟨call', hq', ha⟩ := h.store_eq
  · rw [hs]
  · cases hq.symm.trans hq'
    rw [ha]
    exact Store.Memory.live?_answer_of_key_ne hk moment

/-- What a question may not change is the same after it, at any moment. -/
theorem Observation.Truthful.live?_eq {o : Observation} {key : String} {keys : List String}
    (h : o.Truthful) (hc : o.question.Confined keys) (hk : key ∉ keys) (moment : Nat) :
    o.after.store.live? moment key = o.before.store.live? moment key := by
  by_cases hw : o.question.Writes
  · obtain ⟨call, hq, hmem⟩ := hc hw
    have hne : call.key ≠ key := fun he => hk (he ▸ hmem)
    exact h.live?_eq_of_key_ne hq hne moment
  · rw [h.store_eq_of_not_writes hw]

namespace Trace

variable {w : World} {tr newer older : Trace} {o : Observation} {key : String} {keys : List String}

/-- What the questions of a trace may not change is the same after it, at any moment. -/
theorem Alone.live?_eq (h : tr.Alone w) (hc : ∀ o ∈ tr, o.question.Confined keys)
    (hk : key ∉ keys) (moment : Nat) :
    (tr.world w).store.live? moment key = w.store.live? moment key := by
  induction tr with
  | nil => rfl
  | cons o tr ih =>
    have hold := ih h.2 fun x hx => hc x (List.mem_cons_of_mem _ hx)
    rw [← hold, ← h.1.1]
    exact h.1.2.live?_eq (hc o List.mem_cons_self) hk moment

theorem Alone.before_eq (h : tr.Alone w) (ho : o ∈ tr) :
    ∃ (newer older : Trace), tr = newer ++ o :: older ∧ o.before = older.world w := by
  obtain ⟨newer, older, rfl⟩ := List.append_of_mem ho
  exact ⟨newer, older, rfl, h.of_append.1.1⟩

theorem Solitary.directory_eq (h : tr.Solitary w) (he : ∀ o ∈ tr, ¬o.question.Edits) :
    (tr.world w).directory = w.directory := by
  induction tr with
  | nil => rfl
  | cons o tr ih =>
    show o.after.directory = w.directory
    rw [h.1.2.directory_eq (he o List.mem_cons_self), h.1.1.directory,
      ih h.2 fun x hx => he x (List.mem_cons_of_mem _ hx)]

/-- A trace of mere questions finds the directory as it was at the start. -/
theorem Solitary.before_directory_eq (h : tr.Solitary w) (he : ∀ o ∈ tr, ¬o.question.Edits)
    (ho : o ∈ tr) : o.before.directory = w.directory := by
  obtain ⟨newer, older, rfl⟩ := List.append_of_mem ho
  obtain ⟨⟨hb, -⟩, hold⟩ := h.of_append
  exact hb.directory.trans (Solitary.directory_eq hold fun x hx => he x (by simp [hx]))

theorem Alone.before_directory_eq (h : tr.Alone w) (he : ∀ o ∈ tr, ¬o.question.Edits)
    (ho : o ∈ tr) : o.before.directory = w.directory :=
  h.solitary.before_directory_eq he ho

theorem Solitary.store_eq (h : tr.Solitary w) (hw : tr.Writeless) :
    (tr.world w).store = w.store := by
  induction tr with
  | nil => rfl
  | cons o tr ih =>
    obtain ⟨ho, hw⟩ := writeless_cons.1 hw
    show o.after.store = w.store
    rw [h.1.2.store_eq_of_not_writes ho, h.1.1.store, ih h.2 hw]

theorem Solitary.before_store_eq (h : tr.Solitary w) (hw : tr.Writeless) (ho : o ∈ tr) :
    o.before.store = w.store := by
  obtain ⟨newer, older, rfl⟩ := List.append_of_mem ho
  obtain ⟨⟨hb, -⟩, hold⟩ := h.of_append
  exact hb.store.trans (Solitary.store_eq hold fun x hx => hw x (by simp [hx]))

/-- A trace of mere questions finds what was in the store at the start. -/
theorem Alone.get?_eq (h : tr.Alone w) (hw : tr.Writeless) (ho : o ∈ tr) :
    o.before.get? key = w.get? key := by
  obtain ⟨newer, older, rfl, hb⟩ := h.before_eq ho
  have hold := h.of_append.2
  have hwold : older.Writeless := fun x hx => hw x (by simp [hx])
  rw [hb, World.get?, World.get?, Alone.moment_eq hold, Store.Memory.get?_eq_map_live?,
    Store.Memory.get?_eq_map_live?, ← live?_of_writeless hold hwold]
  rfl

/-- What no change is about is left as it was. -/
theorem live?_of_confined (h : Alone w (newer ++ older)) (hw : older.Writeless)
    (hn : ∀ o ∈ newer, o.question.Confined keys) (hk : key ∉ keys) :
    live? w (newer ++ older) key = w.store.live? w.moment key := by
  rw [live?_append_of_leaves h fun o ho => ?_, live?_of_writeless h.of_append hw]
  by_cases hwr : o.question.Writes
  · obtain ⟨call, hq, hc⟩ := hn o ho hwr
    exact Observation.leaves_of_key_ne hq fun he => hk (he ▸ hc)
  · exact Observation.leaves_of_not_writes hwr

end Trace

end Gatehouse
