import Gatehouse.Proofs.Run.Alone

/-!
# Logs of runs

The log of a run holds the observations of all its requests in the order in which they were made
(`Logged`), so that calls of different requests can be compared. A run is taken apart at any entry
of its log into the run before that and the run after it (`Logged.split`), and the log tells of each
request that was started in the run all that the request observed (`Logged.mem`,
`Logged.exists_thread`). What a request observes when it goes on alone is the log of a run
(`Logged.alone`), and of one that consists of nothing but answers (`Answered.alone`).
-/

namespace Gatehouse.RunState

open Gatehouse.Action

variable {W : Workload} {S₀ S S' : RunState W} {i : Nat} {t : Thread W} {o : Observation}

/-- The observations of all requests in a run, the newest first, each with its request. -/
abbrev Log := List (Nat × Observation)

variable {log log' newer older : Log}

/-- Whether a run from one state to another has this log. -/
inductive Logged (S₀ : RunState W) : Log → RunState W → Prop where
  | nil : Logged S₀ [] S₀
  | quiet {log : Log} {S S' : RunState W} (h : Logged S₀ log S) (hs : Step S S')
      (hq : Quiet S S') : Logged S₀ log S'
  | observed {log : Log} {S S' : RunState W} {i : Nat} {tr : Trace} {o : Observation}
      (h : Logged S₀ log S) (hs : Step S S') (ho : Observed S S' i tr o) :
      Logged S₀ ((i, o) :: log) S'

/-- Whether a run of nothing but answers has this log. -/
inductive Answered (S₀ : RunState W) : Log → RunState W → Prop where
  | nil : Answered S₀ [] S₀
  | observed {log : Log} {S S' : RunState W} {i : Nat} {tr : Trace} {o : Observation}
      (h : Answered S₀ log S) (hs : Step S S') (ho : Observed S S' i tr o) :
      Answered S₀ ((i, o) :: log) S'

theorem Answered.logged (h : Answered S₀ log S) : Logged S₀ log S := by
  induction h with
  | nil => exact .nil
  | observed _ hs ho ih => exact ih.observed hs ho

theorem Logged.runs (h : Logged S₀ log S) : Runs S₀ S := by
  induction h with
  | nil => exact .refl
  | quiet _ hs _ ih => exact ih.tail hs
  | observed _ hs _ ih => exact ih.tail hs

theorem Logged.trans (h : Logged S₀ log S) (h' : Logged S log' S') :
    Logged S₀ (log' ++ log) S' := by
  induction h' with
  | nil => exact h
  | quiet _ hs hq ih => exact ih.quiet hs hq
  | observed _ hs ho ih => exact ih.observed hs ho

/-- An entry of a log was made in a step between two runs. -/
theorem Logged.split (h : Logged S₀ (newer ++ (i, o) :: older) S) :
    ∃ T T' tr, Logged S₀ older T ∧ Step T T' ∧ Observed T T' i tr o ∧ Logged T' newer S := by
  generalize hlog : newer ++ (i, o) :: older = log at h
  induction h generalizing newer with
  | nil => simp at hlog
  | quiet _ hs hq ih =>
    obtain ⟨T, T', tr, hT, hst, ho, hnew⟩ := ih hlog
    exact ⟨T, T', tr, hT, hst, ho, hnew.quiet hs hq⟩
  | @observed _ S S' _ tr _ h hs ho ih =>
    -- the last observation is the one that is meant, or it came after that one
    cases newer with
    | nil =>
      cases hlog
      exact ⟨S, S', tr, h, hs, ho, .nil⟩
    | cons e newer =>
      rw [List.cons_append] at hlog
      cases hlog
      obtain ⟨T, T', tr', hT, hst, ho', hnew⟩ := ih rfl
      exact ⟨T, T', tr', hT, hst, ho', hnew.observed hs ho⟩

theorem Logged.truthful (h : Logged S₀ log S) (hm : (i, o) ∈ log) : o.Truthful := by
  obtain ⟨newer, older, rfl⟩ := List.append_of_mem hm
  obtain ⟨T, T', tr, -, -, ho, -⟩ := h.split
  exact ho.truthful

theorem Logged.exists_thread (h : Logged S₀ log S) (hm : (i, o) ∈ log) :
    ∃ t, S.threads[i]? = some t ∧ o ∈ t.trace := by
  obtain ⟨newer, older, rfl⟩ := List.append_of_mem hm
  obtain ⟨T, T', tr, -, -, ho, hnew⟩ := h.split
  obtain ⟨r, a, second, next, -, -, ht⟩ := ho.thread
  obtain ⟨t, ht', -, hs⟩ := hnew.runs.thread ht
  exact ⟨t, ht', hs.subset List.mem_cons_self⟩

/-- What a request that was started in the run observed is logged. -/
theorem Logged.mem (h : Logged S₀ log S) (ht : S.threads[i]? = some t) (ho : o ∈ t.trace)
    (hi : S₀.threads.length ≤ i) : (i, o) ∈ log := by
  induction h generalizing t with
  | nil =>
    rw [List.getElem?_eq_none hi] at ht
    cases ht
  | quiet _ _ hq ih =>
    -- a request that has just been started has observed nothing
    obtain ht | ⟨-, r, rfl⟩ := hq.new i t ht
    · exact ih ht ho
    · cases ho
  | @observed _ _ _ j tr o' _ _ hobs ih =>
    by_cases hij : i = j
    · subst hij
      obtain ⟨r, a, second, next, ht₀, -, ht'⟩ := hobs.thread
      cases ht'.symm.trans ht
      rcases List.mem_cons.1 ho with rfl | ho
      · exact List.mem_cons_self
      · exact List.mem_cons_of_mem _ (ih ht₀ ho)
    · exact List.mem_cons_of_mem _ (ih ((hobs.others i hij).symm.trans ht) ho)

/-- A text that is there after a run was there before, or was written in it. -/
theorem Logged.written (h : Logged S₀ log S) {e : Store.Entry} (he : e ∈ S.world.store.entries) :
    e ∈ S₀.world.store.entries ∨ ∃ i o ttl, (i, o) ∈ log ∧
      o.question = .store (.set e.key e.value ttl) := by
  induction h with
  | nil => exact .inl he
  | quiet _ _ hq ih => exact ih (hq.store ▸ he)
  | @observed log T T' j tr o _ hs ho ih =>
    rw [ho.after] at he
    obtain hst | ⟨call, hq, hst⟩ := ho.truthful.store_eq
    · obtain h₀ | ⟨i, o', ttl, hm, hq'⟩ := ih (ho.before ▸ hst ▸ he)
      · exact .inl h₀
      · exact .inr ⟨i, o', ttl, List.mem_cons_of_mem _ hm, hq'⟩
    · rw [hst] at he
      obtain he | ⟨ttl, rfl, -⟩ := Store.Memory.mem_answer he
      · obtain h₀ | ⟨i, o', ttl, hm, hq'⟩ := ih (ho.before ▸ he)
        · exact .inl h₀
        · exact .inr ⟨i, o', ttl, List.mem_cons_of_mem _ hm, hq'⟩
      · exact .inr ⟨j, o, ttl, List.mem_cons_self, hq⟩

/-- A text that was there before a run is there after it, unless a call about its key is logged. -/
theorem Logged.stays (h : Logged S₀ log S) {e : Store.Entry} (he : e ∈ S₀.world.store.entries) :
    e ∈ S.world.store.entries ∨ ∃ i o, (i, o) ∈ log ∧ (o.question = .store (.delete e.key) ∨
      ∃ value ttl, o.question = .store (.set e.key value ttl)) := by
  induction h with
  | nil => exact .inl he
  | quiet _ _ hq ih =>
    rw [hq.store]
    exact ih
  | @observed log T T' j tr o _ hs ho ih =>
    obtain hT | ⟨i, o', hm, hq⟩ := ih
    · rw [ho.after]
      rw [ho.before] at hT
      obtain hst | ⟨call, hq, hst⟩ := ho.truthful.store_eq
      · exact .inl (hst ▸ hT)
      · obtain h' | rfl | ⟨value, ttl, rfl⟩ := Store.Memory.mem_answer_of_mem call hT
        · exact .inl (hst ▸ h')
        · exact .inr ⟨j, o, List.mem_cons_self, .inl hq⟩
        · exact .inr ⟨j, o, List.mem_cons_self, .inr ⟨value, ttl, hq⟩⟩
    · exact .inr ⟨i, o', List.mem_cons_of_mem _ hm, hq⟩

/-! ## Requests that run alone -/

variable {r : W.Request} {a b : Action (W.Result r)} {tr tr₀ : Trace}

theorem Answered.alone (ht : S.threads[i]? = some ⟨r, tr₀, a⟩) (hr : a.Reaches tr b)
    (ha : tr.Alone S.world) : Answered S (tr.map (i, ·))
      ⟨tr.world S.world, S.threads.set i ⟨r, tr ++ tr₀, b⟩⟩ := by
  have hi := (List.getElem?_eq_some_iff.1 ht).1
  induction hr with
  | start =>
    have hset : S.threads.set i ⟨r, tr₀, a⟩ = S.threads := by
      obtain ⟨_, he⟩ := List.getElem?_eq_some_iff.1 ht
      rw [← he, List.set_getElem_self]
    rw [List.nil_append, hset]
    exact .nil
  | @step tr b second q next hr ho before how x after ih =>
    -- alone, every call meets the world that the call before it left
    obtain ⟨hb, hx⟩ := ha.1
    dsimp only at hb
    subst hb
    have hti : (S.threads.set i ⟨r, tr ++ tr₀, b⟩)[i]? = some ⟨r, tr ++ tr₀, b⟩ :=
      List.getElem?_set_self hi
    have hx' : (tr.world S.world).answer? how q = some (x, after) := hx
    have hs := Step.answer (S := ⟨tr.world S.world, S.threads.set i ⟨r, tr ++ tr₀, b⟩⟩) hti ho hx'
    have hobs := observed_of_answer (S := ⟨tr.world S.world, S.threads.set i ⟨r, tr ++ tr₀, b⟩⟩)
      hti ho hx'
    rw [List.set_set] at hs hobs
    exact (ih ha.2).observed hs hobs

theorem Logged.alone (ht : S.threads[i]? = some ⟨r, tr₀, a⟩) (hr : a.Reaches tr b)
    (ha : tr.Alone S.world) : Logged S (tr.map (i, ·))
      ⟨tr.world S.world, S.threads.set i ⟨r, tr ++ tr₀, b⟩⟩ :=
  (Answered.alone ht hr ha).logged

/-- A request that has just started goes on alone. -/
theorem Answered.started (S : RunState W) (hr : (W.action r).Reaches tr b)
    (ha : tr.Alone S.world) :
    Answered { S with threads := S.threads ++ [⟨r, [], W.action r⟩] }
      (tr.map (S.threads.length, ·)) ⟨tr.world S.world, S.threads ++ [⟨r, tr, b⟩]⟩ := by
  have ht : (S.threads ++ [⟨r, [], W.action r⟩])[S.threads.length]? = some ⟨r, [], W.action r⟩ := by
    simp
  have halone := Answered.alone (S := ⟨S.world, _⟩) ht hr ha
  rwa [List.set_append_right _ _ (Nat.le_refl _), Nat.sub_self, List.append_nil] at halone

theorem Logged.started (S : RunState W) (hr : (W.action r).Reaches tr b) (ha : tr.Alone S.world) :
    Logged S (tr.map (S.threads.length, ·)) ⟨tr.world S.world, S.threads ++ [⟨r, tr, b⟩]⟩ := by
  have hstart := Logged.nil.quiet (.start S r) (quiet_start S r)
  simpa using hstart.trans (Answered.started S hr ha).logged

theorem Logged.played {rs : List (Bool × Reaction)}
    (h : play S.world rs ([], W.action r) = some (tr, b)) :
    Logged S (tr.map (S.threads.length, ·)) ⟨tr.world S.world, S.threads ++ [⟨r, tr, b⟩]⟩ := by
  obtain ⟨hr, ha⟩ := reaches_of_play h .start trivial
  exact .started S hr ha

theorem Runs.played {rs : List (Bool × Reaction)}
    (h : play S.world rs ([], W.action r) = some (tr, b)) :
    Runs S ⟨tr.world S.world, S.threads ++ [⟨r, tr, b⟩]⟩ :=
  (Logged.played h).runs

end Gatehouse.RunState
