import Gatehouse.Proofs.Session.Workload

/-!
# Reading sessions

A record that was kept is loaded as it was (`run_saveAndLoad`), in any surroundings that keep texts.
In a reachable state every text under the key of a session reads as a record (`reads_of_reachable`),
so a session can be loaded exactly when it is said to be live, and loading fails only if the call to
the store does (`Reads`).
-/

namespace Gatehouse.Session

open Gatehouse.Action RunState

/-! ## Keeping and loading -/

section

variable {σ : Type} {answer : (q : Question) → σ → q.Answer × σ} {state : σ} {session : Uuid}

/-- Whether a text that is reported to be kept is answered under its key. -/
def KeepsTexts (answer : (q : Question) → σ → q.Answer × σ) : Prop :=
  ∀ state key value ttl, (answer (.store (.set key value ttl)) state).1 = .ok () →
    (answer (.store (.get key)) (answer (.store (.set key value ttl)) state).2).1 =
      .ok (some value)

/-- Keeps a record, then loads it. -/
def saveAndLoad (session : Uuid) (r : SessionRecord) (ttl : Time.Duration) :
    Action (Option SessionRecord) := do
  callStore (saveCall session r ttl)
  load session

@[simp] theorem loaded_recordText (r : SessionRecord) :
    loaded (.ok (some (recordText r))) = .ok (some r) := by
  simp only [loaded, readRecord?_recordText]

theorem run_saveAndLoad (h : KeepsTexts answer) {r : SessionRecord} {ttl : Time.Duration}
    (hsave : (answer (.store (saveCall session r ttl)) state).1 = .ok ()) :
    ((saveAndLoad session r ttl).run answer state).1 = .finished (.ok (some r)) := by
  have hget := h state (storeKey session) (recordText r) ttl hsave
  have hset : ((saveAndLoad session r ttl).run answer state).1 =
      ((load session).run answer (answer (.store (saveCall session r ttl)) state).2).1 := by
    show ((Action.done (answer (.store (saveCall session r ttl)) state).1 >>=
      fun _ => load session).run answer _).1 = _
    rw [hsave]
    rfl
  rw [hset, load_eq]
  show Outcome.finished (loaded _) = _
  rw [saveCall, hget, loaded_recordText]

end

/-- A store in memory, at a moment that does not pass, with nothing else around it. -/
def memoryAlone (moment : Nat) : (q : Question) → Store.Memory → q.Answer × Store.Memory
  | .store call, m => Store.Memory.answer moment call m
  | .directory _, m => (.error (.internal "No directory"), m)
  | .database, m => (.ok false, m)
  | .now, m => (⟨0, 0⟩, m)
  | .freshId, m => (default, m)
  | .freshSalt, m => (.replicate 16 0, m)

theorem keepsTexts_memoryAlone (moment : Nat) : KeepsTexts (memoryAlone moment) := by
  intro m key value ttl hset
  simp only [memoryAlone, Store.Memory.answer] at hset ⊢
  split at hset
  · cases hset
  · rename_i h0
    have hlive : moment < moment + ttl.nanos := by omega
    rw [if_neg h0, Store.Memory.get?_insert, if_pos rfl, if_pos hlive]

/-! ## Reachable states -/

/-- Whether a session reads as a record, or as nothing, in a world. -/
structure Reads (w : World) (s : Uuid) (found : Option SessionRecord) : Prop where
  /-- A session that is loaded is found so, -/
  loads : play w [(false, .works)] ([], load s) =
    some ([⟨w, .store (.get (storeKey s)), .works, .ok (found.map recordText), w⟩],
      .done (.ok found))
  /-- it is said to be live if there is a record, -/
  lives : play w [(false, .works)] ([], isLive s) =
    some ([⟨w, .store (.isPresent (storeKey s)), .works, .ok found.isSome, w⟩],
      .done (.ok found.isSome))
  /-- and what fails is the call to the store. -/
  fails : ∀ how tr b e, play w [(false, how)] ([], load s) = some (tr, b) →
    b = .done (.error e) → how = .fails e ∨ how = .unseen e

variable {w : World} {s : Uuid} {v : Services} {S : RunState (workload v)}

theorem reads_of_get? {found : Option SessionRecord}
    (h : w.get? (storeKey s) = found.map recordText) : Reads w s found := by
  have hloaded : loaded (.ok (w.get? (storeKey s))) = .ok found := by
    rw [h]
    cases found with
    | none => rfl
    | some r => exact loaded_recordText r
  have hloads : play w [(false, .works)] ([], load s) =
      some ([⟨w, .store (.get (storeKey s)), .works, .ok (w.get? (storeKey s)), w⟩],
        .done (.ok found)) := by
    rw [load_eq, ← hloaded]
    rfl
  refine ⟨h ▸ hloads, ?_, fun how tr b e hp hb => ?_⟩
  · have hsome : found.isSome = (w.get? (storeKey s)).isSome := by
      rw [h, Option.isSome_map]
    rw [hsome]
    rfl
  · subst hb
    cases how with
    | works => cases hloads.symm.trans hp
    | fails e' | unseen e' =>
      rw [load_eq] at hp
      cases hp
      simp
    | shows | draws | salts | reports =>
      rw [load_eq] at hp
      cases hp

/-- Every text under the key of a session is the text of a record. -/
theorem reads_of_reachable (hS : S.Reachable) (s : Uuid) : ∃ found, Reads S.world s found := by
  cases hg : S.world.get? (storeKey s) with
  | none => exact ⟨none, reads_of_get? hg⟩
  | some text =>
    obtain ⟨e, he, -, -, rfl⟩ := Store.Memory.exists_of_get? hg
    obtain ⟨a, t, m, k, -, -, -, hv⟩ := attested hS he
    exact ⟨some (m.bound k), reads_of_get? (by rw [hg, hv]; rfl)⟩

/-- Whatever a record holds, it is loaded as it was kept, and no other record has its text. So in
every state that operations on sessions lead to, a session can be loaded exactly when it is said to
be live, and no text is found that does not read as a record. -/
theorem records_read_back (v : Services) :
    (∀ (σ : Type) (answer : (q : Question) → σ → q.Answer × σ), KeepsTexts answer →
      ∀ state session r ttl, (answer (.store (saveCall session r ttl)) state).1 = .ok () →
        ((saveAndLoad session r ttl).run answer state).1 = .finished (.ok (some r))) ∧
    (∀ r r', recordText r = recordText r' → r = r') ∧
    ∀ S : RunState (workload v), S.Reachable → ∀ s, ∃ found, Reads S.world s found :=
  ⟨fun _ _ h _ _ _ _ hsave => run_saveAndLoad h hsave, fun _ _ => recordText_injective,
    fun _ hS s => reads_of_reachable hS s⟩

/-- A record with control characters, quotes and letters of other scripts in its names. -/
def smallRecord : SessionRecord :=
  ⟨.ofNat 1, [⟨.ofNat 3, "zwei \"é\""⟩, ⟨.ofNat 2, "Admin\\\n"⟩], .ofList [("k\u0001", "𝄞")], none⟩

/-- The record is kept in memory and loaded, and of the two sessions of a login both are. -/
theorem small_records_read_back :
    ((saveAndLoad (.ofNat 9) smallRecord (.ofSeconds 60)).run (memoryAlone 5) .empty).1 =
        .finished (.ok (some smallRecord)) ∧
      ∃ tr rest, smallLogIn smallServices (smallReactions .works .works) = some (tr, rest) ∧
        ∃ found, Reads (smallState smallServices tr rest).world (.ofNat 4) (some found) := by
  obtain ⟨hread, -, hreach⟩ := records_read_back smallServices
  refine ⟨hread _ _ (keepsTexts_memoryAlone 5) _ _ _ _ rfl, ?_⟩
  obtain ⟨p, hp⟩ : ∃ p, smallLogIn smallServices (smallReactions .works .works) = some p :=
    Option.isSome_iff_exists.1 (by decide +kernel)
  have hlive : ((smallLogIn smallServices (smallReactions .works .works)).any fun p =>
      ((p.1.world smallWorld).get? (storeKey (.ofNat 4))).isSome) = true := by decide +kernel
  rw [hp] at hlive
  obtain ⟨found, hfound⟩ := hreach _ (smallState_reachable hp) (.ofNat 4)
  have hsome : found.isSome = true := by
    have hl : Action.done (.ok ((p.1.world smallWorld).get? (storeKey (.ofNat 4))).isSome) = _ :=
      congrArg Prod.snd (Option.some.inj hfound.lives)
    have hb := Except.ok.inj (Action.done.inj hl)
    exact hb.symm.trans hlive
  obtain ⟨r, rfl⟩ := Option.isSome_iff_exists.1 hsome
  exact ⟨p.1, p.2, hp, r, hfound⟩

end Gatehouse.Session
