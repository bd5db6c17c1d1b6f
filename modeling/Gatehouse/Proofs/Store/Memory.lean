import Gatehouse.Store.Memory

/-!
# The texts of the store

What a call can do to the texts of the store (`mem_answer`), and what is present after it: a removed
key has no entry (`lacks_erase`), another key keeps its text (`live?_erase_of_ne`,
`live?_insert_of_ne`), and a call leaves under a key what `leaves` says (`live?_answer`).
-/

namespace Gatehouse.Store.Memory

variable {m : Memory} {now : Nat} {key : String} {e : Entry}

/-- The entry of a key that is present at a moment. -/
def live? (m : Memory) (now : Nat) (key : String) : Option Entry :=
  m.entries.find? fun e => e.key = key ∧ now < e.deadline

/-- Whether there is no entry of a key, present or not. -/
def Lacks (m : Memory) (key : String) : Prop := ∀ e ∈ m.entries, e.key ≠ key

theorem get?_eq_map_live? : m.get? now key = (m.live? now key).map Entry.value := rfl

theorem live?_eq_some (h : m.live? now key = some e) :
    e ∈ m.entries ∧ e.key = key ∧ now < e.deadline := by
  have hp := List.find?_some h
  simp only [decide_eq_true_eq] at hp
  exact ⟨List.mem_of_find?_eq_some h, hp⟩

theorem exists_of_get? {text : String} (h : m.get? now key = some text) :
    ∃ e ∈ m.entries, e.key = key ∧ now < e.deadline ∧ e.value = text := by
  obtain ⟨e, he, hv⟩ := Option.map_eq_some_iff.1 h
  obtain ⟨hm, hk, hd⟩ := live?_eq_some he
  exact ⟨e, hm, hk, hd, hv⟩

theorem exists_get?_of_mem (h : e ∈ m.entries) (hd : now < e.deadline) :
    ∃ text, m.get? now e.key = some text := by
  rw [get?_eq_map_live?]
  cases hl : m.live? now e.key with
  | some e' => exact ⟨_, rfl⟩
  | none =>
    have hno := List.find?_eq_none.1 hl e h
    simp [hd] at hno

theorem Lacks.live? (h : m.Lacks key) (now : Nat) : m.live? now key = none := by
  refine List.find?_eq_none.2 fun e he => ?_
  simp [h e he]

theorem Lacks.get? (h : m.Lacks key) (now : Nat) : m.get? now key = none := by
  rw [get?_eq_map_live?, h.live? now, Option.map_none]

/-! ## Removing -/

theorem lacks_erase : (m.erase key).Lacks key := by
  intro e he
  simpa using (List.mem_filter.1 he).2

theorem live?_erase_of_ne {other : String} (h : key ≠ other) :
    (m.erase other).live? now key = m.live? now key := by
  rw [live?, live?, erase, List.find?_filter]
  congr 1
  funext e
  by_cases hk : e.key = key
  · simp [hk, h]
  · simp [hk]

/-! ## Keeping -/

theorem live?_insert_of_ne (h : key ≠ e.key) : (m.insert e).live? now key = m.live? now key := by
  rw [live?, insert, List.find?_cons_of_neg (by simp [h.symm])]
  exact live?_erase_of_ne h

theorem live?_insert_self (h : now < e.deadline) : (m.insert e).live? now e.key = some e := by
  rw [live?, insert, List.find?_cons_of_pos (by simp [h])]

/-! ## What is read at any moment -/

theorem get?_erase (other : String) :
    (m.erase other).get? now key = if key = other then none else m.get? now key := by
  split
  · rename_i h
    exact h ▸ lacks_erase.get? now
  · rename_i h
    rw [get?_eq_map_live?, get?_eq_map_live?, live?_erase_of_ne h]

/-- A new text is read until its deadline, and the one that it replaces is not. -/
theorem get?_insert (e : Entry) : (m.insert e).get? now key =
    if key = e.key then if now < e.deadline then some e.value else none else m.get? now key := by
  by_cases hk : key = e.key
  · subst hk
    rw [if_pos rfl, get?_eq_map_live?]
    split
    · rename_i h
      rw [live?_insert_self h, Option.map_some]
    · rename_i h
      rw [live?, insert, List.find?_cons_of_neg (by simp [h])]
      exact congrArg _ (lacks_erase.live? now)
  · rw [if_neg hk, get?_eq_map_live?, get?_eq_map_live?, live?_insert_of_ne hk]

/-! ## Calls -/

/-- Every text is one that was there, or the one of the call. -/
theorem mem_answer {call : Call} (h : e ∈ (answer now call m).2.entries) :
    e ∈ m.entries ∨ ∃ ttl, call = .set e.key e.value ttl ∧ e.deadline = now + ttl.nanos := by
  cases call with
  | set key value ttl =>
    by_cases h0 : ttl.nanos = 0
    · exact .inl (by simpa only [answer, if_pos h0] using h)
    · simp only [answer, if_neg h0, insert, List.mem_cons] at h
      rcases h with rfl | h
      · exact .inr ⟨ttl, rfl, rfl⟩
      · exact .inl (List.mem_filter.1 h).1
  | delete key => exact .inl (List.mem_filter.1 h).1
  | get key => exact .inl h
  | isPresent key => exact .inl h
  | health => exact .inl h

/-- Every text that was there is still there, or the call is about its key. -/
theorem mem_answer_of_mem (call : Call) (h : e ∈ m.entries) :
    e ∈ (answer now call m).2.entries ∨ call = .delete e.key ∨
      ∃ value ttl, call = .set e.key value ttl := by
  have erased : ∀ k, e.key ≠ k → e ∈ (m.erase k).entries :=
    fun k hk => List.mem_filter.2 ⟨h, by simpa using hk⟩
  cases call with
  | set k value ttl =>
    by_cases h0 : ttl.nanos = 0
    · exact .inl (by simpa only [answer, if_pos h0] using h)
    · by_cases hk : e.key = k
      · exact .inr (.inr ⟨value, ttl, by rw [hk]⟩)
      · refine .inl ?_
        simp only [answer, if_neg h0, insert, List.mem_cons]
        exact .inr (erased k hk)
  | delete k =>
    by_cases hk : e.key = k
    · exact .inr (.inl (by rw [hk]))
    · exact .inl (erased k hk)
  | get k => exact .inl h
  | isPresent k => exact .inl h
  | health => exact .inl h

/-- What a call leaves under a key, if it changes that. -/
def leaves (now : Nat) (key : String) : Call → Option (Option Entry)
  | .set k value ttl =>
    if k = key ∧ ttl.nanos ≠ 0 then some (some ⟨k, value, now + ttl.nanos⟩) else none
  | .delete k => if k = key then some none else none
  | _ => none

theorem live?_answer (call : Call) :
    (answer now call m).2.live? now key = (leaves now key call).getD (m.live? now key) := by
  cases call with
  | set k value ttl =>
    by_cases h0 : ttl.nanos = 0
    · simp only [answer, leaves, h0, if_true, ne_eq, not_true_eq_false, and_false, if_false,
        Option.getD_none]
    · by_cases hk : k = key
      · subst hk
        simp only [answer, leaves, ne_eq, h0, not_false_eq_true, and_self, if_true,
          Option.getD_some]
        exact live?_insert_self (e := ⟨k, value, now + ttl.nanos⟩) (by dsimp only; omega)
      · simp only [answer, leaves, if_neg h0, hk, false_and, if_false, Option.getD_none]
        exact live?_insert_of_ne (e := ⟨k, value, now + ttl.nanos⟩) fun h => hk h.symm
  | delete k =>
    by_cases hk : k = key
    · subst hk
      simp only [answer, leaves, if_true, Option.getD_some]
      exact lacks_erase.live? now
    · simp only [answer, leaves, if_neg hk, Option.getD_none]
      exact live?_erase_of_ne fun h => hk h.symm
  | get k => rfl
  | isPresent k => rfl
  | health => rfl

/-- A call about another key leaves the entry of a key as it is, at any moment. -/
theorem live?_answer_of_key_ne {call : Call} (h : call.key ≠ key) (moment : Nat) :
    (answer now call m).2.live? moment key = m.live? moment key := by
  cases call with
  | set k value ttl =>
    have hk : key ≠ k := fun he => h he.symm
    by_cases h0 : ttl.nanos = 0
    · simp only [answer, if_pos h0]
    · simp only [answer, if_neg h0]
      exact live?_insert_of_ne hk
  | delete k => exact live?_erase_of_ne fun he => h he.symm
  | get k => rfl
  | isPresent k => rfl
  | health => rfl

end Gatehouse.Store.Memory
