import Gatehouse.Store.Memory
import Gatehouse.Store.Redis

/-!
# How stores fail

`Failing call` are the failures that a call to a store of the program can have: what the store in
memory refuses, what is not sent to a server or comes back from it as an error, that the server
cannot be reached, and that the call took too long. All of them are failures on this side of the
wire (`Failing.isServerSide`).
-/

namespace Gatehouse.Store

variable {call : Call} {e : Failure}

/-- What a call to a store can fail with. -/
inductive Failing (call : Call) : Failure → Prop where
  | memory {now : Nat} {m m' : Memory} {e : Failure}
      (h : Memory.answer now call m = (.error e, m')) : Failing call e
  | redis {keyStart : String} {server : List String → Redis.Reply} {e : Failure}
      (h : Redis.answer keyStart server call = .error e) : Failing call e
  | unreachable : Failing call Redis.unreachable
  /-- A call of the other cases that is only given some time. -/
  | bounded {millis : Nat} {answer : Option (Except Failure call.Reply)} {e : Failure}
      (inner : ∀ e, answer = some (.error e) → Failing call e)
      (h : bounded millis call answer = .error e) : Failing call e

/-- The store in memory refuses only to keep a text for no time at all. -/
theorem Memory.error_of_answer {now : Nat} {m m' : Memory}
    (h : Memory.answer now call m = (.error e, m')) : ∃ key, e = zeroTtl key := by
  cases call with
  | set key value ttl =>
    rw [Memory.answer] at h
    split at h
    · cases h
      exact ⟨key, rfl⟩
    · cases h
  | get | delete | isPresent | health => cases h

namespace Redis

theorem Reply.error_of_text? {reply : Reply} (h : reply.text? = .error e) : e = failure := by
  cases reply <;> cases h
  rfl

theorem Reply.error_of_flag? {reply : Reply} (h : reply.flag? = .error e) : e = failure := by
  unfold Reply.flag? at h
  split at h <;> cases h <;> rfl

theorem Reply.error_of_done? {reply : Reply} (h : reply.done? = .error e) : e = failure := by
  cases reply <;> cases h
  rfl

theorem error_of_command? {keyStart : String} (h : command? keyStart call = .error e) :
    ∃ key, e = zeroTtl key := by
  cases call with
  | set key value ttl =>
    rw [command?] at h
    split at h
    · cases h
      exact ⟨key, rfl⟩
    · cases h
  | get | delete | isPresent | health => cases h

/-- A reply is read as no other failure but the one of a command. -/
theorem error_of_interpret {reply : Reply} (h : interpret reply call = .error e) :
    e = failure := by
  cases call with
  | get => exact Reply.error_of_text? h
  | set => exact Reply.error_of_done? h
  | delete => exact Reply.error_of_done? h
  | isPresent => exact Reply.error_of_flag? h
  | health =>
    rw [interpret] at h
    split at h
    · cases h
    · cases h
      rfl
    · rename_i e' he
      cases h
      exact Reply.error_of_text? he

theorem error_of_answer {keyStart : String} {server : List String → Reply}
    (h : answer keyStart server call = .error e) : e = failure ∨ ∃ key, e = zeroTtl key := by
  rw [answer] at h
  split at h
  · rename_i e' he
    cases h
    exact .inr (error_of_command? he)
  · exact .inl (error_of_interpret h)

end Redis

/-- However a store fails, it fails on this side of the wire. -/
theorem Failing.isServerSide (h : Failing call e) : e.kind.isServerSide = true := by
  induction h with
  | memory h =>
    obtain ⟨key, rfl⟩ := Memory.error_of_answer h
    rfl
  | redis h =>
    obtain rfl | ⟨key, rfl⟩ := Redis.error_of_answer h <;> rfl
  | unreachable => rfl
  | @bounded millis answer e _ h ih =>
    cases answer with
    | none =>
      cases h
      rfl
    | some x => exact ih e (congrArg some h)

end Gatehouse.Store
