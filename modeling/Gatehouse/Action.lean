import Gatehouse.Directory.Call
import Gatehouse.Store.Call

/-!
# Actions

An action is what the program does for one request: a tree of questions to its surroundings (the
credential store, the directory, the clock, the source of random values), each with what follows for
every answer. The same action can be run alone (`Action.run`) or taken apart step by step among
others. Two calls that are made at the same time are one question (`Action.both`), whose answers may
arise in either order.
-/

namespace Gatehouse

open Time (Instant)

/-- A question to the surroundings. -/
inductive Question where
  /-- A call to the credential store. -/
  | store (call : Store.Call)
  | directory (call : Directory.Call)
  | database
  | now
  | freshId
  /-- The sixteen octets of a new salt. -/
  | freshSalt
  deriving DecidableEq, Repr

/-- What a question is answered with. -/
abbrev Question.Answer : Question → Type
  | store call => Except Failure call.Reply
  | directory call => Except Failure call.Reply
  | database => Except Failure Bool
  | now => Instant
  | freshId => Uuid
  | freshSalt => Vector UInt8 16

/-- What the program does for one request. -/
inductive Action (α : Type) where
  /-- It is over, with a value or a failure. -/
  | done (result : Except Failure α)
  /-- It breaks off without a result. -/
  | crash
  /-- It asks, and goes on with the answer. -/
  | ask (r : Question) (next : r.Answer → Action α)
  /-- It asks two questions at the same time, and goes on when both are answered. -/
  | both (r s : Question) (next : r.Answer → s.Answer → Action α)

namespace Action

variable {α β : Type}

/-- One action after another; a failure of the first is the result of both. -/
def bind (a : Action α) (f : α → Action β) : Action β :=
  match a with
  | done (.ok x) => f x
  | done (.error e) => done (.error e)
  | crash => crash
  | ask r next => ask r fun x => (next x).bind f
  | both r s next => both r s fun x y => (next x y).bind f

instance : Monad Action where
  pure x := done (.ok x)
  bind := bind

/-- Ends with a failure. -/
def fail (e : Failure) : Action α := done (.error e)

/-- Ends with a value or a failure. -/
def ofExcept (r : Except Failure α) : Action α := done r

/-- The action with its result as a value: it never fails. -/
def attempt : Action α → Action (Except Failure α)
  | done r => done (.ok r)
  | crash => crash
  | ask r next => ask r fun x => (next x).attempt
  | both r s next => both r s fun x y => (next x y).attempt

/-- The action with its failure changed. -/
def mapFailure (f : Failure → Failure) : Action α → Action α
  | done r => done (r.mapError f)
  | crash => crash
  | ask r next => ask r fun x => (next x).mapFailure f
  | both r s next => both r s fun x y => (next x y).mapFailure f

/-- The action with what a caller may learn of its failure. -/
def surfacing (doing : String) (a : Action α) : Action α :=
  a.mapFailure (.surface doing)

/-- The value of an optional result, or a failure. -/
def orFail (e : Failure) : Option α → Action α
  | some x => pure x
  | none => fail e

/-! ## Questions -/

/-- Calls the credential store. -/
def callStore (call : Store.Call) : Action call.Reply :=
  ask (.store call) done

/-- Calls the directory. -/
def callDirectory (call : Directory.Call) : Action call.Reply :=
  ask (.directory call) done

/-- The time. -/
def now : Action Instant :=
  ask .now pure

/-- An identifier never used before. -/
def freshId : Action Uuid :=
  ask .freshId pure

/-- The octets of a new salt. -/
def freshSalt : Action (Vector UInt8 16) :=
  ask .freshSalt pure

/-- Two calls to the store at the same time, each with its result. -/
def bothStore (c d : Store.Call) : Action (Except Failure c.Reply × Except Failure d.Reply) :=
  both (.store c) (.store d) fun x y => pure (x, y)

/-! ## Running alone -/

/-- How an action ends. -/
inductive Outcome (α : Type) where
  /-- With a value or a failure. -/
  | finished (result : Except Failure α)
  | crashed

/-- Runs an action alone in surroundings that keep a state; of two questions asked at the same time
the first is answered first. -/
def run {σ : Type} (answer : (r : Question) → σ → r.Answer × σ) : Action α → σ → Outcome α × σ
  | done r, s => (.finished r, s)
  | crash, s => (.crashed, s)
  | ask r next, s =>
    let (x, s) := answer r s
    (next x).run answer s
  | both r q next, s =>
    let (x, s) := answer r s
    let (y, s) := answer q s
    (next x y).run answer s

/-! ## Laws -/

@[simp] theorem pure_bind (x : α) (f : α → Action β) : (pure x : Action α) >>= f = f x := rfl

@[simp] theorem fail_bind (e : Failure) (f : α → Action β) : (fail e : Action α) >>= f = fail e :=
  rfl

@[simp] theorem ask_bind (r : Question) (next : r.Answer → Action α) (f : α → Action β) :
    ask r next >>= f = ask r fun x => next x >>= f := rfl

@[simp] theorem both_bind (r s : Question) (next : r.Answer → s.Answer → Action α)
    (f : α → Action β) : both r s next >>= f = both r s fun x y => next x y >>= f := rfl

theorem bind_pure (a : Action α) : a >>= pure = a := by
  induction a with
  | done r => cases r <;> rfl
  | crash => rfl
  | ask r next ih => simp only [ask_bind, ih]
  | both r s next ih => simp only [both_bind, ih]

theorem bind_assoc {γ : Type} (a : Action α) (f : α → Action β) (g : β → Action γ) :
    a >>= f >>= g = a >>= fun x => f x >>= g := by
  induction a with
  | done r => cases r <;> rfl
  | crash => rfl
  | ask r next ih => simp only [ask_bind, ih]
  | both r s next ih => simp only [both_bind, ih]

end Action

end Gatehouse
