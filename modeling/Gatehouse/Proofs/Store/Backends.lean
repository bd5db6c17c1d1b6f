import Gatehouse.Proofs.Json.Literal
import Gatehouse.Proofs.Store.Memory
import Gatehouse.Store.Redis

/-!
# The two stores are interchangeable

A `Server` is a plain map of keys to texts, each absent once its time has elapsed, that executes the
commands of `Redis.command?` and refuses none of them. `Backend.memory` and `Backend.redis` are the
two stores as things that answer calls over time, where time is counted in ticks. They keep the same
texts for the same time (`Alike`), which every call preserves (`Alike.answer`), so a history of
calls has the same answers from both (`stores_interchangeable`).

A tick is any part of a millisecond: a server whose clock shows whole milliseconds has one tick a
millisecond, and with a tick of one nanosecond the calls may come at any moment.
-/

namespace Gatehouse.Store

open Time (Duration)

/-! ## A server -/

namespace Redis

/-- A text that a server keeps, and the tick from which it is absent. -/
structure Kept where
  text : String
  deadline : Nat

/-- What a server keeps under each key. -/
structure Server where
  kept? : String → Option Kept

namespace Server

/-- A server that keeps nothing. -/
def empty : Server := ⟨fun _ => none⟩

/-- The text of a key that is present at a tick. -/
def get? (s : Server) (now : Nat) (key : String) : Option String :=
  (s.kept? key).bind fun k => if now < k.deadline then some k.text else none

/-- The server with something else, or nothing, under a key. -/
def put (s : Server) (key : String) (k : Option Kept) : Server :=
  ⟨fun key' => if key' = key then k else s.kept? key'⟩

/-- A number of milliseconds in decimal digits. -/
def millis? (text : String) : Option Nat :=
  let ds := text.toList
  if ds ≠ [] ∧ ds.all Ascii.isDigit then some (Ascii.decimalValue ds) else none

/-- The reply to a command at a tick, of which there are so many a millisecond, and the server after
it. -/
def execute (rate now : Nat) (s : Server) : List String → Reply × Server
  | ["GET", key] =>
    match s.get? now key with
    | some text => (.bulk text, s)
    | none => (.nil, s)
  | ["SET", key, text, "PX", millis] =>
    match millis? millis with
    | some n => (.status "OK", s.put key (some ⟨text, now + rate * n⟩))
    | none => (.error "ERR value is not an integer or out of range", s)
  | ["DEL", key] => (.int (if (s.get? now key).isSome then 1 else 0), s.put key none)
  | ["EXISTS", key] => (.int (if (s.get? now key).isSome then 1 else 0), s)
  | ["PING"] => (.status "PONG", s)
  | _ => (.error "ERR unknown command", s)

variable {s : Server} {now : Nat} {key : String}

theorem get?_put (other : String) (k : Option Kept) : (s.put other k).get? now key =
    if key = other then k.bind fun k => if now < k.deadline then some k.text else none
    else s.get? now key := by
  by_cases h : key = other
  · simp only [get?, put, if_pos h]
  · simp only [get?, put, if_neg h]

/-- The digits of a number of milliseconds are read as that number. -/
theorem millis?_toString (n : Nat) : millis? (toString n) = some n := by
  have hv : Ascii.decimalValue (Nat.toDigits 10 n) = n := Nat.ofDigitChars_ten_toDigits
  have hd : (Nat.toDigits 10 n).all Ascii.isDigit = true :=
    List.all_eq_true.2 fun c => Json.isDigit_of_mem_toDigits
  simp [millis?, hd, hv, Nat.toDigits_ne_nil]

theorem execute_set {millis : String} {n : Nat} (h : millis? millis = some n)
    (rate : Nat) (text : String) : s.execute rate now ["SET", key, text, "PX", millis] =
      (.status "OK", s.put key (some ⟨text, now + rate * n⟩)) := by
  simp only [execute, h]

end Server

/-- The answer to a call that a server gives at a tick, and the server after it. A call that is
refused sends nothing. -/
def serve (keyStart : String) (rate now : Nat) (call : Call) (s : Server) :
    Except Failure call.Reply × Server :=
  (answer keyStart (fun command => (s.execute rate now command).1) call,
    match command? keyStart call with
    | .ok command => (s.execute rate now command).2
    | .error _ => s)

end Redis

/-! ## Histories -/

/-- What can happen to a store: a call, or the passing of some ticks. -/
inductive Event where
  | call (call : Call)
  | pass (ticks : Nat)

/-- How a store answers a call at a tick, with the store after it. -/
abbrev Answering (σ : Type) := Nat → (call : Call) → σ → Except Failure call.Reply × σ

/-- What a history comes to: the answers to its calls in their order, the last tick, and the store
then. -/
structure Ending (σ : Type) where
  answers : List ((call : Call) × Except Failure call.Reply)
  now : Nat
  store : σ

/-- The ending of a history that begins at a tick. -/
def history {σ : Type} (f : Answering σ) : List Event → Nat → σ → Ending σ
  | [], now, s => ⟨[], now, s⟩
  | .pass ticks :: events, now, s => history f events (now + ticks) s
  | .call call :: events, now, s =>
    let e := history f events now (f now call s).2
    { e with answers := ⟨call, (f now call s).1⟩ :: e.answers }

/-- The store in memory, which counts nanoseconds from some moment on. -/
def Memory.answering (start tick : Nat) : Answering Memory :=
  fun now => Memory.answer (start + tick * now)

/-- A server, which counts ticks of its own. -/
def Redis.answering (keyStart : String) (start rate : Nat) : Answering Redis.Server :=
  fun now => Redis.serve keyStart rate (start + now)

/-- Whether a text is to be kept for whole seconds whose milliseconds are a number of 64 bits. -/
def Call.Whole : Call → Prop
  | .set _ _ ttl => ∃ n, ttl = .ofSeconds n ∧ 1000 * n < 18446744073709551616
  | _ => True

/-- Whether the keeping of a text works as said: it is refused for no time at all, and then changes
nothing that is read later, under any key; else the text replaces what was under its key, for its
own time, and changes nothing under another key. -/
def Keeps {σ : Type} (f : Answering σ) (tick now : Nat) (s : σ) : Prop :=
  ∀ key value n, 1000 * n < 18446744073709551616 →
    (f now (.set key value (.ofSeconds n)) s).1 =
      (if n = 0 then .error (zeroTtl key) else .ok ()) ∧
    ∀ later, now ≤ later → ∀ other,
      (f later (.get other) (f now (.set key value (.ofSeconds n)) s).2).1 =
        if n ≠ 0 ∧ other = key then
          .ok (if tick * (later - now) < n * 1000000000 then some value else none)
        else (f later (.get other) s).1

/-! ## The same texts for the same time -/

section

variable {keyStart : String} {start base tick rate now : Nat} {m : Memory} {s : Redis.Server}

/-- Whether a store in memory and a server have the same text under every key, from a tick on. -/
def Alike (keyStart : String) (start base tick now : Nat) (m : Memory) (s : Redis.Server) : Prop :=
  ∀ later, now ≤ later → ∀ key,
    m.get? (start + tick * later) key = s.get? (base + later) (keyStart ++ key)

theorem Alike.later (h : Alike keyStart start base tick now m s) {later : Nat} (hle : now ≤ later) :
    Alike keyStart start base tick later m s :=
  fun t ht => h t (Nat.le_trans hle ht)

theorem alike_empty : Alike keyStart start base tick now .empty .empty := fun _ _ _ => rfl

/-- Whole seconds pass at the same tick for both. -/
theorem before_deadline_iff (base : Nat) (hrate : tick * rate = 1000000) {later n : Nat}
    (hle : now ≤ later) :
    start + tick * later < start + tick * now + n * 1000000000 ↔
      base + later < base + now + rate * (1000 * n) := by
  obtain ⟨k, rfl⟩ := Nat.exists_eq_add_of_le hle
  have htick : 0 < tick := Nat.pos_of_ne_zero fun h => by simp [h] at hrate
  have hn : n * 1000000000 = tick * (rate * (1000 * n)) := by
    rw [← Nat.mul_assoc, hrate]
    omega
  rw [hn, Nat.mul_add]
  constructor
  · intro h
    have hk : tick * k < tick * (rate * (1000 * n)) := by omega
    have := Nat.lt_of_mul_lt_mul_left hk
    omega
  · intro h
    have hk : k < rate * (1000 * n) := by omega
    have := Nat.mul_lt_mul_of_pos_left hk htick
    omega

theorem Memory.answer_set (moment : Nat) (key value : String) (n : Nat) :
    Memory.answer moment (.set key value (.ofSeconds n)) m =
      if n = 0 then (.error (zeroTtl key), m)
      else (.ok (), m.insert ⟨key, value, moment + n * 1000000000⟩) := by
  have hns : (Duration.ofSeconds n).nanos = n * 1000000000 := by simp only [Duration.ofSeconds]
  rw [Memory.answer, hns]
  by_cases h : n = 0
  · have hm : n * 1000000000 = 0 := by omega
    rw [if_pos h, if_pos hm]
  · have hm : n * 1000000000 ≠ 0 := by omega
    rw [if_neg h, if_neg hm]

/-- The milliseconds that are sent are not cut off. -/
theorem Redis.sentMillis_ofSeconds {n : Nat} (hn : 1000 * n < 18446744073709551616) :
    Redis.sentMillis (.ofSeconds n) = 1000 * n := by
  rw [Redis.sentMillis, Duration.millis_ofSeconds, Nat.mod_eq_of_lt hn]

theorem Redis.serve_of_command {call : Call} {command : List String}
    (h : Redis.command? keyStart call = .ok command) (moment : Nat) :
    Redis.serve keyStart rate moment call s =
      (Redis.interpret (s.execute rate moment command).1 call,
        (s.execute rate moment command).2) := by
  simp only [Redis.serve, Redis.answer, h]

theorem Redis.serve_of_refused {call : Call} {e : Failure}
    (h : Redis.command? keyStart call = .error e) (moment : Nat) :
    Redis.serve keyStart rate moment call s = (.error e, s) := by
  simp only [Redis.serve, Redis.answer, h]

/-- The milliseconds that are sent are always read, so a text is kept unless nothing is sent. -/
theorem Redis.serve_set (moment : Nat) (key value : String) (ttl : Duration) :
    Redis.serve keyStart rate moment (.set key value ttl) s =
      if Redis.sentMillis ttl = 0 then (.error (zeroTtl key), s)
      else (.ok (), s.put (keyStart ++ key)
        (some ⟨value, moment + rate * Redis.sentMillis ttl⟩)) := by
  by_cases h : Redis.sentMillis ttl = 0
  · rw [if_pos h, Redis.serve_of_refused (by rw [Redis.command?, if_pos h])]
  · rw [if_neg h, Redis.serve_of_command (by rw [Redis.command?, if_neg h]),
      Redis.Server.execute_set (Redis.Server.millis?_toString _)]
    rfl

theorem Redis.serve_set_ofSeconds (moment : Nat) (key value : String) {n : Nat}
    (hn : 1000 * n < 18446744073709551616) :
    Redis.serve keyStart rate moment (.set key value (.ofSeconds n)) s =
      if n = 0 then (.error (zeroTtl key), s)
      else (.ok (), s.put (keyStart ++ key) (some ⟨value, moment + rate * (1000 * n)⟩)) := by
  rw [Redis.serve_set, Redis.sentMillis_ofSeconds hn]
  by_cases h : n = 0
  · rw [if_pos h, if_pos (by omega)]
  · rw [if_neg h, if_neg (by omega)]

theorem Alike.set (hrate : tick * rate = 1000000) (h : Alike keyStart start base tick now m s)
    (key value : String) {n : Nat} (hn : 1000 * n < 18446744073709551616) :
    (Memory.answering start tick now (.set key value (.ofSeconds n)) m).1 =
      (Redis.answering keyStart base rate now (.set key value (.ofSeconds n)) s).1 ∧
    Alike keyStart start base tick now
      (Memory.answering start tick now (.set key value (.ofSeconds n)) m).2
      (Redis.answering keyStart base rate now (.set key value (.ofSeconds n)) s).2 := by
  rw [Memory.answering, Redis.answering, Memory.answer_set, Redis.serve_set_ofSeconds _ _ _ hn]
  by_cases h0 : n = 0
  · rw [if_pos h0, if_pos h0]
    exact ⟨rfl, h⟩
  rw [if_neg h0, if_neg h0]
  refine ⟨rfl, fun later hle other => ?_⟩
  rw [Memory.get?_insert, Redis.Server.get?_put]
  by_cases hk : other = key
  · subst hk
    rw [if_pos rfl, if_pos rfl, Option.bind_some]
    simp only [before_deadline_iff base hrate hle]
  · rw [if_neg hk, if_neg fun he => hk ((String.append_right_inj keyStart).1 he)]
    exact h later hle other

theorem Alike.answer (hrate : tick * rate = 1000000) (h : Alike keyStart start base tick now m s)
    {call : Call} (hc : call.Whole) :
    (Memory.answering start tick now call m).1 =
      (Redis.answering keyStart base rate now call s).1 ∧
    Alike keyStart start base tick now (Memory.answering start tick now call m).2
      (Redis.answering keyStart base rate now call s).2 := by
  cases call with
  | set key value ttl =>
    obtain ⟨n, rfl, hn⟩ := hc
    exact h.set hrate key value hn
  | get key =>
    have hk := h now (Nat.le_refl now) key
    simp only [Memory.answering, Memory.answer, Redis.answering, Redis.serve, Redis.answer,
      Redis.command?, Redis.Server.execute, hk]
    cases s.get? (base + now) (keyStart ++ key) <;> exact ⟨rfl, h⟩
  | isPresent key =>
    have hk := h now (Nat.le_refl now) key
    simp only [Memory.answering, Memory.answer, Redis.answering, Redis.serve, Redis.answer,
      Redis.command?, Redis.Server.execute, hk]
    cases s.get? (base + now) (keyStart ++ key) <;> exact ⟨rfl, h⟩
  | delete key =>
    refine ⟨rfl, fun later hle key' => ?_⟩
    show (m.erase key).get? _ _ = (s.put (keyStart ++ key) none).get? _ _
    rw [Memory.get?_erase, Redis.Server.get?_put]
    by_cases hk : key' = key
    · rw [if_pos hk, if_pos (by rw [hk]), Option.bind_none]
    · rw [if_neg hk, if_neg fun he => hk ((String.append_right_inj keyStart).1 he)]
      exact h later hle key'
  | health => exact ⟨rfl, h⟩

theorem Alike.history (hrate : tick * rate = 1000000) {events : List Event}
    (hw : ∀ call, .call call ∈ events → call.Whole)
    (h : Alike keyStart start base tick now m s) :
    (history (Memory.answering start tick) events now m).answers =
      (history (Redis.answering keyStart base rate) events now s).answers ∧
    (history (Memory.answering start tick) events now m).now =
      (history (Redis.answering keyStart base rate) events now s).now ∧
    Alike keyStart start base tick (history (Memory.answering start tick) events now m).now
      (history (Memory.answering start tick) events now m).store
      (history (Redis.answering keyStart base rate) events now s).store := by
  induction events generalizing now m s with
  | nil => exact ⟨rfl, rfl, h⟩
  | cons event events ih =>
    have hw' : ∀ call, .call call ∈ events → call.Whole :=
      fun call hm => hw call (List.mem_cons_of_mem _ hm)
    cases event with
    | pass ticks => exact ih hw' (h.later (Nat.le_add_right now ticks))
    | call call =>
      obtain ⟨hx, h'⟩ := h.answer hrate (hw call List.mem_cons_self)
      obtain ⟨hxs, hnow, hend⟩ := ih hw' h'
      exact ⟨by rw [Store.history, Store.history, hx, hxs], hnow, hend⟩

/-! ## Keeping a text -/

theorem Memory.keeps : Keeps (Memory.answering start tick) tick now m := by
  intro key value n hn
  simp only [Memory.answering, Memory.answer_set]
  by_cases h0 : n = 0
  · simp only [h0, if_true, ne_eq, not_true_eq_false, false_and, if_false, implies_true, and_self]
  refine ⟨by rw [if_neg h0, if_neg h0], fun later hle other => ?_⟩
  obtain ⟨k, rfl⟩ := Nat.exists_eq_add_of_le hle
  rw [if_neg h0]
  show Except.ok ((m.insert _).get? _ other) = _
  have hiff : start + tick * (now + k) < start + tick * now + n * 1000000000 ↔
      tick * (now + k - now) < n * 1000000000 := by
    rw [Nat.add_sub_cancel_left, Nat.mul_add]
    omega
  rw [Memory.get?_insert]
  by_cases hk : other = key
  · subst hk
    simp only [if_true, ne_eq, h0, not_false_eq_true, and_self, hiff]
  · rw [if_neg hk, if_neg fun h => hk h.2]
    rfl

/-- A server keeps texts as the store in memory does that is like it. -/
theorem Alike.keeps (hrate : tick * rate = 1000000) (h : Alike keyStart start base tick now m s) :
    Keeps (Redis.answering keyStart base rate) tick now s := by
  have read : ∀ {m s} {later : Nat}, Alike keyStart start base tick later m s → ∀ key,
      (Redis.answering keyStart base rate later (.get key) s).1 =
        (Memory.answering start tick later (.get key) m).1 :=
    fun h key => (h.answer hrate (show Call.Whole (.get key) from trivial)).1.symm
  intro key value n hn
  obtain ⟨hx, h'⟩ := h.set hrate key value hn
  have hm : Keeps (Memory.answering start tick) tick now m := Memory.keeps
  obtain ⟨hanswer, hlater⟩ := hm key value n hn
  refine ⟨hx.symm.trans hanswer, fun later hle other => ?_⟩
  rw [read (h'.later hle), read (h.later hle)]
  exact hlater later hle other

end

/-- A store in memory and a server that is reached under any start of keys answer every history of
calls alike, in which texts are kept for whole seconds. At any time of it, both refuse to keep a
text for no time at all, which leaves what is there with its time, and in both a text that is kept
replaces the one under its key together with its time. -/
theorem stores_interchangeable {tick rate : Nat} (hrate : tick * rate = 1000000)
    (keyStart : String) (start base : Nat) {events : List Event}
    (hw : ∀ call, .call call ∈ events → call.Whole) :
    let memory := history (Memory.answering start tick) events 0 .empty
    let redis := history (Redis.answering keyStart base rate) events 0 .empty
    memory.answers = redis.answers ∧
      Keeps (Memory.answering start tick) tick memory.now memory.store ∧
      Keeps (Redis.answering keyStart base rate) tick redis.now redis.store := by
  intro memory redis
  have hempty : Alike keyStart start base tick 0 .empty .empty := alike_empty
  obtain ⟨hanswers, hnow, halike⟩ := hempty.history hrate hw
  exact ⟨hanswers, Memory.keeps, hnow ▸ halike.keeps hrate⟩

/-- A text is kept, replaced by one for a shorter time, not replaced by one for no time, and read
until the shorter time is over; the server has a clock of milliseconds. -/
theorem small_history_answered_alike :
    let events : List Event := [.call (.set "a" "old" (.ofSeconds 60)), .pass 500,
      .call (.set "a" "new" (.ofSeconds 2)), .call (.set "a" "none" (.ofSeconds 0)), .pass 1999,
      .call (.get "a"), .pass 1, .call (.get "a"), .call (.isPresent "a"), .call (.delete "a")]
    let redis := history (Redis.answering "usersvc:" 5 1) events 0 .empty
    (history (Memory.answering 7 1000000) events 0 .empty).answers = redis.answers ∧
      redis.answers.map (·.1.name) =
        ["set", "set", "set", "get", "get", "exists", "delete"] ∧
      redis.answers[2]? = some ⟨.set "a" "none" (.ofSeconds 0), .error (zeroTtl "a")⟩ ∧
      redis.answers[3]? = some ⟨.get "a", .ok (some "new")⟩ ∧
      redis.answers[4]? = some ⟨.get "a", .ok none⟩ := by
  intro events redis
  obtain ⟨h, -⟩ := @stores_interchangeable 1000000 1 rfl "usersvc:" 7 5 events (by
      intro call hm
      simp only [events, List.mem_cons, Event.call.injEq, reduceCtorEq, List.not_mem_nil, or_false,
        false_or] at hm
      rcases hm with rfl | rfl | rfl | rfl | rfl | rfl | rfl
      · exact ⟨60, rfl, by decide⟩
      · exact ⟨2, rfl, by decide⟩
      · exact ⟨0, rfl, by decide⟩
      all_goals trivial)
  refine ⟨h, ?_⟩
  rw [show redis.answers = _ from h.symm]
  exact ⟨rfl, rfl, rfl, rfl⟩

end Gatehouse.Store
