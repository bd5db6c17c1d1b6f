import Gatehouse.Proofs.Session.Reading
import Gatehouse.Proofs.Store.Backends

/-!
# Services that share a server

Services with different starts of keys keep their sessions on one server. A start may begin with
another one, so that keys in general could coincide; those of sessions do not, because they all have
one length (`append_storeKey_inj`). What an operation on sessions is answered, and what it changes,
depends on its own key alone (`Store.Redis.serve_congr`, `Store.Redis.kept?_serve_of_ne`). So every
service is answered as if it were alone, however the operations of all of them are interleaved
(`services_separate`).
-/

namespace Gatehouse

open Gatehouse.Action

/-! ## One call to a server -/

namespace Store.Redis

variable {keyStart key : String} {rate now : Nat} {call : Call} {s s' : Server}

theorem Server.kept?_put_self (s : Server) (key : String) (k : Option Kept) :
    (s.put key k).kept? key = k := if_pos rfl

theorem Server.kept?_put_of_ne {other : String} (h : key ≠ other) (k : Option Kept) :
    (s.put other k).kept? key = s.kept? key := if_neg h

theorem Server.get?_congr (h : s.kept? key = s'.kept? key) : s.get? now key = s'.get? now key := by
  rw [get?, get?, h]

/-- A call leaves alone what is kept under other keys. -/
theorem kept?_serve_of_ne (h : key ≠ keyStart ++ call.key) :
    (serve keyStart rate now call s).2.kept? key = s.kept? key := by
  cases call with
  | set k value ttl =>
    rw [serve_set]
    split
    · rfl
    · exact Server.kept?_put_of_ne h _
  | delete k => exact Server.kept?_put_of_ne h none
  | get k =>
    show (s.execute rate now ["GET", keyStart ++ k]).2.kept? key = _
    rw [Server.execute]
    split <;> rfl
  | isPresent k => rfl
  | health => rfl

/-- What a call is answered, and what it leaves under its key, depends on what was kept there. -/
theorem serve_congr (h : s.kept? (keyStart ++ call.key) = s'.kept? (keyStart ++ call.key)) :
    (serve keyStart rate now call s).1 = (serve keyStart rate now call s').1 ∧
      (serve keyStart rate now call s).2.kept? (keyStart ++ call.key) =
        (serve keyStart rate now call s').2.kept? (keyStart ++ call.key) := by
  cases call with
  | set k value ttl =>
    rw [serve_set, serve_set]
    split
    · exact ⟨rfl, h⟩
    · exact ⟨rfl, (Server.kept?_put_self s _ _).trans (Server.kept?_put_self s' _ _).symm⟩
  | delete k => exact ⟨rfl, (Server.kept?_put_self s _ _).trans (Server.kept?_put_self s' _ _).symm⟩
  | get k =>
    have hget : s.get? now (keyStart ++ k) = s'.get? now (keyStart ++ k) := Server.get?_congr h
    simp only [serve, answer, command?, Server.execute, hget]
    cases s'.get? now (keyStart ++ k) <;> exact ⟨rfl, h⟩
  | isPresent k =>
    have hget : s.get? now (keyStart ++ k) = s'.get? now (keyStart ++ k) := Server.get?_congr h
    simp only [serve, answer, command?, Server.execute, hget]
    exact ⟨trivial, h⟩
  | health => exact ⟨rfl, h⟩

end Store.Redis

namespace Session

open Store.Redis (Server)

/-! ## The keys of sessions -/

theorem length_storeKey (s : Uuid) : (storeKey s).toList.length = 44 := by
  have htext : s.text.toList = s.chars := String.toList_ofList
  rw [storeKey, String.toList_append, List.length_append, htext, Uuid.length_chars]
  rfl

/-- The keys of sessions have one length, so a key on the server tells its start and its session. -/
theorem append_storeKey_inj {p q : String} {s t : Uuid} :
    p ++ storeKey s = q ++ storeKey t ↔ p = q ∧ s = t := by
  constructor
  · intro h
    rw [← String.toList_inj, String.toList_append, String.toList_append] at h
    have hlen : (storeKey s).toList.length = (storeKey t).toList.length := by
      rw [length_storeKey, length_storeKey]
    obtain ⟨hp, hs⟩ := List.append_inj' h hlen
    exact ⟨String.toList_inj.1 hp, storeKey_injective (String.toList_inj.1 hs)⟩
  · rintro ⟨rfl, rfl⟩
    rfl

/-! ## Operations on sessions -/

/-- An operation on the sessions of a service. -/
inductive Operation where
  | save (session : Uuid) (r : SessionRecord) (ttl : Time.Duration)
  | load (session : Uuid)
  | isLive (session : Uuid)
  | revoke (session : Uuid)

namespace Operation

/-- What an operation results in. -/
abbrev Result : Operation → Type
  | save _ _ _ => Unit
  | load _ => Option SessionRecord
  | isLive _ => Bool
  | revoke _ => Unit

/-- What an operation does. -/
def action : (op : Operation) → Action op.Result
  | save s r ttl => callStore (saveCall s r ttl)
  | load s => Session.load s
  | isLive s => Session.isLive s
  | revoke s => Session.revoke s

/-- The session that an operation is about. -/
def session : Operation → Uuid
  | save s _ _ | load s | isLive s | revoke s => s

/-- The one call that an operation makes. -/
def call : Operation → Store.Call
  | save s r ttl => saveCall s r ttl
  | load s => .get (storeKey s)
  | isLive s => .isPresent (storeKey s)
  | revoke s => revokeCall s

/-- What an operation makes of the answer to its call. -/
def read : (op : Operation) → Except Failure op.call.Reply → Except Failure op.Result
  | save _ _ _, x => x
  | load _, x => loaded x
  | isLive _, x => x
  | revoke _, x => x

theorem action_eq (op : Operation) :
    op.action = .ask (.store op.call) fun x => .done (op.read x) := by
  cases op with
  | load s => exact load_eq s
  | save | isLive | revoke => rfl

theorem key_call (op : Operation) : op.call.key = storeKey op.session := by
  cases op <;> rfl

/-- The key that is named to the server. -/
theorem key_of_command {keyStart verb key : String} {rest : List String} (op : Operation)
    (h : Store.Redis.command? keyStart op.call = .ok (verb :: key :: rest)) :
    keyStart ++ storeKey op.session = key := by
  cases op with
  | save s r ttl =>
    simp only [call, saveCall, Store.Redis.command?] at h
    split at h
    · cases h
    · cases h
      rfl
  | load | isLive | revoke =>
    cases h
    rfl

end Operation

/-! ## Services on one server -/

/-- A server that is reached under a start of keys, with nothing else around it. -/
def serverAlone (keyStart : String) (rate now : Nat) : (q : Question) → Server → q.Answer × Server
  | .store call, s => Store.Redis.serve keyStart rate now call s
  | q, s => ((memoryAlone now q .empty).1, s)

/-- What can happen to services that share a server: an operation of one of them, or the passing of
some ticks. -/
inductive SharedEvent (ι : Type) where
  | operation (service : ι) (op : Operation)
  | pass (ticks : Nat)

/-- Whether an event can concern a service. -/
def SharedEvent.concerns {ι : Type} [DecidableEq ι] (i : ι) : SharedEvent ι → Bool
  | operation j _ => j = i
  | pass _ => true

/-- How an operation of a service ended. -/
structure OperationEnd (ι : Type) where
  service : ι
  op : Operation
  outcome : Outcome op.Result

/-- How the operations of a history end, in their order, from a tick and a server on. -/
def endings {ι : Type} (keyStart : ι → String) (rate : Nat) :
    List (SharedEvent ι) → Nat → Server → List (OperationEnd ι)
  | [], _, _ => []
  | .pass ticks :: events, now, s => endings keyStart rate events (now + ticks) s
  | .operation i op :: events, now, s =>
    let (outcome, s') := op.action.run (serverAlone (keyStart i) rate now) s
    ⟨i, op, outcome⟩ :: endings keyStart rate events now s'

/-- Whether two servers keep the same for the sessions of the services with a start of keys. -/
def AgreeOn (p : String) (s s' : Server) : Prop :=
  ∀ session, s.kept? (p ++ storeKey session) = s'.kept? (p ++ storeKey session)

section

variable {p q : String} {s s' : Server} (rate now : Nat) (op : Operation)

theorem run_action : op.action.run (serverAlone p rate now) s =
    (.finished (op.read (Store.Redis.serve p rate now op.call s).1),
      (Store.Redis.serve p rate now op.call s).2) := by
  rw [op.action_eq]
  rfl

/-- Servers that agree on a service answer it alike, and agree on it afterwards. -/
theorem AgreeOn.own (h : AgreeOn p s s') :
    (op.action.run (serverAlone p rate now) s).1 = (op.action.run (serverAlone p rate now) s').1 ∧
      AgreeOn p (op.action.run (serverAlone p rate now) s).2
        (op.action.run (serverAlone p rate now) s').2 := by
  have hkey : s.kept? (p ++ op.call.key) = s'.kept? (p ++ op.call.key) := by
    rw [op.key_call]
    exact h op.session
  obtain ⟨hanswer, hkept⟩ := @Store.Redis.serve_congr p rate now op.call s s' hkey
  rw [run_action, run_action, hanswer]
  refine ⟨rfl, fun session => ?_⟩
  by_cases hs : p ++ storeKey session = p ++ op.call.key
  · rw [hs]
    exact hkept
  · exact (Store.Redis.kept?_serve_of_ne hs).trans
      ((h session).trans (Store.Redis.kept?_serve_of_ne hs).symm)

/-- What a service does leaves alone what is kept for another one. -/
theorem AgreeOn.other (h : AgreeOn p s s') (hne : p ≠ q) :
    AgreeOn p (op.action.run (serverAlone q rate now) s).2 s' := by
  intro session
  rw [run_action]
  refine (Store.Redis.kept?_serve_of_ne ?_).trans (h session)
  rw [op.key_call]
  exact fun he => hne (append_storeKey_inj.1 he).1

end

section

variable {ι : Type} [DecidableEq ι] {keyStart : ι → String}

/-- A service is answered alike in a history and in what of it concerns the service, by servers that
agree on it. -/
theorem AgreeOn.endings (hk : Function.Injective keyStart) {rate now : Nat} {s s' : Server} {i : ι}
    (h : AgreeOn (keyStart i) s s') (events : List (SharedEvent ι)) :
    (Session.endings keyStart rate events now s).filter (fun e => e.service = i) =
      Session.endings keyStart rate (events.filter fun e => e.concerns i) now s' := by
  induction events generalizing now s s' with
  | nil => rfl
  | cons event events ih =>
    cases event with
    | pass ticks => exact ih h
    | operation j op =>
      rw [Session.endings]
      by_cases hj : j = i
      · subst hj
        obtain ⟨houtcome, hafter⟩ := h.own rate now op
        rw [List.filter_cons_of_pos (by simp),
          List.filter_cons_of_pos (by simp [SharedEvent.concerns]), Session.endings, ih hafter,
          houtcome]
      · have hne : keyStart i ≠ keyStart j := fun he => hj (hk he).symm
        rw [List.filter_cons_of_neg (by simpa using hj),
          List.filter_cons_of_neg (by simpa [SharedEvent.concerns] using hj)]
        exact ih (h.other rate now op hne)

/-- Services with different starts of keys that share a server, in any number, never see the
sessions of each other: however their operations are interleaved, each of them is answered as if it
were alone with what it does and with the time that passes. No two commands for sessions name one
key of the server unless they are of one service and about one session. -/
theorem services_separate (hk : Function.Injective keyStart) :
    (∀ (events : List (SharedEvent ι)) (rate now : Nat) (s : Server) (i : ι),
      (endings keyStart rate events now s).filter (fun e => e.service = i) =
        endings keyStart rate (events.filter fun e => e.concerns i) now s) ∧
    ∀ (i j : ι) (op op' : Operation) (verb verb' key : String) (rest rest' : List String),
      Store.Redis.command? (keyStart i) op.call = .ok (verb :: key :: rest) →
      Store.Redis.command? (keyStart j) op'.call = .ok (verb' :: key :: rest') →
        i = j ∧ op.session = op'.session := by
  refine ⟨fun events rate now s i => AgreeOn.endings hk (fun _ => rfl) events, ?_⟩
  intro i j op op' verb verb' key rest rest' h h'
  have hkey := (op.key_of_command h).trans (op'.key_of_command h').symm
  obtain ⟨hstart, hs⟩ := append_storeKey_inj.1 hkey
  exact ⟨hk hstart, hs⟩

end

/-- Two services, of which the keys of one begin with nothing and those of the other with the text
that all keys of sessions begin with. -/
def twoStarts (nested : Bool) : String := if nested then "session:" else ""

/-- The two services keep the record of one session each, and one of them removes its own. -/
def twoHistory : List (SharedEvent Bool) :=
  [.operation true (.save (.ofNat 4) smallRecord (.ofSeconds 60)),
    .operation false (.save (.ofNat 4) smallRecord (.ofSeconds 60)), .pass 1000,
    .operation true (.revoke (.ofNat 4)), .operation false (.isLive (.ofNat 4)),
    .operation true (.isLive (.ofNat 4))]

theorem two_services_separate :
    twoStarts.Injective ∧
      (endings twoStarts 1 twoHistory 0 .empty).filter (fun e => e.service = false) =
        [⟨false, .save (.ofNat 4) smallRecord (.ofSeconds 60), .finished (.ok ())⟩,
          ⟨false, .isLive (.ofNat 4), .finished (.ok true)⟩] ∧
      (endings twoStarts 1 twoHistory 0 .empty).filter (fun e => e.service = true) =
        [⟨true, .save (.ofNat 4) smallRecord (.ofSeconds 60), .finished (.ok ())⟩,
          ⟨true, .revoke (.ofNat 4), .finished (.ok ())⟩,
          ⟨true, .isLive (.ofNat 4), .finished (.ok false)⟩] ∧
      Store.Redis.command? (twoStarts true) (Operation.revoke (.ofNat 4)).call =
        .ok ["DEL", "session:" ++ storeKey (.ofNat 4)] ∧
      Store.Redis.command? (twoStarts false) (Operation.isLive (.ofNat 4)).call ≠
        .ok ["EXISTS", "session:" ++ storeKey (.ofNat 4)] := by
  have hk : twoStarts.Injective := by
    intro a b
    revert a b
    decide
  obtain ⟨hown, hkeys⟩ := services_separate hk
  refine ⟨hk, (hown twoHistory 1 0 .empty false).trans rfl,
    (hown twoHistory 1 0 .empty true).trans rfl, rfl, fun h => ?_⟩
  have hsame := hkeys true false (.revoke (.ofNat 4)) (.isLive (.ofNat 4)) _ _ _ _ _ rfl h
  exact absurd hsame.1 (by decide)

end Session

end Gatehouse
