import Gatehouse.Proofs.Api.Entitlement
import Gatehouse.Proofs.Session.Revocation

/-!
# Sessions of others

A request about sessions changes the records of a few sessions at most, and `Own` lists them: the
two that it opened, the one that it names, and the true other half of that one. What it finds in the
store cannot lead it further, for in a reachable state a record names the other session of its own
pair (`paired_of_saw`). Everything else keeps its text and its deadline, whichever calls fail
(`requests_change_own_sessions_only`).
-/

namespace Gatehouse.Session

open Gatehouse.Action RunState
open Api (keysOf pairOf Loads storeKey_mem_keysOf along_logIn_permitted along_refresh_permitted
  along_logoutPair_permitted confining_delete freeToLook_permitting)

variable {v : Services} {S : RunState (workload v)} {a b : Nat} {t u : Thread (workload v)}
  {m : Issuance}

/-! ## What a request may change -/

/-- When a request may change the store, and under which keys. -/
inductive Changes (v : Services) : Request → Trace → List String → Prop where
  | logIn {email password : String} {m : Issuance} {tr : Trace}
      (h : v.LogsIn email password m tr) :
      Changes v (.logIn email password) tr (keysOf [m.session .access, m.session .refresh])
  | refresh {token : String} {c : Claims} {old : SessionRecord} {m : Issuance} {tr : Trace}
      (h : v.Renews token c old m tr) :
      Changes v (.refresh token) tr
        (keysOf (pairOf c.session (some old) ++ [m.session .access, m.session .refresh]))
  | logout {s : Uuid} {tr : Trace} : Changes v (.logout s) tr (keysOf [s])
  | logoutPair {s : Uuid} {found : Option SessionRecord} {tr : Trace} (h : Loads s found tr) :
      Changes v (.logoutPair s) tr (keysOf (pairOf s found))

theorem along_logout_permitted (s : Uuid) :
    (logout s).Along (permitting (Changes v (.logout s))) (fun _ _ => True) [] := by
  have h : (logout s).Along (confining (keysOf [s])) (fun _ _ => True) [] :=
    ⟨confining_delete (storeKey_mem_keysOf List.mem_cons_self), fun _ _ _ _ _ => trivial⟩
  exact h.permitted ⟨[], [], rfl, Trace.writeless_nil, .logout, by simp⟩

theorem along_request_permitted (r : Request) :
    (r.action v).Along (permitting (Changes v r)) (fun _ _ => True) [] := by
  have hlook : FreeToLook (permitting (Changes v r)) := freeToLook_permitting
  cases r with
  | logIn email password => exact along_logIn_permitted fun _ _ h => .logIn h
  | refresh token => exact along_refresh_permitted fun _ _ _ _ h => .refresh h
  | logout s => exact along_logout_permitted s
  | logoutPair s =>
    exact along_logoutPair_permitted Trace.writeless_nil fun _ _ hl => .logoutPair hl
  | describe s => exact along_describe_free hlook s fun _ _ => trivial
  | authenticate token => exact along_authenticate_free hlook token fun _ _ => trivial
  | authorize token permission => exact along_authorize_free hlook token permission

/-! ## Pairs -/

/-- Whether two sessions are the two of one pair. -/
def Paired (S : RunState (workload v)) (s p : Uuid) : Prop :=
  ∃ (a : Nat) (t : Thread (workload v)) (m : Issuance) (k : TokenKind),
    S.threads[a]? = some t ∧ Minted v.issuer m t.trace ∧ s = m.session k ∧ p = m.session k.other

/-- The record of a session that a request is answered names the other session of its pair. -/
theorem paired_of_saw (hS : S.Reachable) (ht : S.threads[a]? = some t) {o : Observation}
    (ho : o ∈ t.trace) {s : Uuid} {text : String} {r : SessionRecord}
    (hs : o.Saw (.store (.get (storeKey s))) (.ok (some text))) (hr : readRecord? text = some r) :
    ∃ p, r.pairedWith = some p ∧ Paired S s p := by
  obtain ⟨T, hT, hrun, hg⟩ := exists_state_of_saw hS ht ho hs
  obtain ⟨e, he, hk, -, rfl⟩ := Store.Memory.exists_of_get? hg
  obtain ⟨b, u, m, k, hu, hm, hkey, hvalue⟩ := attested hT he
  obtain ⟨u', hu', -, hsuf⟩ := hrun.thread hu
  rw [hvalue, readRecord?_recordText] at hr
  cases hr
  exact ⟨m.session k.other, rfl, b, u', m, k, hu', hm.extend hsuf,
    storeKey_injective (hk.symm.trans hkey), rfl⟩

/-- The sessions that a request may change, by what it has observed. -/
inductive Own (S : RunState (workload v)) : Request → Trace → List Uuid → Prop where
  | none (r : Request) (tr : Trace) : Own S r tr []
  | logIn {email password : String} {m : Issuance} {tr : Trace} (h : Minted v.issuer m tr) :
      Own S (.logIn email password) tr [m.session .access, m.session .refresh]
  | refresh {token : String} {now : Time.Instant} {c : Claims} {p : Uuid} {m : Issuance}
      {tr : Trace} (hv : v.verifier.verify .refresh now token = .ok c) (hp : Paired S c.session p)
      (h : Minted v.issuer m tr) :
      Own S (.refresh token) tr [c.session, p, m.session .access, m.session .refresh]
  | logout {s : Uuid} {tr : Trace} : Own S (.logout s) tr [s]
  | logoutPair {s : Uuid} {tr : Trace} : Own S (.logoutPair s) tr [s]
  | logoutBoth {s p : Uuid} {tr : Trace} (hp : Paired S s p) : Own S (.logoutPair s) tr [s, p]

/-- What a request may change belongs to its own sessions. -/
theorem Changes.own (hS : S.Reachable) (ht : S.threads[a]? = some t) {older : Trace}
    (hs : older <:+ t.trace) {keys : List String} (h : Changes v t.request older keys) :
    ∃ own, Own S t.request t.trace own ∧ keys = keysOf own := by
  obtain ⟨r, tr, rest⟩ := t
  dsimp only at hs h ⊢
  cases h with
  | logIn h => exact ⟨_, .logIn (h.minted.extend hs), rfl⟩
  | @refresh token c old m older h =>
    obtain ⟨o, now, -, -, hv⟩ := h.presented.verified
    obtain ⟨o', text, ho', hs', hr⟩ := h.presented.loaded
    obtain ⟨p, hp, hpair⟩ := paired_of_saw hS ht (hs.subset ho') hs' hr
    refine ⟨_, .refresh hv hpair (h.minted.extend hs), ?_⟩
    simp [pairOf, hp]
  | logout => exact ⟨_, .logout, rfl⟩
  | @logoutPair s found older h =>
    obtain ⟨o, x, ho, hs', hx⟩ := h
    cases found with
    | none => exact ⟨_, .logoutPair, rfl⟩
    | some r =>
      obtain ⟨text, rfl, hr⟩ := loaded_eq_some hx
      obtain ⟨p, hp, hpair⟩ := paired_of_saw hS ht (hs.subset ho) hs' hr
      refine ⟨_, .logoutBoth hpair, ?_⟩
      simp [pairOf, hp]

/-- No call of a request is about other keys than those of its own sessions. -/
theorem exists_own (hS : S.Reachable) (ht : S.threads[a]? = some t) :
    ∃ own, Own S t.request t.trace own ∧
      ∀ o ∈ t.trace, o.question.Confined (keysOf own) := by
  have hall := ((hS.reaches ht).along (along_request_permitted t.request) (Trace.all_true _)).2
  obtain hw | ⟨keys, newer, older, htr, hw, hc, hn⟩ := scoped_of_permitted hall
  · exact ⟨[], .none _ _, fun o ho => Question.confined_of_not_writes (hw o ho) _⟩
  · have hsuf : older <:+ t.trace := ⟨newer, htr.symm⟩
    obtain ⟨own, hown, rfl⟩ := hc.own hS ht hsuf
    refine ⟨own, hown, fun o ho => ?_⟩
    rw [htr] at ho
    rcases List.mem_append.1 ho with ho | ho
    · exact hn o ho
    · exact Question.confined_of_not_writes (hw o ho) _

/-! ## Other sessions -/

/-- Whether a request names a session: to end it, or by a refresh token that is accepted. -/
inductive Names (v : Services) : Request → Uuid → Prop where
  | logout (s : Uuid) : Names v (.logout s) s
  | logoutPair (s : Uuid) : Names v (.logoutPair s) s
  | refresh {token : String} {now : Time.Instant} {c : Claims}
      (h : v.verifier.verify .refresh now token = .ok c) : Names v (.refresh token) c.session

theorem not_paired_of_other (hS : S.Reachable) (hu : S.threads[b]? = some u)
    (hm : Minted v.issuer m u.trace) {s p : Uuid} (hs : ∀ k, s ≠ m.session k)
    (h : Paired S s p) (k : TokenKind) : p ≠ m.session k := by
  obtain ⟨a, t, m', j, ht, hm', rfl, rfl⟩ := h
  intro he
  obtain ⟨-, rfl, -⟩ := hm'.unique hS ht hu hm he
  exact hs j rfl

/-- The sessions of another request are not among the own ones of a request that names neither of
them. -/
theorem Own.not_mem (hS : S.Reachable) (ht : S.threads[a]? = some t)
    (hu : S.threads[b]? = some u) (hab : b ≠ a) (hm : Minted v.issuer m u.trace)
    (hn : ∀ k, ¬Names v t.request (m.session k)) {own : List Uuid}
    (h : Own S t.request t.trace own) (k : TokenKind) : m.session k ∉ own := by
  have new : ∀ {m'}, Minted v.issuer m' t.trace → ∀ j, m.session k ≠ m'.session j :=
    fun hm' j he => hab (hm.unique hS hu ht hm' he).1
  obtain ⟨r, tr, rest⟩ := t
  dsimp only at h hn new
  cases h with
  | none => simp
  | logIn h => simp [new h]
  | @refresh token now c p m' tr hv hp h =>
    have hs : ∀ j, c.session ≠ m.session j := fun j he => hn j (he ▸ .refresh hv)
    simp [new h, (hs k).symm, (not_paired_of_other hS hu hm hs hp k).symm]
  | @logout s =>
    have hs : s ≠ m.session k := fun he => hn k (he ▸ .logout s)
    simp [hs.symm]
  | @logoutPair s =>
    have hs : s ≠ m.session k := fun he => hn k (he ▸ .logoutPair s)
    simp [hs.symm]
  | @logoutBoth s p _ hp =>
    have hs : ∀ j, s ≠ m.session j := fun j he => hn j (he ▸ .logoutPair s)
    simp [(hs k).symm, (not_paired_of_other hS hu hm hs hp k).symm]

/-- Whether a request only asks about a session. -/
def Request.Reads : Request → Prop
  | .describe _ | .authenticate _ | .authorize _ _ => True
  | _ => False

theorem Own.eq_nil {r : Request} {tr : Trace} {own : List Uuid} (h : Own S r tr own)
    (hr : r.Reads) : own = [] := by
  cases h with
  | none => rfl
  | _ => exact hr.elim

theorem not_mem_keysOf {s : Uuid} {own : List Uuid} (h : s ∉ own) : storeKey s ∉ keysOf own := by
  intro hk
  obtain ⟨s', hs', he⟩ := List.mem_map.1 hk
  exact h (storeKey_injective he ▸ hs')

/-- A request changes the records of its own sessions at most, and one that only asks changes none:
with each of its calls, and as a whole if it runs alone, every other record keeps its text and its
deadline. The sessions of another request are not among its own, unless it names one of them. -/
theorem requests_change_own_sessions_only (hS : S.Reachable) (ht : S.threads[a]? = some t) :
    ∃ own, Own S t.request t.trace own ∧ (t.request.Reads → own = []) ∧
      (∀ o ∈ t.trace, ∀ key ∉ keysOf own, ∀ moment,
        o.after.store.live? moment key = o.before.store.live? moment key) ∧
      (∀ w, t.trace.Alone w → ∀ key ∉ keysOf own, ∀ moment,
        (t.trace.world w).store.live? moment key = w.store.live? moment key) ∧
      ∀ (b : Nat) (u : Thread (workload v)) (m : Issuance), b ≠ a → S.threads[b]? = some u →
        Minted v.issuer m u.trace → (∀ k, ¬Names v t.request (m.session k)) →
        ∀ k, storeKey (m.session k) ∉ keysOf own := by
  obtain ⟨own, hown, hconf⟩ := exists_own hS ht
  refine ⟨own, hown, hown.eq_nil, fun o ho key hk moment => ?_, fun w ha key hk moment => ?_,
    fun b u m hab hu hm hn k => not_mem_keysOf (hown.not_mem hS ht hu hab hm hn k)⟩
  · obtain ⟨older, hs⟩ := Trace.exists_suffix_of_mem ho
    obtain ⟨_, _, -, -, hobs, -⟩ := hS.observed ht hs
    exact hobs.truthful.live?_eq (hconf o ho) hk moment
  · exact ha.live?_eq hconf hk moment

/-- The user of the small world logs in twice, and the first pair is ended: the sessions of the
second login are left as they were. -/
theorem second_login_survives_end_of_first :
    ∃ (S : RunState (workload smallServices)) (pair pair' : TokenPair) (w : World) (tr : Trace),
      S.Reachable ∧ (∃ t, S.threads[0]? = some t ∧ Returned pair t) ∧
      (∃ t, S.threads[1]? = some t ∧ Returned pair' t) ∧
      S.threads[2]? = some ⟨.logoutPair (pair.token .access).session, tr, .done (.ok ())⟩ ∧
      tr.Alone w ∧ S.world = tr.world w ∧ ∀ k, LiveIn w (pair'.token k).session ∧ ∀ moment,
        S.world.store.live? moment (storeKey (pair'.token k).session) =
          w.store.live? moment (storeKey (pair'.token k).session) := by
  obtain ⟨tr₁, pair, tr₂, pair', r, h₁, h₂, hg, hp, ha, hr⟩ : ∃ tr₁ pair tr₂ pair' r,
      smallLogIn smallServices (smallReactions .works .works) = some (tr₁, .done (.ok pair)) ∧
      play (tr₁.world smallWorld) [(false, .works), (false, .works), (false, .shows ⟨1005, 0⟩),
        (false, .draws (.ofNat 6)), (false, .draws (.ofNat 7)), (false, .works), (false, .works)]
        ([], smallServices.logIn "ada@example.com" "secret") = some (tr₂, .done (.ok pair')) ∧
      (tr₂.world (tr₁.world smallWorld)).get? (storeKey (pair.token .access).session) =
        some (recordText r) ∧
      r.pairedWith = some (pair.token .refresh).session ∧
      LiveIn (tr₂.world (tr₁.world smallWorld)) (pair'.token .access).session ∧
      LiveIn (tr₂.world (tr₁.world smallWorld)) (pair'.token .refresh).session :=
    ⟨_, _, _, _, (SessionRecord.fresh (.ofNat 1) [⟨.ofNat 2, "Admin"⟩]).bind (.ofNat 5),
      rfl, rfl, rfl, rfl, ⟨_, rfl⟩, ⟨_, rfl⟩⟩
  obtain ⟨l, d, d', -, -, h₃⟩ := exists_play_logoutPair hg hp
  let w := tr₂.world (tr₁.world smallWorld)
  have halone := (reaches_of_play h₃ .start trivial).2
  have hS := ((smallState_reachable h₁).runs (Runs.played (W := workload smallServices)
    (r := .logIn "ada@example.com" "secret") h₂)).runs (Runs.played (W := workload smallServices)
    (r := .logoutPair (pair.token .access).session) h₃)
  obtain ⟨m, hm, rfl⟩ := Returned.logIn.minted hS (a := 0) rfl
  obtain ⟨m', hm', rfl⟩ := Returned.logIn.minted hS (a := 1) rfl
  obtain ⟨own, -, -, -, hsame, hothers⟩ := requests_change_own_sessions_only hS (a := 2) rfl
  refine ⟨_, m.pair _, m'.pair _, w, _, hS, ⟨_, rfl, .logIn⟩, ⟨_, rfl, .logIn⟩, rfl, halone, rfl,
    fun k => ⟨by cases k <;> assumption, fun moment => ?_⟩⟩
  rw [Issuance.pair_token m']
  refine hsame w halone _ (hothers 1 _ m' (by decide) rfl hm' (fun j hj => ?_) k) moment
  -- the session that is named is one of the first login
  generalize hs : m'.session j = s at hj
  cases hj
  cases (hm'.unique hS (a := 1) (b := 0) rfl rfl hm hs).1

end Gatehouse.Session
