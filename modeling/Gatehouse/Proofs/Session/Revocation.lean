import Gatehouse.Proofs.Session.Finality

/-!
# Ending a session and its pair

A session that is gone is over for whoever shows its token (`Gone.ended`). `logoutPair` ends the
session that it is asked for; it ends the other session of the pair too if it found the record of
the first (`logoutPair_ends_found_pair`). A session that is over already has no record that could
name the other one, which then goes on (`logoutPair_leaves_other_half`).
-/

namespace Gatehouse.Session

open Gatehouse.Action RunState

variable {v : Services} {S₀ S S' : RunState (workload v)} {a b : Nat} {t u : Thread (workload v)}
  {m : Issuance} {k : TokenKind}

/-! ## Requests with a token whose session is over -/

/-- Whether a request shows a token for what its kind is for. -/
def Shows (token : String) : TokenKind → Request → Prop
  | .access, r => r = .authenticate token ∨ ∃ permission, r = .authorize token permission
  | .refresh, r => r = .refresh token

theorem Shows.concerns {token : String} {s : Uuid} {r : Request} (h : Shows token k r)
    (hb : Bears v k token s) : Concerns v s r := by
  cases k with
  | access =>
    obtain rfl | ⟨permission, rfl⟩ := h
    · exact hb
    · exact hb
  | refresh =>
    obtain rfl := h
    exact hb

/-- Whether the session of a token is over for good. -/
structure Ended (S : RunState (workload v)) (token : IssuedToken) (k : TokenKind) : Prop where
  not_live : ∀ S', Runs S S' → ¬LiveIn S'.world token.session
  refused : ∀ S' b u, Runs S S' → S'.threads[b]? = some u → S.threads.length ≤ b →
    Shows token.text k u.request → ∀ x, u.rest ≠ .done (.ok x)

theorem Gone.ended {s : Settings.AuthSettings} (hv : v.Configured s) (h : Gone m k S) :
    Ended S (m.token v.issuer k) k := by
  obtain ⟨_, _, -, -, hm⟩ := h.spent
  have hb := bears_token (hv.key_eq k) hm.fits
  exact ⟨h.final.not_live, fun S' b u hr hu hl hsh =>
    (h.final.hopeless S' b u hr hu hl (hsh.concerns hb)).fails⟩

/-! ## Ending a pair -/

/-- How the ending of a pair goes if it succeeds, with all that is observed of it. -/
inductive PairEnded (m : Issuance) (k : TokenKind) : Trace → Prop where
  | absent {l d : Observation} (hno : ¬LiveIn l.before (m.session k))
      (hd : d.Saw (.store (revokeCall (m.session k))) (.ok ())) : PairEnded m k [d, l]
  | found {l d d' : Observation} (hd : d.Saw (.store (revokeCall (m.session k))) (.ok ()))
      (hd' : d'.Saw (.store (revokeCall (m.session k.other))) (.ok ())) : PairEnded m k [d', d, l]

theorem along_logoutPair :
    (logoutPair (m.session k)).Along (readingTerms m)
      (fun tr out => out = .finished (.ok ()) → PairEnded m k tr) [] := by
  refine along_bind.2 (along_mapFailure.2 (along_load.2 ⟨trivial, fun b how x a hr => ?_⟩))
  obtain ⟨hx, -⟩ | ⟨hx, hno⟩ | ⟨⟨e, hx⟩, -⟩ := loaded_of_rely hr
  · rw [hx]
    refine along_bind.2 ⟨trivial, fun b₁ how₁ x₁ a₁ _ => ?_⟩
    cases x₁ with
    | error e => nofun
    | ok =>
      refine ⟨trivial, fun b₂ how₂ x₂ a₂ _ => ?_⟩
      cases x₂ with
      | error e => nofun
      | ok => exact fun _ => .found ⟨b₁, how₁, a₁, rfl⟩ ⟨b₂, how₂, a₂, rfl⟩
  · rw [hx]
    refine along_bind.2 ⟨trivial, fun b₁ how₁ x₁ a₁ _ => ?_⟩
    cases x₁ with
    | error e => nofun
    | ok => exact fun _ => .absent hno ⟨b₁, how₁, a₁, rfl⟩
  · rw [hx]
    nofun

/-- A pair whose record is there can be ended. -/
theorem exists_play_logoutPair {w : World} {s p : Uuid} {r : SessionRecord}
    (h : w.get? (storeKey s) = some (recordText r)) (hp : r.pairedWith = some p) :
    ∃ l d d', l.question = .store (.get (storeKey s)) ∧ l.before = w ∧
      play w [(false, .works), (false, .works), (false, .works)] ([], logoutPair s) =
        some ([d', d, l], .done (.ok ())) := by
  obtain ⟨subject, roles, extra, paired⟩ := r
  obtain rfl : paired = some p := hp
  have h' : (Trace.world w []).get? (storeKey s) = some (recordText ⟨subject, roles, extra, p⟩) := h
  rw [play, logoutPair, load, next?_read h' (readRecord?_recordText _)]
  exact ⟨_, _, _, rfl, rfl, rfl⟩

/-- When the ending of a pair that was handed out before succeeds, the session that it was asked for
is over for good; and so is the other session of the pair, if the record of the first was found. -/
theorem logoutPair_ends_found_pair {s : Settings.AuthSettings} (hv : v.Configured s)
    (hS₀ : S₀.Reachable) {pair : TokenPair} (ht : S₀.threads[a]? = some t) (hp : Returned pair t)
    (hr : Runs S₀ S) (hb : S₀.threads.length ≤ b) {tr : Trace}
    (hu : S.threads[b]? = some ⟨.logoutPair (pair.token k).session, tr, .done (.ok ())⟩) :
    Ended S (pair.token k) k ∧
    ((∃ l ∈ tr, l.question = .store (.get (storeKey (pair.token k).session)) ∧
        LiveIn l.before (pair.token k).session) →
      Ended S (pair.token k.other) k.other) := by
  obtain ⟨m, hm, rfl⟩ := hp.minted hS₀ ht
  rw [Issuance.pair_token, Issuance.token_session] at hu
  simp only [Issuance.pair_token, Issuance.token_session]
  have hS := hS₀.runs hr
  obtain ⟨t', ht', -, hsuf⟩ := hr.thread ht
  have hreach : (logoutPair (m.session k)).Reaches tr (.done (.ok ())) := hS.reaches hu
  have hrely : tr.All (readingTerms m).rely := rely_of_reachable hS ht' (hm.extend hsuf) hu
  have hend : PairEnded m k tr := (hreach.along along_logoutPair hrely).1 rfl
  have gone : ∀ {j} {d : Observation}, d ∈ tr →
      d.Saw (.store (revokeCall (m.session j))) (.ok ()) → Ended S (m.token v.issuer j) j :=
    fun hd hs => (Gone.of_removed hS₀ ht hp.over hm hr hu hb hd hs).ended hv
  cases hend with
  | @absent l d hno hd =>
    refine ⟨gone List.mem_cons_self hd, ?_⟩
    rintro ⟨l', hl', hq, hlive⟩
    simp only [List.mem_cons, List.not_mem_nil, or_false] at hl'
    obtain rfl | rfl := hl'
    · cases hd.question.symm.trans hq
    · exact absurd hlive hno
  | found hd hd' => exact ⟨gone (by simp) hd, fun _ => gone List.mem_cons_self hd'⟩

/-- A pair whose records are there ends as a whole. -/
theorem logoutPair_ends_small_pair :
    ∃ (S : RunState (workload smallServices)) (pair : TokenPair),
      (∃ t, S.threads[0]? = some t ∧ Returned pair t) ∧
      Ended S (pair.token .access) .access ∧ Ended S (pair.token .refresh) .refresh := by
  obtain ⟨tr₁, pair, r, h₁, hg, hp⟩ : ∃ tr₁ pair r,
      smallLogIn smallServices (smallReactions .works .works) = some (tr₁, .done (.ok pair)) ∧
      (tr₁.world smallWorld).get? (storeKey (pair.token .access).session) = some (recordText r) ∧
      r.pairedWith = some (pair.token .refresh).session :=
    ⟨_, _, (SessionRecord.fresh (.ofNat 1) [⟨.ofNat 2, "Admin"⟩]).bind (.ofNat 5), rfl, rfl, rfl⟩
  obtain ⟨l, d, d', hq, hl, h⟩ := exists_play_logoutPair hg hp
  have hr : Runs (smallState smallServices tr₁ (.done (.ok pair))) _ :=
    Runs.played (W := workload smallServices) (r := .logoutPair (pair.token .access).session) h
  obtain ⟨ha, hboth⟩ := logoutPair_ends_found_pair (a := 0) (b := 1)
    smallServices_configured (smallState_reachable h₁) rfl .logIn hr (Nat.le_refl 1) rfl
  exact ⟨_, pair, ⟨_, rfl, .logIn⟩, ha, hboth ⟨l, by simp, hq, _, hl ▸ hg⟩⟩

/-- The ending of a pair can succeed while one of its sessions goes on: the one that was named only
by a record that had been removed before. -/
theorem logoutPair_leaves_other_half :
    ¬∀ (v : Services) (s : Settings.AuthSettings) (S₀ S : RunState (workload v)) (a b : Nat)
      (t : Thread (workload v)) (pair : TokenPair) (k : TokenKind) (tr : Trace),
      v.Configured s → S₀.Reachable → S₀.threads[a]? = some t → Returned pair t → Runs S₀ S →
      S₀.threads.length ≤ b →
      S.threads[b]? = some ⟨.logoutPair (pair.token k).session, tr, .done (.ok ())⟩ →
      ∀ j, ¬LiveIn S.world (pair.token j).session := by
  intro hall
  obtain ⟨tr₁, pair, tr₂, tr, h₁, h₂, h, hlive⟩ : ∃ tr₁ pair tr₂ tr,
      smallLogIn smallServices (smallReactions .works .works) = some (tr₁, .done (.ok pair)) ∧
      play (tr₁.world smallWorld) [(false, .works)] ([], logout (pair.token .access).session) =
        some (tr₂, .done (.ok ())) ∧
      play (tr₂.world (tr₁.world smallWorld)) [(false, .works), (false, .works)]
        ([], logoutPair (pair.token .access).session) = some (tr, .done (.ok ())) ∧
      LiveIn (tr.world (tr₂.world (tr₁.world smallWorld))) (pair.token .refresh).session :=
    ⟨_, _, _, _, rfl, rfl, rfl, _, rfl⟩
  have hS₀ := smallState_reachable h₁
  have hr₂ : Runs (smallState smallServices tr₁ (.done (.ok pair))) _ :=
    Runs.played (W := workload smallServices) (r := .logout (pair.token .access).session) h₂
  have hr := hr₂.trans (Runs.played (W := workload smallServices)
    (r := .logoutPair (pair.token .access).session) h)
  exact hall smallServices smallSettings _ _ 0 2 _ pair .access tr smallServices_configured hS₀ rfl
    .logIn hr (Nat.le_succ 1) rfl .refresh hlive

end Gatehouse.Session
