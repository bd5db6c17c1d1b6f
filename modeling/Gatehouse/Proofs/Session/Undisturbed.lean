import Gatehouse.Proofs.Session.AllOrNothing
import Gatehouse.Proofs.Session.Authority

/-!
# Requests that nothing fails

If no call fails and the token has not expired, the exchange of a refresh token can go in three ways
only (`Contested`): it finds no record and is refused, or it finds one, and then breaks off because
a lifetime leads out of the calendar, or replaces the old pair by a new one. Which of them it is, is
decided by what others did to the record before it was loaded. A request to end a pair removes
nothing else (`along_logoutPair_ending`), and neither takes long (`within_refresh`,
`within_logoutPair`), nor does a login (`within_logIn`).
-/

namespace Gatehouse.Session

open Gatehouse.Action Time

variable {v : Services} {m m' : Issuance} {k : TokenKind} {tr : Trace}

/-! ## Exchanging the refresh token -/

/-- Whether a trace found the session of the refresh token live when it loaded its record. -/
def LoadedLive (m : Issuance) (tr : Trace) : Prop :=
  ∃ l ∈ tr, l.question = .store (.get (storeKey (m.session .refresh))) ∧
    LiveIn l.before (m.session .refresh)

/-- Whether a trace replaced a pair by another one, and wrote nothing else. -/
structure Replaces (i : TokenIssuer) (m m' : Issuance) (tr : Trace) : Prop where
  minted : Minted i m' tr
  kept : ∀ k, ∃ o ∈ tr, o.Saw (.store (m'.save i k)) (.ok ())
  removed : ∀ k, ∃ o ∈ tr, o.question = .store (revokeCall (m.session k))
  only : ∀ o ∈ tr, o.question.Writes →
    (∃ k, o.question = .store (m'.save i k)) ∨ ∃ k, o.question = .store (revokeCall (m.session k))

/-- How the exchange of a refresh token can go if no call fails and the token has not expired. -/
inductive Contested (v : Services) (m : Issuance) : Trace → Outcome TokenPair → Prop where
  | late {l o : Observation} (ho : o.question = .now)
      (hl : l.question = .store (.get (storeKey (m.session .refresh))))
      (hno : ¬LiveIn l.before (m.session .refresh)) :
      Contested v m [l, o] (.finished (.error notLive))
  | broken {tr : Trace} (hl : LoadedLive m tr) (hw : tr.Writeless)
      (hout : OutOfCalendar v.issuer tr) : Contested v m tr .crashed
  | renewed {tr : Trace} {m' : Issuance} (hl : LoadedLive m tr)
      (hr : Replaces v.issuer m m' tr) (hout : ¬OutOfCalendar v.issuer tr) :
      Contested v m tr (.finished (.ok (m'.pair v.issuer)))

/-- What is relied on: no call fails, and the token has not expired when it is verified. -/
structure Undisturbed (v : Services) (m : Issuance) (tr : Trace) : Prop where
  reads : tr.All (readingTerms m).rely
  works : ∀ o ∈ tr, ¬o.Fails
  timely : ∀ o now, [o] <:+ tr → o.Saw .now now →
    Timely v.verifier.leeway (m.expiresAt .refresh) now

/-- Where no call fails both records of an issuance are kept. -/
theorem Saved.eq_ok {i : TokenIssuer} {newer : Trace} {res : TokenKind → Except Failure Unit}
    (h : Saved i m res newer) (hpos : ∀ k, 0 < i.ttl k)
    (hw : ∀ o ∈ newer, o.Truthful ∧ ¬o.Fails) (k : TokenKind) : res k = .ok () := by
  obtain ⟨j, o, o', rfl, ho, ho'⟩ := h
  have h0 := fun k => nanos_sessionTtl_ne_zero (hpos k)
  rcases j.eq_or_eq_other k with rfl | rfl
  · obtain ⟨ht, hno⟩ := hw o (by simp)
    exact ho.unique (ht.kept hno (h0 _) ho.question)
  · obtain ⟨ht, hno⟩ := hw o' (by simp)
    exact ho'.unique (ht.kept hno (h0 _) ho'.question)

theorem Kept.not_error {i : TokenIssuer} {newer : Trace} {e : Failure} (hpos : ∀ k, 0 < i.ttl k)
    (hw : ∀ o ∈ newer, o.Truthful ∧ ¬o.Fails) : ¬Kept i m newer (.finished (.error e)) := by
  intro h
  cases h with
  | one hs _ he _ =>
    have hok := hs.eq_ok hpos fun o ho => hw o (List.mem_cons_of_mem _ ho)
    cases he.symm.trans (hok _)
  | none hs he =>
    obtain ⟨e, he⟩ := he .access
    cases he.symm.trans (hs.eq_ok hpos hw _)

section

variable {s : Settings.AuthSettings} (hv : v.Configured s) (hf : Fits v.issuer m)
include hv hf

/-- A token that was accepted is the one of the issuance, and its record is the one that was kept
for it. -/
theorem eq_of_presented {c : Claims} {r : SessionRecord}
    (hp : v.Presented (m.token v.issuer .refresh).text c r tr)
    (hr : tr.All (readingTerms m).rely) :
    c.session = m.session .refresh ∧ r = m.bound .refresh ∧ LoadedLive m tr := by
  obtain ⟨-, now, -, -, hverify⟩ := hp.verified
  obtain rfl := claims_of_verify (hv.key_eq .refresh) hf hverify
  obtain ⟨l, text, hl, hs, hread⟩ := hp.loaded
  obtain ⟨-, ht, hkept⟩ := hr.exists_of_mem hl
  obtain ⟨w, how, w', rfl⟩ := hs
  have hg : w.get? (storeKey (m.session .refresh)) = some text := by
    obtain hx | ⟨⟨e, hx⟩, -⟩ := ht.get
    · exact (Except.ok.inj hx).symm
    · cases hx
  rw [hkept .refresh text hg, readRecord?_recordText] at hread
  exact ⟨rfl, (Option.some.inj hread).symm, _, hl, rfl, text, hg⟩

theorem late_of_refused {e : Failure} (hu : Undisturbed v m tr)
    (h : v.Refused (m.token v.issuer .refresh).text tr e) :
    Contested v m tr (.finished (.error e)) := by
  have hkey := hv.key_eq .refresh
  cases h with
  | @rejected o now why ho hverify =>
    have ht := hu.timely o now (List.suffix_refl _) ho
    rw [verify_of_timely hkey hf ht] at hverify
    cases hverify
  | unread ho hverify hl hx =>
    obtain rfl := claims_of_verify hkey hf hverify
    obtain ⟨b, how, a, rfl⟩ := hl
    obtain ⟨_, hr⟩ := hu.reads.exists_of_mem List.mem_cons_self
    obtain ⟨hx', -⟩ | ⟨hx', -⟩ | ⟨-, hfails⟩ := loaded_of_rely (k := .refresh) hr
    · cases hx.symm.trans hx'
    · cases hx.symm.trans hx'
    · exact absurd hfails (hu.works _ List.mem_cons_self)
  | absent ho hverify hl hx =>
    obtain rfl := claims_of_verify hkey hf hverify
    obtain ⟨b, how, a, rfl⟩ := hl
    obtain ⟨_, hr⟩ := hu.reads.exists_of_mem List.mem_cons_self
    obtain ⟨hx', -⟩ | ⟨-, hno⟩ | ⟨⟨e, hx'⟩, -⟩ := loaded_of_rely (k := .refresh) hr
    · cases hx.symm.trans hx'
    · exact .late ho.question rfl hno
    · cases hx.symm.trans hx'
  | unresolved _ _ hd =>
    obtain ⟨b, how, a, rfl⟩ := hd
    obtain ⟨_, ht, -⟩ := hu.reads.exists_of_mem List.mem_cons_self
    obtain hx | ⟨-, hfails⟩ := ht.rolesOf
    · cases hx
    · exact absurd hfails (hu.works _ List.mem_cons_self)

theorem contested_of_redeemed {out : Outcome TokenPair} (hu : Undisturbed v m tr)
    (h : v.Redeemed (m.token v.issuer .refresh).text tr out) : Contested v m tr out := by
  have hout := (attempted_of_redeemed h).crashed_iff
  have truthful : ∀ o ∈ tr, o.Truthful ∧ ¬o.Fails := by
    intro o ho
    obtain ⟨-, ht, -⟩ := hu.reads.exists_of_mem ho
    exact ⟨ht, hu.works o ho⟩
  cases h with
  | refused _ _ why => exact late_of_refused hv hf hu why
  | @stopped c r newer older _ hw hs ha hp =>
    cases hs with
    | lifetime hd _ hl =>
      obtain ⟨k, hk⟩ := hl
      have := hf.lifetime k
      omega
    | calendar hd _ =>
      have hp' := hp.mono fun o ho => List.mem_append_right newer ho
      exact .broken (eq_of_presented hv hf hp' hu.reads).2.2 (hd.writeless.append hw) (hout.1 rfl)
  | @unkept c r m' newer older e hr hk =>
    have hw := fun o ho => truthful o (List.mem_append_left older ho)
    exact absurd hk (Kept.not_error hv.ttl_pos hw)
  | @undone c r m' newer older o d d' e k hr hn ho hd hd' =>
    obtain ⟨ht, hw⟩ := truthful o (by simp)
    cases ho.unique (ht.removed hw ho.question)
  | @rotated c r m' gone newer older o hr hn ho hg =>
    have hleft : ∀ x ∈ newer, x ∈ gone ++ o :: (newer ++ older) := fun x hx => by simp [hx]
    have hright : ∀ x ∈ older, x ∈ gone ++ o :: (newer ++ older) := fun x hx => by simp [hx]
    obtain ⟨hc, rfl, hl⟩ := eq_of_presented hv hf (hr.presented.mono hright) hu.reads
    rw [hc] at ho
    -- the record of the old session names the access session of the pair
    obtain ⟨d, rfl, hd⟩ : ∃ d, gone = [d] ∧
        d.question = .store (revokeCall (m.session .access)) := by
      obtain ⟨hp, -⟩ | ⟨p, d, hp, hgone, hd⟩ := hg
      · cases hp
      · cases hp
        exact ⟨d, hgone, hd⟩
    have hsuf : older <:+ [d] ++ o :: (newer ++ older) :=
      (List.suffix_append (d :: o :: newer) older)
    refine .renewed hl ⟨hr.minted.extend hsuf, fun k => ?_, fun k => ?_, fun x hx hw => ?_⟩
      fun h => absurd (hout.2 h) (by simp)
    · obtain ⟨j, x, x', rfl, hx, hx'⟩ := hn
      rcases j.eq_or_eq_other k with rfl | rfl
      · exact ⟨x, by simp, hx⟩
      · exact ⟨x', by simp, hx'⟩
    · cases k with
      | access => exact ⟨d, by simp, hd⟩
      | refresh => exact ⟨o, by simp, ho.question⟩
    · simp only [List.cons_append, List.nil_append, List.mem_cons, List.mem_append] at hx
      rcases hx with rfl | rfl | hx | hx
      · exact .inr ⟨.access, hd⟩
      · exact .inr ⟨.refresh, ho.question⟩
      · exact .inl (hn.saves x hx)
      · exact absurd hw (hr.writeless x hx)

end

/-! ## Ending the pair -/

/-- What a request to end a pair relies on, and that it removes nothing but the pair. -/
def endingTerms (m : Issuance) : Terms where
  rely := (readingTerms m).rely
  guarantee _ q := q.Writes → ∃ k, q = .store (revokeCall (m.session k))

theorem along_logoutPair_ending :
    (logoutPair (m.session k)).Along (endingTerms m) (fun _ _ => True) [] := by
  refine along_bind.2 (along_mapFailure.2 (along_load.2
    ⟨fun hw => hw.elim, fun b how x a hr => ?_⟩))
  have hself : ∀ tr, (endingTerms m).guarantee tr (.store (revokeCall (m.session k))) :=
    fun _ _ => ⟨k, rfl⟩
  have hr' : (readingTerms m).rely [] _ := hr
  obtain ⟨hx, -⟩ | ⟨hx, -⟩ | ⟨⟨e, hx⟩, -⟩ := loaded_of_rely hr'
  · rw [hx]
    refine along_bind.2 ⟨hself _, fun _ _ x₁ _ _ => ?_⟩
    cases x₁ with
    | error e => trivial
    | ok => exact ⟨fun _ => ⟨k.other, rfl⟩, fun _ _ _ _ _ => trivial⟩
  · rw [hx]
    refine along_bind.2 ⟨hself _, fun _ _ x₁ _ _ => ?_⟩
    cases x₁ <;> trivial
  · rw [hx]
    trivial

/-! ## How long the requests take -/

theorem within_load (s : Uuid) : (load s).Within 1 := by
  refine ⟨Nat.one_pos, fun x => ?_⟩
  rcases x with e | _ | text
  · trivial
  · trivial
  · show (orFail .badJson (readRecord? text) >>= fun x => pure (some x)).Within 0
    cases readRecord? text <;> trivial

theorem within_tryRevoke (s : Uuid) : (tryRevoke s).Within 1 :=
  ⟨Nat.one_pos, fun x => by cases x <;> trivial⟩

theorem within_issuePair (i : TokenIssuer) (r : SessionRecord) : (issuePair i r).Within 6 := by
  have issue : ∀ k subject t, (i.issue k subject t).Within 1 := by
    intro k subject t
    unfold TokenIssuer.issue
    split
    · trivial
    · split
      · trivial
      · exact ⟨Nat.one_pos, fun _ => trivial⟩
  have conclude : ∀ access refresh x y, (conclude i access refresh x y).Within 1 := by
    intro access refresh x y
    rcases x with e | _ <;> rcases y with e' | _
    · trivial
    · exact within_bind (n := 1) (k := 0) (within_tryRevoke _) fun _ => trivial
    · exact within_bind (n := 1) (k := 0) (within_tryRevoke _) fun _ => trivial
    · trivial
  have now : Action.now.Within 1 := ⟨Nat.one_pos, fun _ => trivial⟩
  rw [issuePair_eq]
  refine within_bind (n := 2) (k := 4) ?_ fun access => ?_
  · exact within_bind (n := 1) (k := 1) now fun t => issue _ _ t
  · refine within_bind (n := 1) (k := 3) (issue _ _ _) fun refresh => ?_
    exact within_bind (n := 2) (k := 1) ⟨Nat.one_lt_two, fun _ _ => trivial⟩ fun kept =>
      conclude _ _ kept.1 kept.2

theorem within_logIn (email password : String) : (v.logIn email password).Within 8 := by
  refine within_bind (n := 1) (k := 7) (within_mapFailure ⟨Nat.one_pos, fun _ => trivial⟩)
    fun found => ?_
  refine within_bind (n := 0) (k := 7) (by cases found <;> trivial) fun user => ?_
  split
  · trivial
  · refine within_bind (n := 0) (k := 7) trivial fun matched => ?_
    split
    · trivial
    · exact within_bind (n := 1) (k := 6)
        (within_mapFailure ⟨Nat.one_pos, fun _ => trivial⟩) fun roles => within_issuePair _ _

theorem within_rotate (s : Uuid) (r : SessionRecord) (pair : TokenPair) :
    (Services.rotate s r pair).Within 3 := by
  refine within_bind (n := 1) (k := 2) ⟨Nat.one_pos, fun _ => trivial⟩ fun result => ?_
  cases result with
  | error e =>
    exact within_bind (n := 2) (k := 0) ⟨Nat.one_lt_two, fun _ _ => trivial⟩ fun _ => trivial
  | ok =>
    dsimp only
    cases r.pairedWith with
    | none => trivial
    | some p => exact within_bind (n := 1) (k := 1) (within_tryRevoke p) fun _ => trivial

theorem within_refresh (token : String) : (v.refresh token).Within 12 := by
  rw [Services.refresh_eq]
  refine within_bind (n := 1) (k := 11) ⟨Nat.one_pos, fun _ => trivial⟩ fun c => ?_
  refine within_bind (n := 1) (k := 10) (within_mapFailure (within_load _)) fun found => ?_
  refine within_bind (n := 0) (k := 10) (by cases found <;> trivial) fun old => ?_
  refine within_bind (n := 1) (k := 9)
    (within_mapFailure ⟨Nat.one_pos, fun _ => trivial⟩) fun roles => ?_
  exact within_bind (n := 6) (k := 3) (within_issuePair _ _) fun pair => within_rotate _ _ pair

theorem within_logoutPair (s : Uuid) : (logoutPair s).Within 3 := by
  have logout : ∀ s, (logout s).Within 1 := fun s => ⟨Nat.one_pos, fun _ => trivial⟩
  refine within_bind (n := 1) (k := 2) (within_mapFailure (within_load _)) fun found => ?_
  refine within_bind (n := 1) (k := 1) (logout s) fun _ => ?_
  split
  · exact logout _
  · trivial

end Gatehouse.Session
