import Gatehouse.Proofs.Session.Alone

/-!
# Logging in and refreshing are all or nothing

While a login or an exchange runs alone and every call that is reported to have failed had no
effect, the store ends in one of two ways. Either the pair is handed out and both of its records are
live for their lifetimes, or everything that was live before still is, and what was added are
records whose removal failed (`opening_all_or_nothing`).
-/

namespace Gatehouse.Session

open Gatehouse.Action

/-- A request that opens a pair of sessions. -/
inductive Opening where
  | logIn (email password : String)
  | refresh (token : String)

/-- What a request does. -/
def Opening.action (v : Services) : Opening → Action TokenPair
  | .logIn email password => v.logIn email password
  | .refresh token => v.refresh token

/-- Whether every call that is reported to have failed had no effect. -/
def Definite (tr : Trace) : Prop := ∀ o ∈ tr, ∀ e, o.how ≠ .unseen e

/-- Whether both records of a pair are live for their lifetimes. -/
def HandedOut (i : TokenIssuer) (w : World) (tr : Trace) (pair : TokenPair) : Prop :=
  ∃ m, Minted i m tr ∧ pair = m.pair i ∧
    ∀ k, tr.live? w (storeKey (m.session k)) = some (m.entry i w.moment k)

/-- Whether the store is as before, but for records whose removal failed. -/
structure Undone (i : TokenIssuer) (w : World) (tr : Trace) : Prop where
  kept : ∀ key e, w.store.live? w.moment key = some e → tr.live? w key = some e
  added : ∀ key e, tr.live? w key = some e → w.store.live? w.moment key = some e ∨
    ∃ m k, Minted i m tr ∧ key = storeKey (m.session k) ∧
      ∃ o ∈ tr, o.question = .store (revokeCall (m.session k)) ∧ o.Fails

/-- Whether the old session is removed, and the one of its pair unless its own removal failed. -/
def Retired (w : World) (tr : Trace) (c : Claims) (r : SessionRecord) : Prop :=
  tr.live? w (storeKey c.session) = none ∧ ∀ p, r.pairedWith = some p →
    tr.live? w (storeKey p) = none ∨ ∃ o ∈ tr, o.question = .store (revokeCall p) ∧ o.Fails

variable {v : Services} {i : TokenIssuer} {m : Issuance} {w : World} {tr newer older : Trace}
  {key : String}

/-! ## Nothing written -/

theorem Undone.of_writeless (ha : tr.Alone w) (hw : tr.Writeless) : Undone i w tr :=
  ⟨fun key e h => by rwa [Trace.live?_of_writeless ha hw],
    fun key e h => .inl (by rwa [Trace.live?_of_writeless ha hw] at h)⟩

/-! ## A pair that is not kept -/

/-- A trace that only touches the sessions of an issuance leaves the store as it was, but for those
sessions that are live in the end. -/
theorem Undone.of_leaves (ha : Trace.Alone w (newer ++ older)) (hw : older.Writeless)
    (hm : Minted i m older) (hc : Covers w)
    (hold : ∀ key, (∀ k, storeKey (m.session k) ≠ key) → ∀ o ∈ newer, o.leaves key = none)
    (hnew : ∀ k e, Trace.live? w (newer ++ older) (storeKey (m.session k)) = some e →
      ∃ o ∈ newer, o.question = .store (revokeCall (m.session k)) ∧ o.Fails) :
    Undone i w (newer ++ older) := by
  have same : ∀ key, (∀ k, storeKey (m.session k) ≠ key) →
      Trace.live? w (newer ++ older) key = w.store.live? w.moment key := by
    intro key hk
    rw [Trace.live?_append_of_leaves ha (hold key hk), Trace.live?_of_writeless ha.of_append hw]
  constructor
  · intro key e he
    rw [same key, he]
    rintro k rfl
    rw [hc.live?_eq_none (hm.not_mem_drawn ha.of_append k)] at he
    cases he
  · intro key e he
    by_cases hk : ∃ k, key = storeKey (m.session k)
    · obtain ⟨k, rfl⟩ := hk
      obtain ⟨o, ho, hq⟩ := hnew k e he
      exact .inr ⟨m, k, hm.append newer, rfl, o, List.mem_append_left _ ho, hq⟩
    · rw [same key fun k hk' => hk ⟨k, hk'.symm⟩] at he
      exact .inl he

theorem About.leaves (h : About m newer) (hk : ∀ k, storeKey (m.session k) ≠ key) :
    ∀ o ∈ newer, o.leaves key = none := by
  intro o ho
  obtain ⟨call, k, hq, hkey⟩ := h o ho
  exact Observation.leaves_of_key_ne hq (hkey ▸ hk k)

/-- A record that is reported not to be kept is not live. -/
theorem live?_of_saved_error {res : TokenKind → Except Failure Unit} (h : Saved i m res newer)
    (ha : Trace.Alone w (newer ++ older)) (hw : older.Writeless) (hm : Minted i m older)
    (hc : Covers w) (hd : Definite newer) {j : TokenKind} {e : Failure} (he : res j = .error e) :
    Trace.live? w (newer ++ older) (storeKey (m.session j)) = none := by
  obtain ⟨o, ho, hq⟩ := h.exists j
  obtain ⟨hs, ht, -, hl⟩ := live?_saved h ha hw hm hc ho hq
  rw [he] at hs
  rw [hl, Observation.leaves_of_error ht hs (hd o ho)]
  rfl

/-- The removal of a record either works or is reported to have failed without effect. -/
theorem leaves_delete_cases {o : Observation} {s : Uuid} (ht : o.Truthful)
    (hq : o.question = .store (revokeCall s)) (hd : ∀ e, o.how ≠ .unseen e) :
    o.leaves (storeKey s) = some none ∨ o.leaves (storeKey s) = none ∧ o.Fails := by
  obtain ⟨b, q, how, x, a⟩ := o
  cases hq
  obtain ⟨rfl, hx, -⟩ | ⟨e, rfl, -, -⟩ | ⟨e, rfl, -, -⟩ := ht.store
  · exact .inl (by simp [Observation.leaves, Store.Memory.leaves, revokeCall])
  · exact .inr ⟨rfl, e, .inl rfl⟩
  · exact absurd rfl (hd e)

/-- What is left of a pair that was not kept. -/
theorem Kept.undone {e : Failure} (h : Kept i m newer (.finished (.error e)))
    (ha : Trace.Alone w (newer ++ older)) (hw : older.Writeless) (hm : Minted i m older)
    (hc : Covers w) (hd : Definite newer) : Undone i w (newer ++ older) := by
  refine .of_leaves ha hw hm hc (fun key hk => h.about.leaves hk) fun k e he => ?_
  cases h with
  | @one saved res j _ d _ hs hj hje hdel =>
    have ha' : Trace.Alone w (saved ++ older) := ha.2
    have hd' : Definite saved := fun o ho => hd o (List.mem_cons_of_mem _ ho)
    have hl : Trace.live? w (d :: (saved ++ older)) (storeKey (m.session k)) = some e := he
    rw [Trace.live?_cons (show Trace.Alone w (d :: (saved ++ older)) from ha)] at hl
    have hne := hm.session_ne ha'.of_append j
    rcases j.eq_or_eq_other k with rfl | rfl
    · obtain hlv | ⟨-, hf⟩ := leaves_delete_cases ha.1.2 hdel.question (hd d List.mem_cons_self)
      · rw [hlv] at hl
        cases hl
      · exact ⟨d, List.mem_cons_self, hdel.question, hf⟩
    · rw [Observation.leaves_of_key_ne hdel.question (storeKey_ne hne), Option.getD_none,
        live?_of_saved_error hs ha' hw hm hc hd' hje] at hl
      cases hl
  | none hs hall =>
    obtain ⟨e', hk⟩ := hall k
    rw [live?_of_saved_error hs ha hw hm hc hd hk] at he
    cases he

/-! ## A pair that is discarded -/

/-- What is left when the old session cannot be removed. -/
theorem undone_of_discarded {o d d' : Observation} {s : Uuid} {e : Failure} {k : TokenKind}
    (ha : Trace.Alone w (([d', d] ++ o :: newer) ++ older)) (hw : older.Writeless)
    (hm : Minted i m older) (hc : Covers w) (hd : Definite ([d', d] ++ o :: newer))
    (hn : About m newer) (ho : o.Saw (.store (revokeCall s)) (.error e))
    (hq : d.question = .store (revokeCall (m.session k)))
    (hq' : d'.question = .store (revokeCall (m.session k.other))) :
    Undone i w (([d', d] ++ o :: newer) ++ older) := by
  have ha₃ : Trace.Alone w (d' :: d :: o :: (newer ++ older)) := ha
  refine .of_leaves ha hw hm hc (fun key hk x hx => ?_) fun j e he => ?_
  · simp only [List.cons_append, List.nil_append, List.mem_cons] at hx
    rcases hx with rfl | rfl | rfl | hx
    · exact Observation.leaves_of_key_ne hq' (hk k.other)
    · exact Observation.leaves_of_key_ne hq (hk k)
    · exact Observation.leaves_of_error ha₃.2.2.1.2 ho (hd x (by simp))
    · exact hn.leaves hk x hx
  · have hl : Trace.live? w (d' :: d :: o :: (newer ++ older)) (storeKey (m.session j)) = some e :=
      he
    have hne := hm.session_ne ha.of_append k
    rw [Trace.live?_cons ha₃] at hl
    rcases k.eq_or_eq_other j with rfl | rfl
    · rw [Observation.leaves_of_key_ne hq' (storeKey_ne hne.symm), Option.getD_none,
        Trace.live?_cons ha₃.2] at hl
      obtain hlv | ⟨-, hf⟩ := leaves_delete_cases ha₃.2.1.2 hq (hd d (by simp))
      · rw [hlv] at hl
        cases hl
      · exact ⟨d, by simp, hq, hf⟩
    · obtain hlv | ⟨-, hf⟩ := leaves_delete_cases ha₃.1.2 hq' (hd d' (by simp))
      · rw [hlv] at hl
        cases hl
      · exact ⟨d', by simp, hq', hf⟩

/-! ## A pair that is handed out -/

/-- A record that was found is not one of a new issuance, and neither is the one it names. -/
theorem storeKey_ne_of_mem (hm : Minted i m older) (ha : older.Alone w) {s : Uuid}
    (hs : s ∈ w.drawn) (k : TokenKind) : storeKey s ≠ storeKey (m.session k) :=
  storeKey_ne fun he => hm.not_mem_drawn ha k (he ▸ hs)

theorem Found.mem_drawn {s : Uuid} (h : Found older s) (hc : Covers w) (ha : older.Alone w)
    (hw : older.Writeless) : s ∈ w.drawn := by
  obtain ⟨o, text, ho, hs⟩ := h
  obtain ⟨e, -, -, hd⟩ := exists_live?_of_found hc ha hw ho hs
  exact hd

/-- The pair of a record that was found is in use too. -/
theorem paired_mem_drawn {token : String} {c : Claims} {r : SessionRecord}
    (h : v.Presented token c r older) (hc : Covers w) (ha : older.Alone w) (hw : older.Writeless)
    {p : Uuid} (hp : r.pairedWith = some p) : p ∈ w.drawn := by
  obtain ⟨o, text, ho, hs, hr⟩ := h.loaded
  obtain ⟨e, he, hv, -⟩ := exists_live?_of_found hc ha hw ho hs
  obtain ⟨hmem, -, -⟩ := Store.Memory.live?_eq_some he
  exact hc e hmem p (.inr ⟨r, by rw [hv, hr], hp⟩)

/-- A removal of something else leaves a new pair live. -/
theorem live?_removal_cons {o : Observation} {tr : Trace} {s : Uuid} {k : TokenKind}
    (ha : Trace.Alone w (o :: tr)) (hq : o.question = .store (revokeCall s))
    (hs : storeKey s ≠ storeKey (m.session k)) :
    Trace.live? w (o :: tr) (storeKey (m.session k)) =
      Trace.live? w tr (storeKey (m.session k)) := by
  rw [Trace.live?_cons ha, Observation.leaves_of_key_ne hq hs, Option.getD_none]

/-- What is live after an exchange that worked. -/
theorem handedOut_of_rotated {token : String} {c : Claims} {r : SessionRecord} {gone : Trace}
    {o : Observation} (ha : Trace.Alone w (gone ++ o :: (newer ++ older))) (hc : Covers w)
    (hd : Definite gone) (hr : v.Renews token c r m older)
    (hn : Saved v.issuer m (fun _ => .ok ()) newer)
    (ho : o.Saw (.store (revokeCall c.session)) (.ok ()))
    (hg : r.pairedWith = none ∧ gone = [] ∨
      ∃ p d, r.pairedWith = some p ∧ gone = [d] ∧ d.question = .store (revokeCall p)) :
    HandedOut v.issuer w (gone ++ o :: (newer ++ older)) (m.pair v.issuer) ∧
      Retired w (gone ++ o :: (newer ++ older)) c r := by
  have ha₁ : Trace.Alone w (o :: (newer ++ older)) := ha.of_append
  have ha₂ : Trace.Alone w (newer ++ older) := ha₁.2
  have hdr := hr.presented.found.mem_drawn hc ha₂.of_append hr.writeless
  have hboth : ∀ k, Trace.live? w (o :: (newer ++ older)) (storeKey (m.session k)) =
      some (m.entry v.issuer w.moment k) := by
    intro k
    have hne := storeKey_ne_of_mem hr.minted ha₂.of_append hdr k
    rw [live?_removal_cons ha₁ ho.question hne]
    exact live?_both hn ha₂ hr.writeless hr.minted hc k
  have hgone : Trace.live? w (o :: (newer ++ older)) (storeKey c.session) = none := by
    rw [Trace.live?_cons ha₁, Observation.leaves_of_delete ha₁.1.2 ho]
    rfl
  have hmint : Minted v.issuer m (gone ++ o :: (newer ++ older)) := by
    rw [← List.singleton_append, ← List.append_assoc, ← List.append_assoc]
    exact hr.minted.append _
  obtain ⟨hp, rfl⟩ | ⟨p, d, hp, rfl, hq⟩ := hg
  · exact ⟨⟨m, hmint, rfl, hboth⟩, hgone, by simp [hp]⟩
  · have ha' : Trace.Alone w (d :: o :: (newer ++ older)) := ha
    have hpd := paired_mem_drawn hr.presented hc ha₂.of_append hr.writeless hp
    obtain hlv := leaves_delete_cases ha'.1.2 hq (hd d (by simp))
    refine ⟨⟨m, hmint, rfl, fun k => ?_⟩, ?_, fun p' hp' => ?_⟩
    · have hne := storeKey_ne_of_mem hr.minted ha₂.of_append hpd k
      exact (live?_removal_cons ha' hq hne).trans (hboth k)
    · show Trace.live? w (d :: o :: (newer ++ older)) (storeKey c.session) = none
      rw [Trace.live?_cons ha', hgone]
      -- nothing keeps a record from naming its own session
      by_cases hpc : p = c.session
      · subst hpc
        obtain hlv | ⟨hlv, -⟩ := hlv <;> rw [hlv] <;> rfl
      · rw [Observation.leaves_of_key_ne hq (storeKey_ne hpc)]
        rfl
    · cases hp.symm.trans hp'
      obtain hlv | ⟨-, hf⟩ := hlv
      · refine .inl ?_
        show Trace.live? w (d :: o :: (newer ++ older)) (storeKey p) = none
        rw [Trace.live?_cons ha', hlv]
        rfl
      · exact .inr ⟨d, by simp, hq, hf⟩

/-! ## In between -/

/-- Whether the old session is live as before, or both sessions of a new pair are live. -/
def OldOrNew (i : TokenIssuer) (w : World) (tr : Trace) (s : Uuid) : Prop :=
  (∃ e, w.store.live? w.moment (storeKey s) = some e ∧ tr.live? w (storeKey s) = some e) ∨
    ∃ m, Minted i m tr ∧
      ∀ k, tr.live? w (storeKey (m.session k)) = some (m.entry i w.moment k)

/-- An observation of a lookup is older than all that was written. -/
theorem Found.of_append {s : Uuid} (h : Found (newer ++ older) s) (hn : newer.Writing) :
    Found older s := by
  obtain ⟨o, text, ho, hs⟩ := h
  rcases List.mem_append.1 ho with ho | ho
  · exact absurd hs.question (hn.ne_get ho _)
  · exact ⟨o, text, ho, hs⟩

/-- A session that was found stays live if it is not removed. -/
theorem OldOrNew.old {s : Uuid} (hc : Covers w) (ha : Trace.Alone w (newer ++ older))
    (hw : older.Writeless) (h : Found older s) (hl : ∀ o ∈ newer, o.leaves (storeKey s) = none) :
    OldOrNew i w (newer ++ older) s := by
  exact .inl (stillLive_of_leaves hc ha hw h hl)

theorem Midway.oldOrNew (h : Midway i tr) (hc : Covers w) (ha : tr.Alone w) (hd : Definite tr)
    {s : Uuid} (hs : Found tr s) : OldOrNew i w tr s := by
  cases h with
  | waiting hw => exact OldOrNew.old hc (show Trace.Alone w ([] ++ tr) from ha) hw hs (by simp)
  | @keeping m newer older hm hw hn =>
    have hf : Found older s := hs.of_append fun o ho => by
      obtain ⟨j, hj⟩ := hn o ho
      exact writes_of_save hj
    have hsd := hf.mem_drawn hc ha.of_append hw
    refine OldOrNew.old hc ha hw hf fun o ho => ?_
    obtain ⟨j, hj⟩ := hn o ho
    exact Observation.leaves_of_key_ne hj (storeKey_ne_of_mem hm ha.of_append hsd j).symm
  | @removed m newer older o s' hm hw hn hf ho =>
    have ha' : Trace.Alone w (newer ++ older) := ha.2
    have hsd := hf.mem_drawn hc ha'.of_append hw
    refine .inr ⟨m, hm.append (o :: newer), fun k => ?_⟩
    have hne := storeKey_ne_of_mem hm ha'.of_append hsd k
    rw [live?_removal_cons ha ho.question hne]
    exact live?_both hn ha' hw hm hc k
  | @discarding m gone newer older o s' e hm hw hn hf ho hg =>
    rw [← List.cons_append, ← List.append_assoc] at ha hs ⊢
    have ha₀ : older.Alone w := ha.of_append
    have hwg : gone.Writing := fun x hx => by
      obtain ⟨j, hj⟩ := hg x hx
      exact writes_of_revoke hj
    have hf' := hs.of_append (hwg.append (hn.writing.cons (writes_of_revoke ho.question)))
    have hsd := hf'.mem_drawn hc ha₀ hw
    have hne : ∀ k, storeKey (m.session k) ≠ storeKey s :=
      fun k => (storeKey_ne_of_mem hm ha₀ hsd k).symm
    refine OldOrNew.old hc ha hw hf' fun x hx => ?_
    rcases List.mem_append.1 hx with hx | hx
    · obtain ⟨j, hj⟩ := hg x hx
      exact Observation.leaves_of_key_ne hj (hne j)
    · rcases List.mem_cons.1 hx with rfl | hx
      · refine Observation.leaves_of_error ?_ ho (hd x (by simp))
        exact ha.truthful x (by simp)
      · exact hn.about.leaves hne x hx

/-! ## The time of issue -/

/-- Whether a lifetime led out of the calendar from the time of issue on. -/
def OutOfCalendar (i : TokenIssuer) (tr : Trace) : Prop := ∃ t, IssuesAt tr t ∧ Overruns i t

/-- How the issuing of a pair went, by the time of issue: it was not read, the lifetimes did not fit
it, or an issuance was made for it. -/
inductive Attempted (i : TokenIssuer) (tr : Trace) : Outcome TokenPair → Prop where
  | refused {e : Failure} (hno : ∀ t, ¬IssuesAt tr t) : Attempted i tr (.finished (.error e))
  | tooLong {t : Time.Instant} (ht : ∀ t', IssuesAt tr t' ↔ t' = t) (h : ¬Overruns i t)
      (hl : ∃ k, TokenIssuer.maxLifetime < i.ttl k) :
      Attempted i tr (.finished (.error TokenIssuer.lifetimeOutOfRange))
  | breaksOff {t : Time.Instant} (ht : ∀ t', IssuesAt tr t' ↔ t' = t) (h : Overruns i t) :
      Attempted i tr .crashed
  | issued {m : Issuance} {r : Except Failure TokenPair} (hf : Fits i m)
      (ht : ∀ t, IssuesAt tr t ↔ t = m.issuedAt) (hr : ∀ pair, r = .ok pair → pair = m.pair i) :
      Attempted i tr (.finished r)

theorem Attempted.crashed_iff {out : Outcome TokenPair} (h : Attempted i tr out) :
    out = .crashed ↔ OutOfCalendar i tr := by
  cases h with
  | refused hno => exact iff_of_false (by simp) fun ⟨t, hi, _⟩ => hno t hi
  | tooLong ht h =>
    refine iff_of_false (by simp) fun ⟨t', hi, ho⟩ => ?_
    obtain rfl := (ht t').1 hi
    exact h ho
  | breaksOff ht h => exact iff_of_true rfl ⟨_, (ht _).2 rfl, h⟩
  | issued hf ht =>
    refine iff_of_false (by simp) fun ⟨t, hi, ho⟩ => ?_
    obtain rfl := (ht t).1 hi
    exact hf.not_overruns ho

theorem Stopped.attempted {out : Outcome TokenPair} (h : Stopped i newer out)
    (ha : AwaitsTime older) : Attempted i (newer ++ older) out := by
  cases h with
  | lifetime hd h hl => exact .tooLong (fun _ => ha.issuesAt_iff hd) h hl
  | calendar hd h => exact .breaksOff (fun _ => ha.issuesAt_iff hd) h

/-- What is written after the time of issue was read does not change it. -/
theorem Attempted.of_writing {r : Except Failure TokenPair} (hf : Fits i m)
    (ht : ∀ t, IssuesAt older t ↔ t = m.issuedAt) (hn : newer.Writing)
    (hr : ∀ pair, r = .ok pair → pair = m.pair i) :
    Attempted i (newer ++ older) (.finished r) := by
  refine .issued hf (fun t => ?_) hr
  rw [issuesAt_append_of_ne fun o => hn.ne_now, ht]

theorem Kept.attempted {out : Outcome TokenPair} (h : Kept i m newer out) (hf : Fits i m)
    (ht : ∀ t, IssuesAt older t ↔ t = m.issuedAt) : Attempted i (newer ++ older) out := by
  have hn := h.writing
  cases h with
  | both => exact .of_writing hf ht hn fun pair hp => (Except.ok.inj hp).symm
  | one => exact .of_writing hf ht hn nofun
  | none => exact .of_writing hf ht hn nofun

theorem attempted_of_loggedIn {out : Outcome TokenPair} (h : v.LoggedIn tr out) :
    Attempted v.issuer tr out := by
  cases h with
  | refused hw hno => exact .refused hno
  | stopped hw hs ha => exact hs.attempted ha
  | issued hm hw hk ht => exact hk.attempted hm.fits ht

theorem attempted_of_redeemed {token : String} {out : Outcome TokenPair}
    (h : v.Redeemed token tr out) : Attempted v.issuer tr out := by
  cases h with
  | refused hw hno => exact .refused hno
  | stopped hw hs ha => exact hs.attempted ha
  | unkept hr hk => exact hk.attempted hr.minted.fits hr.issuedAt
  | @undone c r m newer older o d d' e k hr hn ho hq hq' =>
    rw [← List.cons_append, ← List.append_assoc]
    have hwo := hn.writing.cons (writes_of_revoke ho.question)
    have hwd := (hwo.cons (writes_of_revoke hq)).cons (writes_of_revoke hq')
    exact .of_writing hr.minted.fits hr.issuedAt hwd nofun
  | @rotated c r m gone newer older o hr hn ho hg =>
    rw [← List.cons_append, ← List.append_assoc]
    have hwo := hn.writing.cons (writes_of_revoke ho.question)
    have hwg : gone.Writing := by
      obtain ⟨-, rfl⟩ | ⟨p, d, -, rfl, hq⟩ := hg
      · exact Trace.writing_nil
      · exact Trace.writing_nil.cons (writes_of_revoke hq)
    exact .of_writing hr.minted.fits hr.issuedAt (hwg.append hwo) fun pair hp =>
      (Except.ok.inj hp).symm

/-! ## The end -/

/-- What is live when a request is over. -/
def Settled (i : TokenIssuer) (w : World) (tr : Trace) : Outcome TokenPair → Prop
  | .finished (.ok pair) => HandedOut i w tr pair
  | .finished (.error _) => Undone i w tr
  | .crashed => Undone i w tr ∧ tr.Writeless

theorem Stopped.settled {out : Outcome TokenPair} (h : Stopped i newer out)
    (ha : Trace.Alone w (newer ++ older)) (hw : older.Writeless) :
    Settled i w (newer ++ older) out := by
  have hw' := h.writeless.append hw
  cases h with
  | lifetime => exact .of_writeless ha hw'
  | calendar => exact ⟨.of_writeless ha hw', hw'⟩

theorem Kept.settled {out : Outcome TokenPair} (h : Kept i m newer out)
    (ha : Trace.Alone w (newer ++ older)) (hw : older.Writeless) (hm : Minted i m older)
    (hc : Covers w) (hd : Definite newer) : Settled i w (newer ++ older) out := by
  cases out with
  | finished r =>
    cases r with
    | error e => exact h.undone ha hw hm hc hd
    | ok pair =>
      cases h with
      | both hs => exact ⟨m, hm.append newer, rfl, live?_both hs ha hw hm hc⟩
  | crashed => cases h

theorem settled_of_loggedIn {out : Outcome TokenPair} (h : v.LoggedIn tr out) (hc : Covers w)
    (ha : tr.Alone w) (hd : Definite tr) : Settled v.issuer w tr out := by
  cases h with
  | refused hw => exact .of_writeless ha hw
  | stopped hw hs => exact hs.settled ha hw
  | issued hm hw hk => exact hk.settled ha hw hm hc fun o ho => hd o (List.mem_append_left _ ho)

theorem settled_of_redeemed {token : String} {out : Outcome TokenPair}
    (h : v.Redeemed token tr out) (hc : Covers w) (ha : tr.Alone w) (hd : Definite tr) :
    Settled v.issuer w tr out ∧ ∀ pair, out = .finished (.ok pair) →
      ∃ c r, v.Presented token c r tr ∧ Retired w tr c r := by
  cases h with
  | refused hw => exact ⟨.of_writeless ha hw, by simp⟩
  | stopped hw hs =>
    refine ⟨hs.settled ha hw, fun pair hp => ?_⟩
    cases hp
    cases hs
  | unkept hr hk =>
    refine ⟨hk.settled ha hr.writeless hr.minted hc fun o ho => ?_, by simp⟩
    exact hd o (List.mem_append_left _ ho)
  | @undone c r m newer older o d d' e k hr hn ho hq hq' =>
    rw [← List.cons_append, ← List.append_assoc] at ha hd ⊢
    refine ⟨undone_of_discarded ha hr.writeless hr.minted hc ?_ hn.about ho hq hq', by simp⟩
    exact fun o ho => hd o (List.mem_append_left _ ho)
  | @rotated c r m gone newer older o hr hn ho hg =>
    have hdg : Definite gone := fun o ho => hd o (List.mem_append_left _ ho)
    obtain ⟨hout, hret⟩ := handedOut_of_rotated ha hc hdg hr hn ho hg
    refine ⟨hout, fun _ _ => ⟨c, r, hr.presented.mono fun x hx => ?_, hret⟩⟩
    exact List.mem_append_right _ (List.mem_cons_of_mem _ (List.mem_append_right _ hx))

theorem oldOrNew_of_redeemed {token : String} {out : Outcome TokenPair}
    (h : v.Redeemed token tr out) (hc : Covers w) (ha : tr.Alone w) (hd : Definite tr) {s : Uuid}
    (hs : Found tr s) : OldOrNew v.issuer w tr s := by
  have hset := (settled_of_redeemed h hc ha hd).1
  cases h with
  | refused hw => exact (Midway.waiting hw).oldOrNew hc ha hd hs
  | stopped hw hst => exact (Midway.waiting (hst.writeless.append hw)).oldOrNew hc ha hd hs
  | unkept hr hk =>
    obtain ⟨o, text, ho, hso⟩ := hs.of_append hk.writing
    obtain ⟨e, he, -, -⟩ := exists_live?_of_found hc ha.of_append hr.writeless ho hso
    exact .inl ⟨e, he, hset.kept _ _ he⟩
  | @undone c r m newer older o d d' e k hr hn ho hq hq' =>
    refine (Midway.discarding hr.minted hr.writeless hn hr.presented.found ho
      (fun x hx => ?_)).oldOrNew hc ha hd hs
    simp only [List.mem_cons, List.not_mem_nil, or_false] at hx
    rcases hx with rfl | rfl
    · exact ⟨_, hq'⟩
    · exact ⟨_, hq⟩
  | rotated =>
    obtain ⟨m, hm, -, hl⟩ := hset
    exact .inr ⟨m, hm, hl⟩

/-- What is live at any time of an exchange that found its record. -/
theorem oldOrNew_of_refresh {token : String} {b : Action TokenPair} (hc : Covers w)
    (hr : (v.refresh token).Reaches tr b) (ha : tr.Alone w) (hd : Definite tr) {s : Uuid}
    (hs : Found tr s) : OldOrNew v.issuer w tr s := by
  obtain ⟨hb, -⟩ := hr.along (v.along_refresh token) (Trace.all_true tr)
  cases b with
  | ask q next => exact hb.1.2.oldOrNew hc ha hd hs
  | both q q' next => exact hb.1.1.2.oldOrNew hc ha hd hs
  | crash => exact oldOrNew_of_redeemed hb hc ha hd hs
  | done r => exact oldOrNew_of_redeemed hb hc ha hd hs

/-- No call fails unseen if none is told to. -/
theorem Definite.of_play {α : Type} {rs : List (Bool × Reaction)} {a b : Action α}
    (h : play w rs ([], a) = some (tr, b)) (hrs : ∀ r ∈ rs, ∀ e, r.2 ≠ .unseen e) :
    Definite tr := by
  intro o ho e he
  obtain ho | ⟨r, hr, hhow⟩ := exists_mem_of_play h ho
  · cases ho
  · exact hrs r hr e (hhow.symm.trans he)

/-- A login or an exchange that runs alone, with calls that fail without effect, either hands out a
pair whose records are live for their lifetimes, the old session being removed, or leaves all that
was live before as it was, but for new records whose removal failed. It breaks off exactly where a
lifetime leads out of the calendar, with nothing written. At any time of an exchange the old session
is live or both new ones are. -/
theorem opening_all_or_nothing (hc : Covers w) {q : Opening} {b : Action TokenPair}
    (hr : (q.action v).Reaches tr b) (ha : tr.Alone w) (hd : Definite tr) :
    (∀ pair, b = .done (.ok pair) → HandedOut v.issuer w tr pair ∧
      ∀ token, q = .refresh token → ∃ c r, v.Presented token c r tr ∧ Retired w tr c r) ∧
    (∀ e, b = .done (.error e) → Undone v.issuer w tr) ∧
    (b = .crash → Undone v.issuer w tr ∧ tr.Writeless) ∧
    (∀ out : Outcome TokenPair, b = out.action → (out = .crashed ↔ OutOfCalendar v.issuer tr)) ∧
    (∀ token c r, q = .refresh token → v.Presented token c r tr →
      OldOrNew v.issuer w tr c.session) := by
  cases q with
  | logIn email password =>
    have hb := (hr.along (v.along_logIn email password) (Trace.all_true tr)).1
    refine ⟨fun pair hp => ⟨?_, by simp⟩, fun e he => ?_, fun hx => ?_, fun out ho => ?_, by simp⟩
    · subst hp
      exact settled_of_loggedIn hb hc ha hd
    · subst he
      exact settled_of_loggedIn hb hc ha hd
    · subst hx
      exact settled_of_loggedIn hb hc ha hd
    · subst ho
      exact (attempted_of_loggedIn (along_action.1 hb)).crashed_iff
  | refresh token =>
    have hb := (hr.along (v.along_refresh token) (Trace.all_true tr)).1
    refine ⟨fun pair hp => ?_, fun e he => ?_, fun hx => ?_, fun out ho => ?_,
      fun token' c r ht hpr => ?_⟩
    · subst hp
      obtain ⟨hset, hret⟩ := settled_of_redeemed hb hc ha hd
      refine ⟨hset, fun token' ht => ?_⟩
      cases ht
      exact hret pair rfl
    · subst he
      exact (settled_of_redeemed hb hc ha hd).1
    · subst hx
      exact (settled_of_redeemed hb hc ha hd).1
    · subst ho
      exact (attempted_of_redeemed (along_action.1 hb)).crashed_iff
    · exact oldOrNew_of_refresh hc hr ha hd hpr.found

/-- A login hands out a live pair, and breaks off with a lifetime of three hundred thousand
years. -/
theorem logIn_hands_out_or_breaks_off :
    (∃ tr pair, smallLogIn smallServices (smallReactions .works .works) =
        some (tr, .done (.ok pair)) ∧ HandedOut smallServices.issuer smallWorld tr pair) ∧
    ∃ tr v, v.issuer = ⟨smallServices.issuer.accessKey, smallServices.issuer.refreshKey,
        9000000000000, 9000000000001⟩ ∧
      smallLogIn v ((smallReactions .works .works).take 3) = some (tr, .crash) ∧
        Undone v.issuer smallWorld tr ∧ OutOfCalendar v.issuer tr := by
  constructor
  · obtain ⟨tr, pair, h⟩ : ∃ tr pair, smallLogIn smallServices (smallReactions .works .works) =
        some (tr, .done (.ok pair)) := ⟨_, _, rfl⟩
    obtain ⟨hr, ha⟩ := reaches_of_play h .start trivial
    have hd : Definite tr := .of_play h (by simp [smallReactions])
    have hall := opening_all_or_nothing (q := .logIn "ada@example.com" "secret")
      smallWorld_covers hr ha hd
    exact ⟨tr, pair, h, (hall.1 pair rfl).1⟩
  · obtain ⟨tr, h⟩ : ∃ tr, smallLogIn { smallServices with issuer :=
          ⟨smallServices.issuer.accessKey, smallServices.issuer.refreshKey, 9000000000000,
            9000000000001⟩ } ((smallReactions .works .works).take 3) = some (tr, .crash) := ⟨_, rfl⟩
    obtain ⟨hr, ha⟩ := reaches_of_play h .start trivial
    have hd : Definite tr := .of_play h (by simp [smallReactions])
    have hall := opening_all_or_nothing (q := .logIn "ada@example.com" "secret")
      smallWorld_covers hr ha hd
    exact ⟨tr, _, rfl, h, (hall.2.2.1 rfl).1, (hall.2.2.2.1 .crashed rfl).1 rfl⟩

end Gatehouse.Session
