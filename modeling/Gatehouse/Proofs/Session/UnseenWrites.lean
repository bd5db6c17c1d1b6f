import Gatehouse.Proofs.Session.AllOrNothing
import Gatehouse.Proofs.Session.Authority

/-!
# Failures that took effect

A call that does not finish in time is reported to have failed, although it may have taken effect.
If every removal takes effect, a login or an exchange that fails leaves nothing behind exactly when
no record was kept unseen, and the old session of an exchange survives exactly when its removal was
not reported to have failed (`failure_undone_iff`).
-/

namespace Gatehouse.Session

open Gatehouse.Action

/-- Whether every removal took effect, reported or not. -/
def RemovalsWork (tr : Trace) : Prop :=
  ∀ o ∈ tr, ∀ key, o.question = .store (.delete key) → o.how = .works ∨ ∃ e, o.how = .unseen e

/-- Whether a text was kept although that was reported to have failed. -/
def KeptUnseen (tr : Trace) : Prop :=
  ∃ o ∈ tr, (∃ key value ttl, o.question = .store (.set key value ttl)) ∧ ∃ e, o.how = .unseen e

/-- Whether a session was removed although that was reported to have failed. -/
def RemovedUnseen (tr : Trace) (s : Uuid) : Prop :=
  ∃ o ∈ tr, o.question = .store (revokeCall s) ∧ ∃ e, o.how = .unseen e

/-- Whether nothing is live that was not live before. -/
def NothingNew (w : World) (tr : Trace) : Prop :=
  ∀ key e, tr.live? w key = some e → w.store.live? w.moment key = some e

/-- Whether no session of an issuance of the trace is live. -/
def NoneIssued (i : TokenIssuer) (w : World) (tr : Trace) : Prop :=
  ∀ m k, Minted i m tr → tr.live? w (storeKey (m.session k)) = none

variable {v : Services} {i : TokenIssuer} {m : Issuance} {w : World} {tr newer older : Trace}
  {key : String}

/-! ## Nothing written -/

theorem not_keptUnseen_of_writeless (hw : tr.Writeless) : ¬KeptUnseen tr := by
  rintro ⟨o, ho, ⟨key, value, ttl, hq⟩, -⟩
  refine hw o ho ?_
  rw [hq]
  trivial

theorem not_removedUnseen_of_writeless (hw : tr.Writeless) {s : Uuid} : ¬RemovedUnseen tr s := by
  rintro ⟨o, ho, hq, -⟩
  refine hw o ho ?_
  rw [hq]
  trivial

theorem nothingNew_of_writeless (ha : tr.Alone w) (hw : tr.Writeless) : NothingNew w tr := by
  intro key e he
  rwa [Trace.live?_of_writeless ha hw] at he

theorem noneIssued_of_nothingNew (hc : Covers w) (ha : tr.Alone w) (h : NothingNew w tr) :
    NoneIssued i w tr := by
  intro m k hm
  cases hl : tr.live? w (storeKey (m.session k)) with
  | none => rfl
  | some e =>
    have hold := h _ e hl
    rw [hc.live?_eq_none (hm.not_mem_drawn ha k)] at hold
    cases hold

/-! ## Calls that keep a record -/

/-- A record that is reported not to be kept is live exactly if it was kept unseen. -/
theorem live?_error_iff {res : TokenKind → Except Failure Unit} (h : Saved i m res newer)
    (ha : Trace.Alone w (newer ++ older)) (hw : older.Writeless) (hm : Minted i m older)
    (hc : Covers w) (hpos : ∀ k, 0 < i.ttl k) {j : TokenKind} {e : Failure}
    (he : res j = .error e) {x : Observation} (hx : x ∈ newer)
    (hq : x.question = .store (m.save i j)) :
    Trace.live? w (newer ++ older) (storeKey (m.session j)) = none ↔ ∀ e, x.how ≠ .unseen e := by
  obtain ⟨hs, ht, -, hl⟩ := live?_saved h ha hw hm hc hx hq
  rw [hl]
  constructor
  · rintro hn e' hu
    obtain ⟨b, how, a, rfl⟩ := hs
    cases hu
    have h0 : (i.sessionTtl j).nanos ≠ 0 := nanos_sessionTtl_ne_zero (hpos j)
    simp [Observation.leaves, Issuance.save, saveCall, Store.Memory.leaves, h0] at hn
  · intro hu
    rw [he] at hs
    rw [Observation.leaves_of_error ht hs hu]
    rfl

/-- A record that is reported to be kept was not kept unseen. -/
theorem ne_unseen_of_ok {o : Observation} {call : Store.Call} {x : call.Reply} (ht : o.Truthful)
    (ho : o.Saw (.store call) (.ok x)) (e : Failure) : o.how ≠ .unseen e := by
  obtain ⟨b, how, a, rfl⟩ := ho
  rintro rfl
  obtain ⟨hh, -⟩ | ⟨e', hh, -⟩ | ⟨e', -, hx, -⟩ := ht.store
  · cases hh
  · cases hh
  · cases hx

theorem leaves_of_removal {o : Observation} {s : Uuid} (hq : o.question = .store (revokeCall s))
    (h : o.how = .works ∨ ∃ e, o.how = .unseen e) : o.leaves (storeKey s) = some none := by
  obtain ⟨b, q, how, x, a⟩ := o
  cases hq
  obtain rfl | ⟨e, rfl⟩ := h <;>
    simp [Observation.leaves, Store.Memory.leaves, revokeCall]

/-! ## A pair that is not kept -/

/-- No record is kept unseen exactly if each one that is reported not to be kept is not live. -/
theorem not_keptUnseen_iff {res : TokenKind → Except Failure Unit} (h : Saved i m res newer)
    (ha : Trace.Alone w (newer ++ older)) (hw : older.Writeless) (hm : Minted i m older)
    (hc : Covers w) (hpos : ∀ k, 0 < i.ttl k) :
    ¬KeptUnseen (newer ++ older) ↔ ∀ k e, res k = .error e →
      Trace.live? w (newer ++ older) (storeKey (m.session k)) = none := by
  constructor
  · intro hu k e he
    obtain ⟨x, hx, hq⟩ := h.exists k
    refine (live?_error_iff h ha hw hm hc hpos he hx hq).2 fun e' hun => hu ?_
    exact ⟨x, List.mem_append_left _ hx, ⟨_, _, _, hq⟩, e', hun⟩
  · rintro hall ⟨x, hx, hset, e', hun⟩
    rcases List.mem_append.1 hx with hx | hx
    · obtain ⟨k, hq⟩ := h.saves x hx
      obtain ⟨hs, ht, -, -⟩ := live?_saved h ha hw hm hc hx hq
      cases he : res k with
      | ok =>
        rw [he] at hs
        exact ne_unseen_of_ok ht hs e' hun
      | error e => exact (live?_error_iff h ha hw hm hc hpos he hx hq).1 (hall k e he) e' hun
    · exact not_keptUnseen_of_writeless hw ⟨x, hx, hset, e', hun⟩

theorem keptUnseen_cons_iff {o : Observation} (hq : o.question = .store (.delete key)) :
    KeptUnseen (o :: tr) ↔ KeptUnseen tr := by
  constructor
  · rintro ⟨x, hx, ⟨k, value, ttl, hset⟩, hu⟩
    rcases List.mem_cons.1 hx with rfl | hx
    · cases hq.symm.trans hset
    · exact ⟨x, hx, ⟨k, value, ttl, hset⟩, hu⟩
  · rintro ⟨x, hx, hset⟩
    exact ⟨x, List.mem_cons_of_mem _ hx, hset⟩

/-- The records of a pair that is not kept are gone exactly if none was kept unseen. -/
theorem gone_iff_of_kept {e : Failure} (h : Kept i m newer (.finished (.error e)))
    (ha : Trace.Alone w (newer ++ older)) (hw : older.Writeless) (hm : Minted i m older)
    (hc : Covers w) (hpos : ∀ k, 0 < i.ttl k) (hr : RemovalsWork newer) :
    (∀ k, Trace.live? w (newer ++ older) (storeKey (m.session k)) = none) ↔
      ¬KeptUnseen (newer ++ older) := by
  cases h with
  | @one saved res j e' d _ hs hj hje hdel =>
    have ha₁ : Trace.Alone w (d :: (saved ++ older)) := ha
    have ha₀ : Trace.Alone w (saved ++ older) := ha₁.2
    have hne := hm.session_ne ha₀.of_append j
    have hgone := leaves_of_removal hdel.question (hr d List.mem_cons_self _ hdel.question)
    show (∀ k, Trace.live? w (d :: (saved ++ older)) _ = none) ↔ ¬KeptUnseen (d :: (saved ++ older))
    rw [keptUnseen_cons_iff hdel.question, not_keptUnseen_iff hs ha₀ hw hm hc hpos]
    have hother : Trace.live? w (d :: (saved ++ older)) (storeKey (m.session j.other)) =
        Trace.live? w (saved ++ older) (storeKey (m.session j.other)) := by
      rw [Trace.live?_cons ha₁, Observation.leaves_of_key_ne hdel.question (storeKey_ne hne),
        Option.getD_none]
    constructor
    · intro hall k e he
      rcases j.eq_or_eq_other k with rfl | rfl
      · cases hj.symm.trans he
      · rw [← hother, hall]
    · intro hall k
      rcases j.eq_or_eq_other k with rfl | rfl
      · rw [Trace.live?_cons ha₁, hgone]
        rfl
      · rw [hother, hall _ _ hje]
  | none hs herr =>
    rw [not_keptUnseen_iff hs ha hw hm hc hpos]
    refine ⟨fun hall k _ _ => hall k, fun hall k => ?_⟩
    obtain ⟨e, he⟩ := herr k
    exact hall k e he

/-- Nothing is new exactly if no session of the only issuance is live. -/
theorem nothingNew_iff (ha : Trace.Alone w (newer ++ older)) (hw : older.Writeless)
    (hm : Minted i m older) (hc : Covers w) (h : About m newer) :
    NothingNew w (newer ++ older) ↔
      ∀ k, Trace.live? w (newer ++ older) (storeKey (m.session k)) = none := by
  constructor
  · intro hn k
    exact noneIssued_of_nothingNew hc ha hn m k (hm.append newer)
  · intro hall key e he
    by_cases hk : ∃ k, storeKey (m.session k) = key
    · obtain ⟨k, rfl⟩ := hk
      rw [hall k] at he
      cases he
    · rwa [live?_of_about ha h fun k hk' => hk ⟨k, hk'⟩,
        Trace.live?_of_writeless ha.of_append hw] at he

/-! ## The end -/

/-- A login that fails leaves nothing behind exactly if no record was kept unseen. -/
theorem nothingNew_iff_of_loggedIn {e : Failure} (h : v.LoggedIn tr (.finished (.error e)))
    (hc : Covers w) (ha : tr.Alone w) (hpos : ∀ k, 0 < v.issuer.ttl k) (hr : RemovalsWork tr) :
    NothingNew w tr ↔ ¬KeptUnseen tr := by
  cases h with
  | refused hw =>
    exact iff_of_true (nothingNew_of_writeless ha hw) (not_keptUnseen_of_writeless hw)
  | stopped hw hs =>
    have hw' := hs.writeless.append hw
    exact iff_of_true (nothingNew_of_writeless ha hw') (not_keptUnseen_of_writeless hw')
  | issued hm hw hk =>
    rw [nothingNew_iff ha hw hm hc hk.about]
    exact gone_iff_of_kept hk ha hw hm hc hpos fun o ho => hr o (List.mem_append_left _ ho)

theorem not_removedUnseen_of_about {s : Uuid} (hw : older.Writeless) (h : About m newer)
    (hs : ∀ k, storeKey (m.session k) ≠ storeKey s) : ¬RemovedUnseen (newer ++ older) s := by
  rintro ⟨o, ho, hq, e, hu⟩
  rcases List.mem_append.1 ho with ho | ho
  · obtain ⟨call, k, hcall, hkey⟩ := h o ho
    cases hcall.symm.trans hq
    exact hs k hkey.symm
  · exact not_removedUnseen_of_writeless hw ⟨o, ho, hq, e, hu⟩

theorem noneIssued_iff (ha : Trace.Alone w (newer ++ older)) (hw : older.Writeless)
    (hm : Minted i m older) (hc : Covers w) (h : About m newer) :
    NoneIssued i w (newer ++ older) ↔
      ∀ k, Trace.live? w (newer ++ older) (storeKey (m.session k)) = none :=
  ⟨fun hn k => hn m k (hm.append newer), fun hall =>
    noneIssued_of_nothingNew hc ha ((nothingNew_iff ha hw hm hc h).2 hall)⟩

/-- After an exchange whose old session is reported not to be removed, it is not live. -/
theorem live?_of_removal_error {o d d' : Observation} {s : Uuid} {e : Failure}
    {k : TokenKind} (ha : Trace.Alone w (d' :: d :: o :: older))
    (hr : RemovalsWork (d' :: d :: o :: older))
    (ho : o.Saw (.store (revokeCall s)) (.error e))
    (hq : d.question = .store (revokeCall (m.session k)))
    (hq' : d'.question = .store (revokeCall (m.session k.other)))
    (hs : ∀ k, storeKey (m.session k) ≠ storeKey s) :
    Trace.live? w (d' :: d :: o :: older) (storeKey s) = none := by
  have hgone := leaves_of_removal ho.question (hr o (by simp) _ ho.question)
  rw [Trace.live?_cons ha, Observation.leaves_of_key_ne hq' (hs _), Option.getD_none,
    Trace.live?_cons ha.2, Observation.leaves_of_key_ne hq (hs _), Option.getD_none,
    Trace.live?_cons ha.2.2, hgone]
  rfl

/-- An exchange that fails can be tried again exactly if no record was kept unseen and the removal
of the old session was not reported to have failed. -/
theorem stillLive_iff_of_redeemed {token : String} {e : Failure} {c : Claims} {r : SessionRecord}
    (h : v.Redeemed token tr (.finished (.error e))) (hp : v.Presented token c r tr)
    (hc : Covers w) (ha : tr.Alone w) (hpos : ∀ k, 0 < v.issuer.ttl k) (hr : RemovalsWork tr) :
    StillLive w tr c.session ∧ NoneIssued v.issuer w tr ↔
      ¬KeptUnseen tr ∧ ¬RemovedUnseen tr c.session := by
  have plain : tr.Writeless → (StillLive w tr c.session ∧ NoneIssued v.issuer w tr ↔
      ¬KeptUnseen tr ∧ ¬RemovedUnseen tr c.session) := by
    intro hw
    refine iff_of_true ⟨?_, noneIssued_of_nothingNew hc ha (nothingNew_of_writeless ha hw)⟩
      ⟨not_keptUnseen_of_writeless hw, not_removedUnseen_of_writeless hw⟩
    exact stillLive_of_leaves hc (show Trace.Alone w ([] ++ tr) from ha) hw hp.found (by simp)
  cases h with
  | refused hw => exact plain hw
  | stopped hw hs => exact plain (hs.writeless.append hw)
  | @unkept c' r' m newer older e hrn hk =>
    have hf := hp.found.of_append hk.writing
    have hsd := hf.mem_drawn hc ha.of_append hrn.writeless
    have hne : ∀ k, storeKey (m.session k) ≠ storeKey c.session :=
      fun k => (storeKey_ne_of_mem hrn.minted ha.of_append hsd k).symm
    have hlive := stillLive_of_leaves hc ha hrn.writeless hf (hk.about.leaves hne)
    have hrem := not_removedUnseen_of_about hrn.writeless hk.about hne
    rw [and_iff_right hlive, and_iff_left hrem,
      noneIssued_iff ha hrn.writeless hrn.minted hc hk.about]
    exact gone_iff_of_kept hk ha hrn.writeless hrn.minted hc hpos fun o ho =>
      hr o (List.mem_append_left _ ho)
  | @undone c' r' m newer older o d d' e k hrn hn ho hq hq' =>
    have ha₁ : Trace.Alone w (d' :: d :: o :: (newer ++ older)) := ha
    have hold : older.Alone w := by
      have ha₀ : Trace.Alone w (newer ++ older) := ha₁.2.2.2
      exact ha₀.of_append
    have hf : Found older c.session := by
      rw [← List.cons_append, ← List.append_assoc] at hp
      have hwo := hn.writing.cons (writes_of_revoke ho.question)
      exact hp.found.of_append ((hwo.cons (writes_of_revoke hq)).cons (writes_of_revoke hq'))
    obtain hcs := hrn.eq_of_found hf
    have hsd := hf.mem_drawn hc hold hrn.writeless
    have hne : ∀ k, storeKey (m.session k) ≠ storeKey c.session :=
      fun k => (storeKey_ne_of_mem hrn.minted hold hsd k).symm
    rw [hcs] at hne ⊢
    -- the removal took effect although it was reported to have failed, so neither side holds
    refine iff_of_false (fun hlive => ?_) fun hno => hno.2 ⟨o, by simp, ho.question, ?_⟩
    · obtain ⟨⟨x, -, hx⟩, -⟩ := hlive
      have hnone := live?_of_removal_error ha₁ hr ho hq hq' hne
      cases hx.symm.trans hnone
    · obtain hh | hh := hr o (by simp) _ ho.question
      · obtain ⟨b, how, a, rfl⟩ := ho
        cases hh
        cases (congrArg Prod.fst (Option.some.inj (ha₁.2.2.1.2)))
      · exact hh

/-- Every removal takes effect if no call is told to fail without effect. -/
theorem RemovalsWork.of_play {rs : List (Bool × Reaction)} {a b : Action TokenPair}
    (h : play w rs ([], a) = some (tr, b)) (ha : tr.Alone w)
    (hrs : ∀ r ∈ rs, ∀ e, r.2 ≠ .fails e) : RemovalsWork tr := by
  intro o ho key hq
  have ht := ha.truthful o ho
  obtain ho' | ⟨r, hr, hhow⟩ := exists_mem_of_play h ho
  · cases ho'
  · obtain ⟨b, q, how, x, a⟩ := o
    cases hq
    obtain ⟨rfl, -⟩ | ⟨e, rfl, -⟩ | ⟨e, rfl, -⟩ := ht.store
    · exact .inl rfl
    · exact absurd hhow.symm (hrs r hr e)
    · exact .inr ⟨e, rfl⟩

/-- A login or an exchange that runs alone and fails, while every removal takes effect, leaves
nothing behind exactly if no record was kept unseen; and an exchange that had found its record can
be tried again exactly if, moreover, the removal of the old session was not reported to have
failed. -/
theorem failure_undone_iff {s : Settings.AuthSettings}
    (hv : v.Configured s) (hc : Covers w) {q : Opening} {e : Failure}
    (hr : (q.action v).Reaches tr (.done (.error e))) (ha : tr.Alone w) (hrem : RemovalsWork tr) :
    (∀ email password, q = .logIn email password → (NothingNew w tr ↔ ¬KeptUnseen tr)) ∧
    (∀ token c r, q = .refresh token → v.Presented token c r tr →
      (StillLive w tr c.session ∧ NoneIssued v.issuer w tr ↔
        ¬KeptUnseen tr ∧ ¬RemovedUnseen tr c.session)) := by
  have hpos := hv.ttl_pos
  refine ⟨fun email password hq => ?_, fun token c r hq hp => ?_⟩
  · subst hq
    have hb := (hr.along (v.along_logIn email password) (Trace.all_true tr)).1
    exact nothingNew_iff_of_loggedIn hb hc ha hpos hrem
  · subst hq
    have hb := (hr.along (v.along_refresh token) (Trace.all_true tr)).1
    exact stillLive_iff_of_redeemed hb hp hc ha hpos hrem

/-- The reactions to an exchange whose removal of the old session is lost. -/
def smallLostRemoval : List (Bool × Reaction) :=
  smallRenewal.take 8 ++ [(false, .unseen (.cache "")), (false, .works), (false, .works)]

/-- An exchange after the login of the small world, whose removal of the old session takes effect
and is reported to have failed. -/
theorem exists_small_lost_removal :
    ∃ tr₁ pair tr e c r,
      smallLogIn smallServices (smallReactions .works .works) = some (tr₁, .done (.ok pair)) ∧
      play (tr₁.world smallWorld) smallLostRemoval
        ([], smallServices.refresh (pair.token .refresh).text) = some (tr, .done (.error e)) ∧
      smallServices.Presented (pair.token .refresh).text c r tr ∧ RemovedUnseen tr c.session := by
  -- only the verification of the token is not left to evaluation
  obtain ⟨tr₁, pair, newer, e, r, w, o, o', h₁, hw, hg, he, ho, ho', h₂, hlost⟩ :
      ∃ tr₁ pair newer e r w o o',
      smallLogIn smallServices (smallReactions .works .works) = some (tr₁, .done (.ok pair)) ∧
      tr₁.world smallWorld = w ∧
      w.get? (storeKey (pair.token .refresh).session) = some (recordText r) ∧
      (pair.token .refresh).expiresAt = ⟨1600, 0⟩ ∧
      o = ⟨w, .now, .shows ⟨1010, 0⟩, ⟨1010, 0⟩, { w with clock := ⟨1010, 0⟩ }⟩ ∧
      o' = ⟨{ w with clock := ⟨1010, 0⟩ }, .store (.get (storeKey (pair.token .refresh).session)),
        .works, .ok (some (recordText r)), { w with clock := ⟨1010, 0⟩ }⟩ ∧
      play w (smallLostRemoval.drop 2)
        ([o', o], smallServices.renew (pair.token .refresh).session r) =
          some (newer ++ [o', o], .done (.error e)) ∧
      RemovedUnseen newer (pair.token .refresh).session :=
    ⟨_, _, [_, _, _, _, _, _, _, _, _], _,
      (SessionRecord.fresh (.ofNat 1) [⟨.ofNat 2, "Admin"⟩]).bind (.ofNat 4), _, _, _,
      rfl, rfl, rfl, rfl, rfl, rfl, rfl,
      _, List.mem_cons_of_mem _ (List.mem_cons_of_mem _ List.mem_cons_self), rfl, _, rfl⟩
  obtain ⟨m, hm, rfl⟩ := Returned.logIn.minted (smallState_reachable h₁) (a := 0) rfl
  rw [Issuance.pair_token] at hg he ho' h₂ hlost
  have ht : Timely smallServices.verifier.leeway (m.expiresAt .refresh) ⟨1010, 0⟩ := by
    rw [show m.expiresAt .refresh = ⟨1600, 0⟩ from he]
    exact ⟨by decide, by decide⟩
  have hv := verify_of_timely (v := smallServices) (k := .refresh) rfl hm.fits ht
  subst hw
  have hplay : play (tr₁.world smallWorld) smallLostRemoval
      ([], smallServices.refresh (m.token smallServices.issuer .refresh).text) =
        some (newer ++ [o', o], .done (.error e)) := by
    rw [← h₂, ho, ho']
    exact play_refresh hv hg (smallLostRemoval.drop 2)
  obtain ⟨x, hx, hq⟩ := hlost
  exact ⟨tr₁, _, _, e, m.claims .refresh, r, h₁, hplay, ⟨⟨o, _, by simp, ⟨_, _, _, ho⟩, hv⟩,
    ⟨o', _, by simp, ⟨_, _, _, ho'⟩, readRecord?_recordText r⟩⟩,
    x, List.mem_append_left _ hx, hq⟩

/-- A login whose two records are kept unseen fails, and leaves both behind; and an exchange whose
removal of the old session is lost fails, and leaves nothing to try again with. -/
theorem unseen_failures_are_not_undone :
    (∃ tr e, smallLogIn smallServices
        (smallReactions (.unseen (.cache "")) (.unseen (.cache ""))) =
          some (tr, .done (.error e)) ∧ RemovalsWork tr ∧ ¬NothingNew smallWorld tr) ∧
    ∃ (S : RunState (workload smallServices)) (pair : TokenPair) (tr : Trace) (e : Failure)
      (c : Claims) (r : SessionRecord),
      S.Reachable ∧ (∃ t, S.threads[0]? = some t ∧ Returned pair t) ∧
      play S.world smallLostRemoval ([], smallServices.refresh (pair.token .refresh).text) =
        some (tr, .done (.error e)) ∧ RemovalsWork tr ∧
      smallServices.Presented (pair.token .refresh).text c r tr ∧
      ¬(StillLive S.world tr c.session ∧ NoneIssued smallServices.issuer S.world tr) := by
  constructor
  · obtain ⟨tr, e, h, hun⟩ : ∃ tr e,
        smallLogIn smallServices (smallReactions (.unseen (.cache "")) (.unseen (.cache ""))) =
          some (tr, .done (.error e)) ∧ KeptUnseen tr :=
      ⟨_, _, rfl, _, List.mem_cons_self, ⟨_, _, _, rfl⟩, _, rfl⟩
    obtain ⟨hr, ha⟩ := reaches_of_play h .start trivial
    have hrem : RemovalsWork tr := .of_play h ha (by simp [smallReactions])
    have hall := failure_undone_iff smallServices_configured smallWorld_covers
      (q := .logIn "ada@example.com" "secret") hr ha hrem
    exact ⟨tr, e, h, hrem, fun hn => (hall.1 _ _ rfl).1 hn hun⟩
  · obtain ⟨tr₁, pair, tr, e, c, r, h₁, h, hp, hlost⟩ := exists_small_lost_removal
    have hS := smallState_reachable h₁
    obtain ⟨hr, ha⟩ := reaches_of_play h .start trivial
    have hrem : RemovalsWork tr := .of_play h ha (by simp [smallLostRemoval, smallRenewal])
    have hall := failure_undone_iff smallServices_configured (covers_of_reachable hS)
      (q := .refresh (pair.token .refresh).text) hr ha hrem
    exact ⟨_, pair, tr, e, c, r, hS, ⟨_, rfl, .logIn⟩, h, hrem, hp, fun hboth =>
      ((hall.2 _ _ _ rfl hp).1 hboth).2 hlost⟩

end Gatehouse.Session
