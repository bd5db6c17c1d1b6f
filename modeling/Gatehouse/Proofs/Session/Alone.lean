import Gatehouse.Proofs.Run.Log
import Gatehouse.Proofs.Session.Opening

/-!
# Opening sessions alone

What is live while one login or one exchange runs alone, in a world whose identifiers in use cover
the store (`Covers`): the sessions of an issuance were not there before (`Covers.live?_eq_none`),
the keeping of a pair leaves under each of its sessions what the call for it left (`live?_saved`),
and all that is kept or removed for an issuance leaves the other sessions as they were
(`live?_of_about`).
-/

namespace Gatehouse.Session

open Gatehouse.Action

/-- Whether every identifier that the store knows is in use. -/
def Covers (w : World) : Prop :=
  ∀ e ∈ w.store.entries, ∀ s, (e.key = storeKey s ∨
    ∃ r, readRecord? e.value = some r ∧ r.pairedWith = some s) → s ∈ w.drawn

/-- What is kept for a token of an issuance, from a moment on. -/
def Issuance.entry (m : Issuance) (i : TokenIssuer) (moment : Nat) (k : TokenKind) : Store.Entry :=
  ⟨storeKey (m.session k), recordText (m.bound k), moment + (i.sessionTtl k).nanos⟩

variable {i : TokenIssuer} {m : Issuance} {w : World} {tr newer older : Trace} {key : String}

/-! ## Identifiers -/

theorem Covers.live?_eq_none (hc : Covers w) {s : Uuid} (hs : s ∉ w.drawn) :
    w.store.live? w.moment (storeKey s) = none := by
  cases h : w.store.live? w.moment (storeKey s) with
  | none => rfl
  | some e =>
    obtain ⟨he, hk, -⟩ := Store.Memory.live?_eq_some h
    exact absurd (hc e he s (.inl hk)) hs

theorem Minted.not_mem_drawn (hm : Minted i m tr) (ha : tr.Alone w) (k : TokenKind) :
    m.session k ∉ w.drawn := by
  obtain ⟨_, _, _, _, _, -, -, -, hd⟩ := hm.draws k
  exact ha.not_mem_drawn hd

theorem Minted.session_ne_of_solitary (hm : Minted i m tr) (hs : tr.Solitary w) (k : TokenKind) :
    m.session k ≠ m.session k.other := by
  obtain ⟨n, o, old, ho, ⟨o₁, o₂, o₃, rfl, h₁, h₂, h₃⟩, -⟩ := hm.observed
  have hne : m.session .access ≠ m.session .refresh := by
    obtain ⟨_, rfl⟩ := ho
    obtain ⟨⟨hb₃, ht₃⟩, ⟨-, ht₂⟩, -⟩ := hs.of_append
    obtain ⟨b₂, how₂, a₂, rfl⟩ := h₂
    obtain ⟨b₃, how₃, a₃, rfl⟩ := h₃
    have hin : m.session .access ∈ b₃.drawn := by
      rw [show b₃.drawn = a₂.drawn from hb₃.drawn, ht₂.freshId.2.2]
      exact List.mem_cons_self
    intro he
    exact ht₃.freshId.1 (he ▸ hin)
  cases k with
  | access => exact hne
  | refresh => exact hne.symm

theorem Minted.session_ne (hm : Minted i m tr) (ha : tr.Alone w) (k : TokenKind) :
    m.session k ≠ m.session k.other :=
  hm.session_ne_of_solitary ha.solitary k

theorem storeKey_ne {s t : Uuid} (h : s ≠ t) : storeKey s ≠ storeKey t :=
  fun he => h (storeKey_injective he)

/-! ## What is live -/

/-- Whether all observations are of calls about the sessions of an issuance. -/
def About (m : Issuance) (newer : Trace) : Prop :=
  ∀ o ∈ newer, ∃ call k, o.question = .store call ∧ call.key = storeKey (m.session k)

theorem Saved.about {res : TokenKind → Except Failure Unit} (h : Saved i m res newer) :
    About m newer := by
  intro o ho
  obtain ⟨k, hk⟩ := h.saves o ho
  exact ⟨_, k, hk, rfl⟩

theorem Kept.about {out : Outcome TokenPair} (h : Kept i m newer out) : About m newer := by
  cases h with
  | both h => exact h.about
  | @one _ _ j _ _ _ h _ _ hd =>
    intro o ho
    rcases List.mem_cons.1 ho with rfl | ho
    · exact ⟨_, j, hd.question, rfl⟩
    · exact h.about o ho
  | none h _ => exact h.about

/-- What is kept and removed for an issuance leaves other keys as they were. -/
theorem live?_of_about (ha : Trace.Alone w (newer ++ older)) (h : About m newer)
    (hk : ∀ k, storeKey (m.session k) ≠ key) :
    Trace.live? w (newer ++ older) key = Trace.live? w older key := by
  refine Trace.live?_append_of_leaves ha fun o ho => ?_
  obtain ⟨call, k, hq, hkey⟩ := h o ho
  exact Observation.leaves_of_key_ne hq (hkey ▸ hk k)

theorem Saved.exists {res : TokenKind → Except Failure Unit} (h : Saved i m res newer)
    (j : TokenKind) : ∃ o ∈ newer, o.question = .store (m.save i j) := by
  obtain ⟨k, o, o', rfl, ho, ho'⟩ := h
  rcases k.eq_or_eq_other j with rfl | rfl
  · exact ⟨o, by simp, ho.question⟩
  · exact ⟨o', by simp, ho'.question⟩

/-- The keeping of a pair leaves under a session what the call for it left. -/
theorem live?_saved {res : TokenKind → Except Failure Unit} (h : Saved i m res newer)
    (ha : Trace.Alone w (newer ++ older)) (hw : older.Writeless) (hm : Minted i m older)
    (hc : Covers w) {j : TokenKind} {x : Observation} (hx : x ∈ newer)
    (hq : x.question = .store (m.save i j)) :
    x.Saw (.store (m.save i j)) (res j) ∧ x.Truthful ∧ x.before.moment = w.moment ∧
      Trace.live? w (newer ++ older) (storeKey (m.session j)) =
        (x.leaves (storeKey (m.session j))).getD none := by
  obtain ⟨k, o, o', rfl, ho, ho'⟩ := h
  have ha₂ : Trace.Alone w (o' :: o :: older) := ha
  have ha₁ : Trace.Alone w (o :: older) := ha₂.2
  have ha₀ : older.Alone w := ha₁.2
  have hold : ∀ j, Trace.live? w older (storeKey (m.session j)) = none := by
    intro j
    rw [Trace.live?_of_writeless ha₀ hw]
    exact hc.live?_eq_none (hm.not_mem_drawn ha₀ j)
  have hne := hm.session_ne ha₀ k
  -- of the two calls the one about the other session leaves this one as it is
  show x.Saw _ _ ∧ x.Truthful ∧ _ ∧ Trace.live? w (o' :: o :: older) _ = _
  simp only [List.mem_cons, List.not_mem_nil, or_false] at hx
  rcases hx with rfl | rfl
  · have hj : j = k.other := by
      rcases k.eq_or_eq_other j with rfl | rfl
      · exact absurd (session_eq_of_save_eq (ho'.question.symm.trans hq)) hne.symm
      · rfl
    subst hj
    refine ⟨ho', ha₂.1.2, by rw [ha₂.1.1, ha₁.moment_eq], ?_⟩
    rw [Trace.live?_cons ha₂, Trace.live?_cons ha₁, hold,
      Observation.leaves_of_key_ne ho.question (storeKey_ne hne), Option.getD_none]
  · have hj : j = k := by
      rcases k.eq_or_eq_other j with rfl | rfl
      · rfl
      · exact absurd (session_eq_of_save_eq (ho.question.symm.trans hq)) hne
    subst hj
    refine ⟨ho, ha₁.1.2, by rw [ha₁.1.1, ha₀.moment_eq], ?_⟩
    rw [Trace.live?_cons ha₂, Observation.leaves_of_key_ne ho'.question (storeKey_ne hne.symm),
      Option.getD_none, Trace.live?_cons ha₁, hold]

/-- A pair that is reported to be kept is live. -/
theorem live?_both (h : Saved i m (fun _ => .ok ()) newer) (ha : Trace.Alone w (newer ++ older))
    (hw : older.Writeless) (hm : Minted i m older) (hc : Covers w) (j : TokenKind) :
    Trace.live? w (newer ++ older) (storeKey (m.session j)) = some (m.entry i w.moment j) := by
  obtain ⟨x, hx, hq⟩ := h.exists j
  obtain ⟨ho, ht, hmo, hl⟩ := live?_saved h ha hw hm hc hx hq
  rw [hl, Observation.leaves_of_set ht ho, hmo]
  rfl

/-- The record of a session that was found before anything was written. -/
theorem exists_live?_of_found (hc : Covers w) (ha : older.Alone w) (hw : older.Writeless) {s : Uuid}
    {o : Observation} {text : String} (ho : o ∈ older)
    (hs : o.Saw (.store (.get (storeKey s))) (.ok (some text))) :
    ∃ e, w.store.live? w.moment (storeKey s) = some e ∧ e.value = text ∧ s ∈ w.drawn := by
  obtain ⟨newer, older', rfl⟩ := List.append_of_mem ho
  obtain ⟨⟨hb, ht⟩, ha₀⟩ := ha.of_append
  have ha' : Trace.Alone w older' := ha₀
  obtain ⟨b, how, a, rfl⟩ := hs
  dsimp only at hb
  have hg : b.get? (storeKey s) = some text := by
    obtain hx | ⟨⟨e, hx⟩, -⟩ := ht.get
    · exact (Except.ok.inj hx).symm
    · cases hx
  obtain ⟨e, he, hv⟩ := Option.map_eq_some_iff.1 hg
  have hw' : Trace.Writeless older' :=
    fun o ho => hw o (List.mem_append_right _ (List.mem_cons_of_mem _ ho))
  have hlive : w.store.live? w.moment (storeKey s) = some e := by
    rw [← Trace.live?_of_writeless ha' hw', Trace.live?, ← ha'.moment_eq, ← hb]
    exact he
  obtain ⟨hm, hk, -⟩ := Store.Memory.live?_eq_some hlive
  exact ⟨e, hlive, hv, hc e hm s (.inl hk)⟩

/-- Whether a session that was live before still is. -/
def StillLive (w : World) (tr : Trace) (s : Uuid) : Prop :=
  ∃ e, w.store.live? w.moment (storeKey s) = some e ∧ tr.live? w (storeKey s) = some e

/-- A session that was found stays live if nothing is left under it. -/
theorem stillLive_of_leaves {s : Uuid} (hc : Covers w) (ha : Trace.Alone w (newer ++ older))
    (hw : older.Writeless) (h : Found older s) (hl : ∀ o ∈ newer, o.leaves (storeKey s) = none) :
    StillLive w (newer ++ older) s := by
  obtain ⟨o, text, ho, hs⟩ := h
  obtain ⟨e, he, -, -⟩ := exists_live?_of_found hc ha.of_append hw ho hs
  refine ⟨e, he, ?_⟩
  rw [Trace.live?_append_of_leaves ha hl, Trace.live?_of_writeless ha.of_append hw, he]

/-! ## Single observations -/

/-- The next observation where a value is read that is there. -/
theorem next?_read {α β : Type} {text : String} {read? : String → Option α} {x : α} {doing : String}
    {f : Option α → Action β} (h : (tr.world w).get? key = some text) (hr : read? text = some x) :
    next? w (tr, (Store.readValue read? key).surfacing doing >>= f) (false, .works) =
      some (⟨tr.world w, .store (.get key), .works, .ok (some text), tr.world w⟩ :: tr,
        f (some x)) := by
  have ha : (tr.world w).answer? .works (.store (.get key)) =
      some (.ok (some text), tr.world w) := by
    show some (Except.ok ((tr.world w).get? key), tr.world w) = _
    rw [h]
  have hn : ((orFail .badJson (read? text) >>= fun x => pure (some x)).surfacing doing) >>= f =
      f (some x) := by
    rw [hr]
    rfl
  rw [next?_eq rfl ha, ← hn]
  rfl

/-- The next observation where a token is accepted. -/
theorem next?_check {β : Type} {v : TokenVerifier} {kind : TokenKind} {token : String} {c : Claims}
    {t : Time.Instant} {f : Claims → Action β} (hv : v.verify kind t token = .ok c) :
    next? w (tr, v.check kind token >>= f) (false, .shows t) =
      some (⟨tr.world w, .now, .shows t, t, { tr.world w with clock := t }⟩ :: tr, f c) := by
  have hn : ofExcept ((v.verify kind t token).mapError Token.Rejection.failure) >>= f = f c := by
    rw [hv]
    rfl
  rw [← hn]
  rfl

/-- The first observation of an exchange whose token is accepted. -/
theorem next?_refresh {v : Services} {w : World} {token : String} {c : Claims} {t : Time.Instant}
    (hv : v.verifier.verify .refresh t token = .ok c) :
    next? w ([], v.refresh token) (false, .shows t) =
      some ([⟨w, .now, .shows t, t, { w with clock := t }⟩],
        (load c.session).surfacing "Failed to load session" >>= fun found =>
          orFail notLive found >>= v.renew c.session) := by
  rw [Services.refresh_eq]
  exact next?_check hv

/-- The exchange of a token that is accepted and whose record is there. -/
theorem play_refresh {v : Services} {w : World} {token : String} {c : Claims} {r : SessionRecord}
    {t : Time.Instant} (hv : v.verifier.verify .refresh t token = .ok c)
    (hg : w.get? (storeKey c.session) = some (recordText r)) (rs : List (Bool × Reaction)) :
    play w ((false, .shows t) :: (false, .works) :: rs) ([], v.refresh token) =
      play w rs ([⟨{ w with clock := t }, .store (.get (storeKey c.session)), .works,
        .ok (some (recordText r)), { w with clock := t }⟩,
        ⟨w, .now, .shows t, t, { w with clock := t }⟩], v.renew c.session r) := by
  let o : Observation := ⟨w, .now, .shows t, t, { w with clock := t }⟩
  have hg' : (Trace.world w [o]).get? (storeKey c.session) = some (recordText r) := hg
  have hr := readRecord?_recordText r
  rw [play, next?_refresh hv, Option.bind_some, play, load, next?_read hg' hr]
  rfl

/-- The exchange of a token that is accepted and whose record is not there. -/
theorem exists_play_refresh_absent {v : Services} {w : World} {token : String} {c : Claims}
    {t : Time.Instant} (hv : v.verifier.verify .refresh t token = .ok c)
    (hg : w.get? (storeKey c.session) = none) :
    ∃ tr, play w [(false, .shows t), (false, .works)] ([], v.refresh token) =
      some (tr, .done (.error notLive)) := by
  let o : Observation := ⟨w, .now, .shows t, t, { w with clock := t }⟩
  have ha : (Trace.world w [o]).answer? .works (.store (.get (storeKey c.session))) =
      some (.ok none, Trace.world w [o]) := by
    show some (Except.ok (w.get? (storeKey c.session)), _) = _
    rw [hg]
    rfl
  rw [play, next?_refresh hv, Option.bind_some, play, next?_eq rfl ha]
  exact ⟨_, rfl⟩

/-! ## A small service -/

/-- Settings with lifetimes of a minute and of ten minutes. -/
def smallSettings : Settings.AuthSettings :=
  ⟨"access", "refresh", "pepper", 60, 600, 0, ⟨8, 1, 1⟩⟩

/-- Services for these settings that derive the same octets from every password. -/
def smallServices : Services where
  issuer := ⟨Bytes.ofString "access", Bytes.ofString "refresh", 60, 600⟩
  verifier := ⟨Bytes.ofString "access", Bytes.ofString "refresh", 0⟩
  hasher := ⟨fun _ _ => Vector.replicate 32 0⟩

theorem smallServices_configured : smallServices.Configured smallSettings := ⟨rfl, rfl⟩

/-- A directory with one user, who has one role with one permission. -/
def smallDirectory : Directory where
  users := [⟨.ofNat 1, "Ada", "ada@example.com", true,
    Base64.encode Base64.standard (List.replicate 16 0),
    Base64.encode Base64.standard (List.replicate 32 0), ⟨0, 0⟩, ⟨0, 0⟩⟩]
  roles := [⟨.ofNat 2, "Admin", true, ⟨0, 0⟩, ⟨0, 0⟩⟩]
  permissions := [⟨.ofNat 3, "Delete-User"⟩]
  assignments := [(.ofNat 1, .ofNat 2)]
  grants := [(.ofNat 2, .ofNat 3)]

/-- A world with this directory and an empty store. -/
def smallWorld : World := ⟨⟨0, 0⟩, 0, .empty, smallDirectory, []⟩

theorem smallWorld_covers : Covers smallWorld := by
  intro e he
  cases he

/-- What the login of the user comes to if the world reacts like that. -/
def smallLogIn (v : Services) (rs : List (Bool × Reaction)) : Option (Trace × Action TokenPair) :=
  play smallWorld rs ([], v.logIn "ada@example.com" "secret")

/-- The reactions to an exchange if all calls work. -/
def smallRenewal : List (Bool × Reaction) :=
  [(false, .shows ⟨1010, 0⟩), (false, .works), (false, .works), (false, .shows ⟨1010, 0⟩),
    (false, .draws (.ofNat 6)), (false, .draws (.ofNat 7)), (false, .works), (false, .works),
    (false, .works), (false, .works)]

/-- The reactions to a login if the calls that keep the two records go like this. -/
def smallReactions (access refresh : Reaction) : List (Bool × Reaction) :=
  [(false, .works), (false, .works), (false, .shows ⟨1000, 0⟩), (false, .draws (.ofNat 4)),
    (false, .draws (.ofNat 5)), (false, access), (false, refresh)]

end Gatehouse.Session
