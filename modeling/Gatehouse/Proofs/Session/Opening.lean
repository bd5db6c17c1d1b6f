import Gatehouse.Proofs.Session.Minted

/-!
# Opening sessions

What can be observed of a login (`LoggedIn`) and of the exchange of a refresh token (`Redeemed`),
from the first question to the end: a trace that writes nothing, then the keeping of a pair, and for
the exchange the removal of the old session and of one of the two pairs. `along_logIn_of` and
`along_refresh_of` are the rules for the two under any terms: they lead to an issuance that was made
for the user (`LogsIn`) or for a presented record (`Renews`), and leave the keeping of it to be
shown. `along_logIn` and `along_refresh` say that nothing else can be observed, and that at any time
a record is only kept for an issuance, and the removals have come as far as `Midway` says.
-/

namespace Gatehouse

open Gatehouse.Action
open Time (Instant)

namespace Session

variable {T : Terms} {tr : Trace} {i : TokenIssuer}

/-! ## Single calls -/

/-- What is loaded of the answer to a call for a record. -/
def loaded : Except Failure (Option String) → Except Failure (Option SessionRecord)
  | .ok none => .ok none
  | .ok (some text) =>
    match readRecord? text with
    | some r => .ok (some r)
    | none => .error .badJson
  | .error e => .error e

/-- Loading ends after one answer. -/
theorem load_eq (s : Uuid) :
    load s = .ask (.store (.get (storeKey s))) fun x => .done (loaded x) := by
  show Action.ask _ _ = Action.ask _ _
  congr 1
  funext x
  rcases x with e | _ | text
  · rfl
  · rfl
  · show Action.orFail .badJson (readRecord? text) >>= (fun x => pure (some x)) = _
    cases h : readRecord? text <;> simp only [loaded, h] <;> rfl

theorem along_load {s : Uuid} {ends : Trace → Outcome (Option SessionRecord) → Prop} :
    (load s).Along T ends tr ↔ T.guarantee tr (.store (.get (storeKey s))) ∧
      ∀ b how x a, T.rely tr ⟨b, .store (.get (storeKey s)), how, x, a⟩ →
        ends (⟨b, .store (.get (storeKey s)), how, x, a⟩ :: tr) (.finished (loaded x)) := by
  rw [load_eq]
  exact Iff.rfl

theorem along_check {v : TokenVerifier} {kind : TokenKind} {token : String}
    {ends : Trace → Outcome Claims → Prop} :
    (v.check kind token).Along T ends tr ↔ T.guarantee tr .now ∧
      ∀ b how t a, T.rely tr ⟨b, .now, how, t, a⟩ → ends (⟨b, .now, how, t, a⟩ :: tr)
        (.finished ((v.verify kind t token).mapError Token.Rejection.failure)) := Iff.rfl

theorem loaded_eq_some {x : Except Failure (Option String)} {r : SessionRecord}
    (h : loaded x = .ok (some r)) : ∃ text, x = .ok (some text) ∧ readRecord? text = some r := by
  unfold loaded at h
  split at h
  · cases h
  · rename_i text
    split at h
    · cases h
      exact ⟨text, rfl, by assumption⟩
    · cases h
  · cases h

/-! ## What may be asked -/

/-- Whether the record of a session was found. -/
def Found (tr : Trace) (s : Uuid) : Prop :=
  ∃ o text, o ∈ tr ∧ o.Saw (.store (.get (storeKey s))) (.ok (some text))

/-- The two removals of a pair that is not handed out, in either order, as far as they have come. -/
def Discards (m : Issuance) (newer : Trace) : Prop :=
  ∀ o ∈ newer, ∃ k, o.question = .store (revokeCall (m.session k))

/-- How far the removals of an exchange have come while it is not over: the old session is removed
right after the new pair was kept, and the new pair is discarded if that failed. -/
inductive Midway (i : TokenIssuer) : Trace → Prop where
  | waiting {tr : Trace} (hw : tr.Writeless) : Midway i tr
  | keeping {m : Issuance} {newer older : Trace} (hm : Minted i m older) (hw : older.Writeless)
      (hn : ∀ o ∈ newer, ∃ k, o.question = .store (m.save i k)) : Midway i (newer ++ older)
  | removed {m : Issuance} {newer older : Trace} {o : Observation} {s : Uuid}
      (hm : Minted i m older) (hw : older.Writeless) (hn : Saved i m (fun _ => .ok ()) newer)
      (hs : Found older s) (ho : o.Saw (.store (revokeCall s)) (.ok ())) :
      Midway i (o :: (newer ++ older))
  | discarding {m : Issuance} {gone newer older : Trace} {o : Observation} {s : Uuid} {e : Failure}
      (hm : Minted i m older) (hw : older.Writeless) (hn : Saved i m (fun _ => .ok ()) newer)
      (hs : Found older s) (ho : o.Saw (.store (revokeCall s)) (.error e)) (hg : Discards m gone) :
      Midway i (gone ++ o :: (newer ++ older))

/-- What the opening of sessions may ask. -/
def openingTerms (i : TokenIssuer) : Terms where
  rely _ _ := True
  guarantee tr q :=
    (∀ key value ttl, q = .store (.set key value ttl) →
      ∃ m k, Minted i m tr ∧ q = .store (m.save i k)) ∧ Midway i tr

theorem openingTerms_of_writeless {q : Question} (h : tr.Writeless) (hq : ¬q.Writes) :
    (openingTerms i).guarantee tr q := by
  refine ⟨fun key value ttl he => ?_, .waiting h⟩
  rw [he] at hq
  exact absurd trivial hq

theorem openingTerms_of_delete {key : String} (h : Midway i tr) :
    (openingTerms i).guarantee tr (.store (.delete key)) :=
  ⟨fun key value ttl he => (by cases he), h⟩

/-- Whether an action may look at anything as long as it has not changed the store. -/
def FreeToAsk (T : Terms) : Prop := ∀ tr q, tr.Writeless → q.Looks → T.guarantee tr q

theorem openingTerms_freeToAsk : FreeToAsk (openingTerms i) :=
  fun _ _ hw hq => openingTerms_of_writeless hw hq.not_writes

/-! ## The time of issue -/

/-- Whether a trace read the time of issue: the one right after the roles. -/
def IssuesAt (tr : Trace) (t : Instant) : Prop :=
  ∃ o r older u roles, o :: r :: older <:+ tr ∧ o.Saw .now t ∧
    r.Saw (.directory (.rolesOf u)) (.ok roles)

/-- Whether a trace has just resolved roles, and not read the time of issue yet. -/
structure AwaitsTime (tr : Trace) : Prop where
  resolved : ∃ r older u roles, tr = r :: older ∧ r.Saw (.directory (.rolesOf u)) (.ok roles)
  unread : ∀ t, ¬IssuesAt tr t

theorem issuesAt_cons_of_ne {o : Observation} (h : o.question ≠ .now) {t : Instant} :
    IssuesAt (o :: tr) t ↔ IssuesAt tr t := by
  constructor
  · rintro ⟨o', r, older, u, roles, hs, ho, hr⟩
    rcases List.suffix_cons_iff.1 hs with he | hs
    · cases he
      exact absurd ho.question h
    · exact ⟨o', r, older, u, roles, hs, ho, hr⟩
  · rintro ⟨o', r, older, u, roles, hs, ho⟩
    exact ⟨o', r, older, u, roles, hs.trans (List.suffix_cons o tr), ho⟩

theorem issuesAt_append_of_ne {newer : Trace} (h : ∀ o ∈ newer, o.question ≠ .now) {t : Instant} :
    IssuesAt (newer ++ tr) t ↔ IssuesAt tr t := by
  induction newer with
  | nil => exact Iff.rfl
  | cons o newer ih =>
    rw [List.cons_append, issuesAt_cons_of_ne (h o List.mem_cons_self)]
    exact ih fun o ho => h o (List.mem_cons_of_mem _ ho)

/-- A single observation is too few. -/
theorem not_issuesAt_singleton (o : Observation) (t : Instant) : ¬IssuesAt [o] t := by
  rintro ⟨o', r, older, u, roles, hs, -⟩
  have := hs.length_le
  simp only [List.length_cons, List.length_nil] at this
  omega

/-- The time that is read after the roles is the time of issue. -/
theorem AwaitsTime.issuesAt_iff {newer older : Trace} {t t' : Instant} (h : AwaitsTime older)
    (hd : Dated newer t) : IssuesAt (newer ++ older) t' ↔ t' = t := by
  obtain ⟨r, rest, u, roles, rfl, hr⟩ := h.resolved
  obtain ⟨fresh, o, rfl, ho, hf⟩ := hd
  rw [List.append_assoc, issuesAt_append_of_ne fun x hx => by simp [hf x hx]]
  constructor
  · rintro ⟨o', r', older', u', roles', hs, ho', hr'⟩
    rcases List.suffix_cons_iff.1 hs with he | hs
    · cases he
      exact ho'.unique ho
    · exact absurd ⟨o', r', older', u', roles', hs, ho', hr'⟩ (h.unread t')
  · rintro rfl
    exact ⟨o, r, rest, u, roles, List.suffix_refl _, ho, hr⟩

/-! ## Keeping a pair -/

theorem along_keepPair_opening {m : Issuance} {ends : Trace → Outcome TokenPair → Prop}
    (hm : Minted i m tr) (hw : tr.Writeless)
    (hends : ∀ newer out, Kept i m newer out → ends (newer ++ tr) out) :
    (keepPair i m).Along (openingTerms i) ends tr := by
  refine along_keepPair (fun k => ?_) (fun k o x ho _ => ?_) (fun newer res j e h _ _ _ => ?_)
    fun newer out h _ => hends newer out h
  · exact ⟨fun _ _ _ _ => ⟨m, k, hm, rfl⟩, .waiting hw⟩
  · refine ⟨fun _ _ _ _ => ⟨m, k.other, hm.append [o], rfl⟩, ?_⟩
    have hn : ∀ o' ∈ [o], ∃ k, o'.question = .store (m.save i k) := by
      simpa using ⟨k, ho.question⟩
    exact .keeping hm hw hn
  · exact openingTerms_of_delete (.keeping hm hw h.saves)

/-- Issuing a pair after a trace that resolved its roles and wrote nothing. -/
theorem along_issuePair_resolved {r : SessionRecord} {o : Observation} {older : Trace}
    {ends : Trace → Outcome TokenPair → Prop} (hask : FreeToAsk T)
    (hw : Trace.Writeless (o :: older))
    (ho : o.Saw (.directory (.rolesOf r.subject)) (.ok r.roles))
    (hr : r = { SessionRecord.fresh r.subject r.roles with extra := carried older })
    (hno : ∀ t, ¬IssuesAt older t)
    (hstop : ∀ newer out, Stopped i newer out → AwaitsTime (o :: older) →
      ends (newer ++ o :: older) out)
    (hkeep : ∀ m newer, m.record = r → Drawn m newer → Minted i m (newer ++ o :: older) →
      Trace.Writeless (newer ++ o :: older) →
      (∀ t, IssuesAt (newer ++ o :: older) t ↔ t = m.issuedAt) →
        (keepPair i m).Along T ends (newer ++ o :: older)) :
    (issuePair i r).Along T ends (o :: older) := by
  have hat : AwaitsTime (o :: older) := by
    refine ⟨⟨o, older, r.subject, r.roles, rfl, ho⟩, fun t h => hno t ?_⟩
    rwa [issuesAt_cons_of_ne (by simp [ho.question])] at h
  refine along_issuePair (d := o.before.directory) (fun n q hn hq => hask _ q (hn.append hw) hq)
    (fun newer out h _ => hstop newer out h hat) fun m newer hmr hmd hf hd _ => ?_
  have hm : Minted i m (newer ++ o :: older) :=
    ⟨hf, newer, o, older, List.suffix_refl _, hd, by rwa [hmr], hmd.symm, by rwa [hmr]⟩
  exact hkeep m newer hmr hd hm (hd.writeless.append hw) fun t => hat.issuesAt_iff hd.dated

end Session

namespace Services

open Session

variable {v : Services}

/-! ## Settings -/

/-- Whether tokens are issued and verified by the same settings; passwords may be derived by any
function. -/
structure Configured (v : Services) (s : Settings.AuthSettings) : Prop where
  issuer : TokenIssuer.ofSettings s = .ok v.issuer
  verifier : TokenVerifier.ofSettings s = .ok v.verifier

theorem Configured.of_ofSettings {s : Settings.AuthSettings}
    (h : Services.ofSettings s = .ok v) : Configured v s := by
  unfold Services.ofSettings at h
  cases hi : TokenIssuer.ofSettings s with
  | error e =>
    rw [hi] at h
    cases h
  | ok issuer =>
    cases hv : TokenVerifier.ofSettings s with
    | error e =>
      rw [hi, hv] at h
      cases h
    | ok verifier =>
      rw [hi, hv] at h
      cases hp : PasswordHasher.ofSettings s with
      | error e =>
        rw [hp] at h
        cases h
      | ok hasher =>
        rw [hp] at h
        cases h
        exact ⟨hi, hv⟩

/-- Tokens are verified with the keys that they are signed with. -/
theorem Configured.key_eq {s : Settings.AuthSettings} (h : Configured v s)
    (k : TokenKind) : v.verifier.key k = v.issuer.key k := by
  have hi := h.issuer
  have hv := h.verifier
  unfold TokenIssuer.ofSettings at hi
  unfold TokenVerifier.ofSettings at hv
  cases hs : s.validate with
  | error e => simp [hs, Except.map] at hi
  | ok =>
    simp only [hs, Except.map, Except.ok.injEq] at hi hv
    rw [← hi, ← hv]
    cases k <;> rfl

theorem Configured.ttl_eq {s : Settings.AuthSettings} (h : Configured v s) :
    s.Valid ∧ ∀ k, v.issuer.ttl k = TokenKind.pick s.accessTtl s.refreshTtl k := by
  have hi := h.issuer
  unfold TokenIssuer.ofSettings at hi
  cases hs : s.validate with
  | error e => simp [hs, Except.map] at hi
  | ok =>
    simp only [hs, Except.map, Except.ok.injEq] at hi
    refine ⟨Settings.AuthSettings.validate_eq_ok_iff.1 hs, fun k => ?_⟩
    rw [← hi]
    cases k <;> rfl

/-- Lifetimes are positive. -/
theorem Configured.ttl_pos {s : Settings.AuthSettings} (h : Configured v s) (k : TokenKind) :
    0 < v.issuer.ttl k := by
  obtain ⟨hval, httl⟩ := h.ttl_eq
  have h₁ := hval.ttl_pos
  have h₂ := hval.ttl_lt
  rw [httl]
  cases k
  · exact h₁
  · show 0 < s.refreshTtl
    omega

/-- No token lives shorter than an access token. -/
theorem Configured.access_ttl_le {s : Settings.AuthSettings} (h : Configured v s)
    (k : TokenKind) : v.issuer.ttl .access ≤ v.issuer.ttl k := by
  obtain ⟨hval, httl⟩ := h.ttl_eq
  rw [httl, httl]
  cases k
  · exact Nat.le_refl _
  · exact Nat.le_of_lt hval.ttl_lt

/-! ## Logging in -/

/-- How a login can go, with all that is observed of it: it is refused before anything is written,
no issuance can be made, or an issuance is made, and kept or not. -/
inductive LoggedIn (v : Services) : Trace → Outcome TokenPair → Prop where
  | refused {tr : Trace} {e : Failure} (hw : tr.Writeless) (hno : ∀ t, ¬IssuesAt tr t) :
      LoggedIn v tr (.finished (.error e))
  | stopped {newer older : Trace} {out : Outcome TokenPair} (hw : older.Writeless)
      (h : Stopped v.issuer newer out) (ha : AwaitsTime older) : LoggedIn v (newer ++ older) out
  | issued {m : Issuance} {newer older : Trace} {out : Outcome TokenPair}
      (hm : Minted v.issuer m older) (hw : older.Writeless) (h : Kept v.issuer m newer out)
      (ht : ∀ t, IssuesAt older t ↔ t = m.issuedAt) : LoggedIn v (newer ++ older) out

/-- Whether a trace made an issuance for a user that it found to be active and to have this
password, and wrote nothing. -/
structure LogsIn (v : Services) (email password : String) (m : Issuance) (tr : Trace) :
    Prop where
  found : ∃ o user, o ∈ tr ∧ o.Saw (.directory (.byEmail email)) (.ok (some user)) ∧
    user.canLogIn = true ∧ v.checkPassword password user = .ok true ∧ user.id = m.record.subject
  minted : Minted v.issuer m tr
  extra : m.record.extra = .empty
  writeless : tr.Writeless
  issuedAt : ∀ t, IssuesAt tr t ↔ t = m.issuedAt

/-- Why a login is refused before anything is written, with all that is observed of it: the user is
not found or may not log in, the password is not the user's or cannot be checked, or the roles are
not resolved. -/
inductive Rejected (v : Services) (email password : String) : Trace → Failure → Prop where
  | unfound {o : Observation} {e : Failure}
      (ho : o.Saw (.directory (.byEmail email)) (.error e)) :
      Rejected v email password [o] (.surface "Failed to look up user" e)
  | unknown {o : Observation} (ho : o.Saw (.directory (.byEmail email)) (.ok none)) :
      Rejected v email password [o] badCredentials
  | inactive {o : Observation} {user : User}
      (ho : o.Saw (.directory (.byEmail email)) (.ok (some user))) (ha : user.canLogIn = false) :
      Rejected v email password [o] badCredentials
  | unchecked {o : Observation} {user : User} {e : Failure}
      (ho : o.Saw (.directory (.byEmail email)) (.ok (some user)))
      (hp : v.checkPassword password user = .error e) :
      Rejected v email password [o] (.surface "Failed to verify password" e)
  | mismatched {o : Observation} {user : User}
      (ho : o.Saw (.directory (.byEmail email)) (.ok (some user)))
      (hp : v.checkPassword password user = .ok false) :
      Rejected v email password [o] badCredentials
  | unresolved {o r : Observation} {user : User} {e : Failure}
      (ho : o.Saw (.directory (.byEmail email)) (.ok (some user)))
      (hr : r.Saw (.directory (.rolesOf user.id)) (.error e)) :
      Rejected v email password [r, o] (.surface "Failed to resolve roles" e)

/-- A login that is refused asked for a user, and perhaps for the roles of it. -/
theorem Rejected.asked {email password : String} {tr : Trace} {e : Failure}
    (h : Rejected v email password tr e) : ∃ o, o.question = .directory (.byEmail email) ∧
      (tr = [o] ∨ ∃ r user, r.question = .directory (.rolesOf user) ∧ tr = [r, o]) := by
  cases h with
  | unfound ho | unknown ho | inactive ho | unchecked ho | mismatched ho =>
    exact ⟨_, ho.question, .inl rfl⟩
  | unresolved ho hr => exact ⟨_, ho.question, .inr ⟨_, _, hr.question, rfl⟩⟩

theorem Rejected.writeless {email password : String} {tr : Trace} {e : Failure}
    (h : Rejected v email password tr e) : tr.Writeless := by
  obtain ⟨o, ho, rfl | ⟨r, user, hr, rfl⟩⟩ := h.asked
  · simp [Trace.writeless_cons, Trace.writeless_nil, ho, Question.Writes]
  · simp [Trace.writeless_cons, Trace.writeless_nil, ho, hr, Question.Writes]

theorem Rejected.not_issuesAt {email password : String} {tr : Trace} {e : Failure}
    (h : Rejected v email password tr e) (t : Instant) : ¬IssuesAt tr t := by
  obtain ⟨o, ho, rfl | ⟨r, user, hr, rfl⟩⟩ := h.asked
  · exact not_issuesAt_singleton o t
  · rw [issuesAt_cons_of_ne (by simp [hr])]
    exact not_issuesAt_singleton o t

/-- A login is refused before anything is written, or comes to the keeping of an issuance. -/
theorem along_logIn_of {T : Terms} {ends : Trace → Outcome TokenPair → Prop}
    {email password : String} (hask : FreeToAsk T)
    (hfind : T.guarantee [] (.directory (.byEmail email)))
    (hrefused : ∀ tr e, v.Rejected email password tr e → ends tr (.finished (.error e)))
    (hstop : ∀ newer older out, older.Writeless → Stopped v.issuer newer out → AwaitsTime older →
      ends (newer ++ older) out)
    (hkeep : ∀ m older, v.LogsIn email password m older →
      (keepPair v.issuer m).Along T ends older) :
    (v.logIn email password).Along T ends [] := by
  refine along_bind.2 ⟨hfind, fun b how x a _ => ?_⟩
  have h₁ : (⟨b, .directory (.byEmail email), how, x, a⟩ : Observation).Saw
    (.directory (.byEmail email)) x := ⟨b, how, a, rfl⟩
  -- of each call only its question and its answer matter from here on
  generalize (⟨b, .directory (.byEmail email), how, x, a⟩ : Observation) = o₁ at *
  have hw : Trace.Writeless [o₁] := by
    simp [Trace.writeless_cons, Trace.writeless_nil, h₁.question, Question.Writes]
  rcases x with e | _ | user
  · exact hrefused _ _ (.unfound h₁)
  · exact hrefused _ _ (.unknown h₁)
  show Action.Along _ _ (if ¬user.canLogIn then _ else _) _
  split
  · rename_i hactive
    exact hrefused _ _ (.inactive h₁ (by simpa using hactive))
  rename_i hactive
  refine along_bind.2 ?_
  cases hpw : v.checkPassword password user with
  | error e => exact hrefused _ _ (.unchecked h₁ hpw)
  | ok matched =>
    show Action.Along _ _ (if ¬matched then _ else _) _
    split
    · rename_i hmatched
      exact hrefused _ _ (.mismatched h₁ (by simpa [hpw] using hmatched))
    rename_i hmatched
    refine along_bind.2 ⟨hask _ _ hw trivial, fun b how x a _ => ?_⟩
    have h₂ : (⟨b, .directory (.rolesOf user.id), how, x, a⟩ : Observation).Saw
      (.directory (.rolesOf user.id)) x := ⟨b, how, a, rfl⟩
    generalize (⟨b, .directory (.rolesOf user.id), how, x, a⟩ : Observation) = o₂ at *
    have hw₂ : Trace.Writeless [o₂, o₁] := by
      simp [Trace.writeless_cons, hw, h₂.question, Question.Writes]
    have hcar : carried [o₁] = .empty := by
      obtain ⟨b, how, a, rfl⟩ := h₁
      rfl
    rcases x with e | roles
    · exact hrefused _ _ (.unresolved h₁ h₂)
    · have hpass : v.checkPassword password user = .ok true := by
        rw [hpw]
        simpa using hmatched
      refine along_issuePair_resolved hask hw₂ h₂ ?_ (not_issuesAt_singleton o₁)
        (fun newer out h ha => hstop _ _ _ hw₂ h ha) fun m newer hm _ hmint hw' ht => ?_
      · rw [hcar]
        rfl
      · exact hkeep m _ ⟨⟨o₁, user, by simp, h₁, by simpa using hactive, hpass, by rw [hm]; rfl⟩,
          hmint, by rw [hm]; rfl, hw', ht⟩

theorem along_logIn (email password : String) :
    (v.logIn email password).Along (openingTerms v.issuer) (LoggedIn v) [] :=
  along_logIn_of openingTerms_freeToAsk (openingTerms_of_writeless Trace.writeless_nil id)
    (fun _ _ h => .refused h.writeless h.not_issuesAt) (fun _ _ _ hw h ha => .stopped hw h ha)
    fun _ _ h =>
      along_keepPair_opening h.minted h.writeless fun _ _ hk =>
        .issued h.minted h.writeless hk h.issuedAt

/-! ## Exchanging a refresh token -/

/-- Whether a trace accepted a refresh token and loaded the record of its session. -/
structure Presented (v : Services) (token : String) (c : Claims) (r : SessionRecord)
    (tr : Trace) : Prop where
  verified : ∃ o t, o ∈ tr ∧ o.Saw .now t ∧ v.verifier.verify .refresh t token = .ok c
  loaded : ∃ o text, o ∈ tr ∧ o.Saw (.store (.get (storeKey c.session))) (.ok (some text)) ∧
    readRecord? text = some r

theorem Presented.mono {token : String} {c : Claims} {r : SessionRecord} {tr newer : Trace}
    (h : Presented v token c r tr) (hs : ∀ o ∈ tr, o ∈ newer) : Presented v token c r newer := by
  obtain ⟨⟨o, t, ho, h₁⟩, ⟨o', text, ho', h₂⟩⟩ := h
  exact ⟨⟨o, t, hs o ho, h₁⟩, ⟨o', text, hs o' ho', h₂⟩⟩

theorem Presented.found {token : String} {c : Claims} {r : SessionRecord} {tr : Trace}
    (h : Presented v token c r tr) : Found tr c.session := by
  obtain ⟨o, text, ho, hs, -⟩ := h.loaded
  exact ⟨o, text, ho, hs⟩

/-- Whether a trace made an issuance for a presented token, and wrote nothing. -/
structure Renews (v : Services) (token : String) (c : Claims) (r : SessionRecord) (m : Issuance)
    (tr : Trace) : Prop where
  presented : Presented v token c r tr
  only : ∀ o ∈ tr, ∀ s x, o.Saw (.store (.get (storeKey s))) x →
    s = c.session ∧ loaded x = .ok (some r)
  minted : Minted v.issuer m tr
  subject : m.record.subject = r.subject
  extra : m.record.extra = r.extra
  writeless : tr.Writeless
  issuedAt : ∀ t, IssuesAt tr t ↔ t = m.issuedAt

/-- No other record than the presented one was found. -/
theorem Renews.eq_of_found {token : String} {c : Claims} {r : SessionRecord} {m : Issuance}
    {tr : Trace} {s : Uuid} (h : Renews v token c r m tr) (hs : Found tr s) : s = c.session := by
  obtain ⟨o, text, ho, hs⟩ := hs
  exact (h.only o ho _ _ hs).1

/-- The failure of an exchange whose old session could not be removed. -/
def notRotated : Failure := .internal "Failed to rotate session"

/-- Why an exchange is refused before anything is written, with all that is observed of it: the
token is not accepted, its record cannot be read or is not there, or the roles are not resolved. -/
inductive Refused (v : Services) (token : String) : Trace → Failure → Prop where
  | rejected {o : Observation} {t : Instant} {why : Token.Rejection} (ho : o.Saw .now t)
      (hv : v.verifier.verify .refresh t token = .error why) : Refused v token [o] why.failure
  | unread {o l : Observation} {t : Instant} {c : Claims} {x : Except Failure (Option String)}
      {e : Failure} (ho : o.Saw .now t) (hv : v.verifier.verify .refresh t token = .ok c)
      (hl : l.Saw (.store (.get (storeKey c.session))) x) (hx : loaded x = .error e) :
      Refused v token [l, o] (.surface "Failed to load session" e)
  | absent {o l : Observation} {t : Instant} {c : Claims} {x : Except Failure (Option String)}
      (ho : o.Saw .now t) (hv : v.verifier.verify .refresh t token = .ok c)
      (hl : l.Saw (.store (.get (storeKey c.session))) x) (hx : loaded x = .ok none) :
      Refused v token [l, o] notLive
  | unresolved {o l d : Observation} {c : Claims} {r : SessionRecord} {e : Failure}
      (hw : Trace.Writeless [l, o]) (hp : Presented v token c r [l, o])
      (hd : d.Saw (.directory (.rolesOf r.subject)) (.error e)) :
      Refused v token [d, l, o] (.surface "Failed to resolve roles" e)

/-- How the exchange of a refresh token can go, with all that is observed of it. It is refused
before anything is written; no issuance can be made (`stopped`); the new pair is not kept; the old
session cannot be removed, so the new pair is (`undone`); or the old session is removed, and the one
that its record names is tried to be (`rotated`). -/
inductive Redeemed (v : Services) (token : String) : Trace → Outcome TokenPair → Prop where
  | refused {tr : Trace} {e : Failure} (hw : tr.Writeless) (hno : ∀ t, ¬IssuesAt tr t)
      (why : Refused v token tr e) : Redeemed v token tr (.finished (.error e))
  | stopped {c : Claims} {r : SessionRecord} {newer older : Trace} {out : Outcome TokenPair}
      (hw : older.Writeless) (h : Stopped v.issuer newer out) (ha : AwaitsTime older)
      (hp : Presented v token c r older) : Redeemed v token (newer ++ older) out
  | unkept {c : Claims} {r : SessionRecord} {m : Issuance} {newer older : Trace} {e : Failure}
      (hr : Renews v token c r m older) (h : Kept v.issuer m newer (.finished (.error e))) :
      Redeemed v token (newer ++ older) (.finished (.error e))
  | undone {c : Claims} {r : SessionRecord} {m : Issuance} {newer older : Trace}
      {o d d' : Observation} {e : Failure} {k : TokenKind} (hr : Renews v token c r m older)
      (hn : Saved v.issuer m (fun _ => .ok ()) newer)
      (ho : o.Saw (.store (revokeCall c.session)) (.error e))
      (hd : d.question = .store (revokeCall (m.session k)))
      (hd' : d'.question = .store (revokeCall (m.session k.other))) :
      Redeemed v token ([d', d] ++ o :: (newer ++ older)) (.finished (.error notRotated))
  | rotated {c : Claims} {r : SessionRecord} {m : Issuance} {gone newer older : Trace}
      {o : Observation} (hr : Renews v token c r m older)
      (hn : Saved v.issuer m (fun _ => .ok ()) newer)
      (ho : o.Saw (.store (revokeCall c.session)) (.ok ()))
      (hg : r.pairedWith = none ∧ gone = [] ∨
        ∃ p d, r.pairedWith = some p ∧ gone = [d] ∧ d.question = .store (revokeCall p)) :
      Redeemed v token (gone ++ o :: (newer ++ older)) (.finished (.ok (m.pair v.issuer)))

/-- Removes the old session when a new pair is kept, and hands the pair out; if the old session
cannot be removed, the pair is discarded. -/
def rotate (s : Uuid) (old : SessionRecord) (pair : TokenPair) : Action TokenPair := do
  match ← (revoke s).attempt with
  | .error _ =>
    discard pair
    Action.fail notRotated
  | .ok _ =>
    match old.pairedWith with
    | some access => tryRevoke access
    | none => pure ()
    return pair

/-- Makes a new pair for the user of a record, and removes the old session. -/
def renew (v : Services) (s : Uuid) (old : SessionRecord) : Action TokenPair := do
  let roles ← (Action.callDirectory (.rolesOf old.subject)).surfacing "Failed to resolve roles"
  let pair ← issuePair v.issuer { SessionRecord.fresh old.subject roles with extra := old.extra }
  rotate s old pair

theorem refresh_eq (v : Services) (token : String) :
    v.refresh token = (do
      let claims ← v.verifier.check .refresh token
      let found ← (load claims.session).surfacing "Failed to load session"
      let old ← Action.orFail notLive found
      v.renew claims.session old) := rfl

variable {token : String} {c : Claims} {r : SessionRecord} {m : Issuance} {newer older : Trace}

theorem along_rotate (hr : Renews v token c r m older)
    (hn : Saved v.issuer m (fun _ => .ok ()) newer) :
    (rotate c.session r (m.pair v.issuer)).Along (openingTerms v.issuer) (Redeemed v token)
      (newer ++ older) := by
  have hf := hr.presented.found
  refine ⟨openingTerms_of_delete (.keeping hr.minted hr.writeless hn.saves), fun b how x a _ => ?_⟩
  cases x with
  | error e =>
    have mid : ∀ gone, Discards m gone → Midway v.issuer
        (gone ++ ⟨b, .store (revokeCall c.session), how, .error e, a⟩ :: (newer ++ older)) :=
      fun gone hg => .discarding hr.minted hr.writeless hn hf ⟨b, how, a, rfl⟩ hg
    -- the two removals may be answered in either order
    refine ⟨⟨openingTerms_of_delete (mid [] (by simp [Discards])), fun b' how' x' a' _ => ?_⟩,
      ⟨openingTerms_of_delete (mid [] (by simp [Discards])), fun b' how' x' a' _ => ?_⟩⟩
    · refine ⟨openingTerms_of_delete (mid [_] ?_), fun b'' how'' x'' a'' _ => ?_⟩
      · simpa [Discards] using ⟨.access, rfl⟩
      · exact .undone (k := .access) hr hn ⟨b, how, a, rfl⟩ rfl rfl
    · refine ⟨openingTerms_of_delete (mid [_] ?_), fun b'' how'' x'' a'' _ => ?_⟩
      · simpa [Discards] using ⟨.refresh, rfl⟩
      · exact .undone (k := .refresh) hr hn ⟨b, how, a, rfl⟩ rfl rfl
  | ok =>
    have ho : (⟨b, .store (revokeCall c.session), how, .ok (), a⟩ : Observation).Saw
      (.store (revokeCall c.session)) (.ok ()) := ⟨b, how, a, rfl⟩
    have hg := Midway.removed hr.minted hr.writeless hn hf ho
    cases hp : r.pairedWith with
    | none => exact @Redeemed.rotated v token c r m [] newer older _ hr hn ho (.inl ⟨hp, rfl⟩)
    | some p =>
      refine ⟨openingTerms_of_delete hg, fun b' how' x' a' _ => ?_⟩
      cases x' <;>
        exact @Redeemed.rotated v token c r m [_] newer older _ hr hn ho (.inr ⟨p, _, hp, rfl, rfl⟩)

/-- Up to the making of an issuance only the presented record is asked for. -/
theorem loaded_only {o₁ o₂ o₃ : Observation} {t : Instant} {text : String} {d : Directory.Call}
    (hd : Drawn m newer) (h₁ : o₁.Saw .now t)
    (h₂ : o₂.Saw (.store (.get (storeKey c.session))) (.ok (some text)))
    (h₃ : o₃.question = .directory d) (hr : readRecord? text = some r) :
    ∀ o ∈ newer ++ [o₃, o₂, o₁], ∀ s x, o.Saw (.store (.get (storeKey s))) x →
      s = c.session ∧ loaded x = .ok (some r) := by
  intro o ho s x hs
  rcases List.mem_append.1 ho with ho | ho
  · exact absurd hs.question (hd.ne_store ho _)
  · simp only [List.mem_cons, List.not_mem_nil, or_false] at ho
    rcases ho with rfl | rfl | rfl
    · cases h₃.symm.trans hs.question
    · obtain rfl : c.session = s :=
        storeKey_injective (by simpa using h₂.question.symm.trans hs.question)
      rw [← h₂.unique hs]
      exact ⟨rfl, by simp only [loaded, hr]⟩
    · cases h₁.question.symm.trans hs.question

theorem Refused.writeless {tr : Trace} {e : Failure} (h : Refused v token tr e) :
    tr.Writeless := by
  cases h with
  | rejected ho => simp [Trace.writeless_cons, Trace.writeless_nil, ho.question, Question.Writes]
  | unread ho _ hl | absent ho _ hl =>
    simp [Trace.writeless_cons, Trace.writeless_nil, ho.question, hl.question, Question.Writes]
  | unresolved hw _ hd => simp [Trace.writeless_cons, hw, hd.question, Question.Writes]

/-- What follows when a token was accepted and its record loaded. -/
theorem along_renew {T : Terms} {ends : Trace → Outcome TokenPair → Prop} {o₁ o₂ : Observation}
    {t : Instant} {text : String} (hask : FreeToAsk T) (h₁ : o₁.Saw .now t)
    (hv : v.verifier.verify .refresh t token = .ok c)
    (h₂ : o₂.Saw (.store (.get (storeKey c.session))) (.ok (some text)))
    (hr : readRecord? text = some r)
    (hrefused : ∀ tr e, Refused v token tr e → (∀ t, ¬IssuesAt tr t) →
      ends tr (.finished (.error e)))
    (hstop : ∀ newer older out, older.Writeless → v.Presented token c r older →
      Stopped v.issuer newer out → AwaitsTime older → ends (newer ++ older) out)
    (hkeep : ∀ m older, v.Renews token c r m older →
      (keepPair v.issuer m >>= rotate c.session r).Along T ends older) :
    (v.renew c.session r).Along T ends [o₂, o₁] := by
  have hp : Presented v token c r [o₂, o₁] :=
    ⟨⟨o₁, t, by simp, h₁, hv⟩, ⟨o₂, text, by simp, h₂, hr⟩⟩
  have hw : Trace.Writeless [o₂, o₁] := by
    simp [Trace.writeless_cons, Trace.writeless_nil, h₁.question, h₂.question, Question.Writes]
  have hno : ∀ t, ¬IssuesAt [o₂, o₁] t := by
    intro t
    rw [issuesAt_cons_of_ne (by simp [h₂.question])]
    exact not_issuesAt_singleton o₁ t
  have hcar : carried [o₂, o₁] = r.extra := by
    obtain ⟨b, how, a, rfl⟩ := h₂
    simp [carried, hr]
  refine along_bind.2 ⟨hask _ _ hw trivial, fun b how x a _ => ?_⟩
  have h₃ : (⟨b, .directory (.rolesOf r.subject), how, x, a⟩ : Observation).Saw _ x :=
    ⟨b, how, a, rfl⟩
  generalize (⟨b, .directory (.rolesOf r.subject), how, x, a⟩ : Observation) = o₃ at *
  have hw₃ : Trace.Writeless [o₃, o₂, o₁] := by
    simp [Trace.writeless_cons, hw, h₃.question, Question.Writes]
  rcases x with e | roles
  · refine hrefused _ _ (.unresolved hw hp h₃) fun t ht => hno t ?_
    rwa [issuesAt_cons_of_ne (by simp [h₃.question])] at ht
  have hp₃ : Presented v token c r [o₃, o₂, o₁] := hp.mono (by simp)
  refine along_bind.2 (along_issuePair_resolved hask hw₃ h₃ ?_ hno (fun newer out h ha => ?_)
    fun m newer hm hd hmint hw' ht => ?_)
  · rw [hcar]
    rfl
  · have hs := hstop newer _ out hw₃ hp₃ h ha
    cases h <;> exact hs
  · exact along_bind.1 (hkeep m _ ⟨hp.mono (by simp), loaded_only hd h₁ h₂ h₃.question hr, hmint,
      by rw [hm]; rfl, by rw [hm], hw', ht⟩)

/-- An exchange is refused before anything is written, or comes to the keeping of an issuance and
the removal of the old session. -/
theorem along_refresh_of {T : Terms} {ends : Trace → Outcome TokenPair → Prop}
    (hask : FreeToAsk T)
    (hrefused : ∀ tr e, Refused v token tr e → (∀ t, ¬IssuesAt tr t) →
      ends tr (.finished (.error e)))
    (hstop : ∀ c r newer older out, older.Writeless → v.Presented token c r older →
      Stopped v.issuer newer out → AwaitsTime older → ends (newer ++ older) out)
    (hkeep : ∀ c r m older, v.Renews token c r m older →
      (keepPair v.issuer m >>= rotate c.session r).Along T ends older) :
    (v.refresh token).Along T ends [] := by
  rw [refresh_eq]
  refine along_bind.2 (along_check.2 ⟨hask _ _ Trace.writeless_nil trivial, fun b how t a _ => ?_⟩)
  have h₁ : (⟨b, .now, how, t, a⟩ : Observation).Saw .now t := ⟨b, how, a, rfl⟩
  generalize (⟨b, .now, how, t, a⟩ : Observation) = o₁ at *
  have hw₁ : Trace.Writeless [o₁] := by
    simp [Trace.writeless_cons, Trace.writeless_nil, h₁.question, Question.Writes]
  have hno₁ := not_issuesAt_singleton o₁
  cases hv : v.verifier.verify .refresh t token with
  | error e => exact hrefused _ _ (.rejected h₁ hv) hno₁
  | ok c =>
    refine along_bind.2 (along_mapFailure.2 (along_load.2
      ⟨hask _ _ hw₁ trivial, fun b how x a _ => ?_⟩))
    have h₂ : (⟨b, .store (.get (storeKey c.session)), how, x, a⟩ : Observation).Saw
      (.store (.get (storeKey c.session))) x := ⟨b, how, a, rfl⟩
    generalize (⟨b, .store (.get (storeKey c.session)), how, x, a⟩ : Observation) = o₂ at *
    have hno₂ : ∀ t, ¬IssuesAt [o₂, o₁] t := fun t => by
      rw [issuesAt_cons_of_ne (by simp [h₂.question])]
      exact hno₁ t
    rcases hx : loaded x with e | _ | r
    · exact hrefused _ _ (.unread h₁ hv h₂ hx) hno₂
    · exact hrefused _ _ (.absent h₁ hv h₂ hx) hno₂
    · obtain ⟨text, rfl, hr⟩ := loaded_eq_some hx
      exact along_renew hask h₁ hv h₂ hr hrefused (hstop c r) (hkeep c r)

theorem along_refresh (token : String) :
    (v.refresh token).Along (openingTerms v.issuer) (Redeemed v token) [] := by
  refine along_refresh_of openingTerms_freeToAsk (fun _ _ h hno => .refused h.writeless hno h)
    (fun _ _ _ _ _ hw hp h ha => .stopped hw h ha hp) fun c r m older hr => ?_
  refine along_bind.2 (along_keepPair_opening hr.minted hr.writeless fun newer out h => ?_)
  cases h with
  | both hn => exact along_rotate hr hn
  | one h hj he hd => exact .unkept hr (.one h hj he hd)
  | none h he => exact .unkept hr (.none h he)

end Services

end Gatehouse
