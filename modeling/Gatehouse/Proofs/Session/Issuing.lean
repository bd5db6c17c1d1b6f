import Gatehouse.Session.Lifecycle
import Gatehouse.Proofs.Run.State
import Gatehouse.Proofs.Session.RecordText

/-!
# How a pair of sessions comes to be

An `Issuance` holds everything that is decided for a pair of sessions before anything is kept: the
record, the time, and an identifier and an expiry for each of the two tokens. `Session.issuePair` is
the making of an issuance followed by `Session.keepPair`, which alone calls the store
(`along_issuePair`, `along_keepPair`). `Minted` says that a trace made an issuance; an identifier
belongs to one issuance at most (`Minted.unique`).
-/

namespace Gatehouse

open Time (Instant)

/-- The other kind of a pair. -/
def TokenKind.other : TokenKind → TokenKind
  | .access => .refresh
  | .refresh => .access

@[simp] theorem TokenKind.other_other (k : TokenKind) : k.other.other = k := by
  cases k <;> rfl

/-- One thing for each kind. -/
def TokenKind.pick {α : Type} (access refresh : α) : TokenKind → α
  | .access => access
  | .refresh => refresh

theorem TokenKind.eq_or_eq_other (k j : TokenKind) : j = k ∨ j = k.other := by
  cases k <;> cases j <;> simp [other]

namespace Session

/-- What is decided for a pair of sessions before its records are kept. -/
structure Issuance where
  resolved : Directory
  record : SessionRecord
  issuedAt : Instant
  session : TokenKind → Uuid
  expiresAt : TokenKind → Instant

namespace Issuance

variable (m : Issuance) (i : TokenIssuer)

/-- What a token of the pair claims. -/
def claims (k : TokenKind) : Claims :=
  ⟨m.record.subject, m.session k, k, m.issuedAt.seconds, (m.expiresAt k).seconds⟩

/-- A token of the pair. -/
def token (k : TokenKind) : IssuedToken :=
  ⟨m.session k, i.encode (m.claims k), m.issuedAt, m.expiresAt k⟩

/-- The pair. -/
def pair : TokenPair :=
  ⟨m.token i .access, m.token i .refresh, i.accessTtl, i.refreshTtl⟩

/-- The record that is kept for a token. -/
def bound (k : TokenKind) : SessionRecord :=
  m.record.bind (m.session k.other)

/-- The call that keeps it. -/
def save (k : TokenKind) : Store.Call :=
  saveCall (m.session k) (m.bound k) (i.sessionTtl k)

end Issuance

/-- What the call for a token keeps. -/
theorem eq_of_set_eq_save {m : Issuance} {i : TokenIssuer} {k : TokenKind} {key value : String}
    {ttl : Time.Duration} (h : Question.store (.set key value ttl) = .store (m.save i k)) :
    key = storeKey (m.session k) ∧ value = recordText (m.bound k) ∧ ttl = i.sessionTtl k := by
  simpa [Issuance.save, saveCall] using h

theorem session_eq_of_save_eq {m m' : Issuance} {i : TokenIssuer} {k k' : TokenKind}
    (h : Question.store (m.save i k) = .store (m'.save i k')) : m.session k = m'.session k' :=
  storeKey_injective (eq_of_set_eq_save h).1

theorem eq_of_revoke_eq {s s' : Uuid}
    (h : Question.store (revokeCall s) = .store (revokeCall s')) : s = s' :=
  storeKey_injective (by simpa [revokeCall] using h)

/-- A record is kept for some time if its token lives for some. -/
theorem nanos_sessionTtl_ne_zero {i : TokenIssuer} {k : TokenKind} (h : 0 < i.ttl k) :
    (i.sessionTtl k).nanos ≠ 0 := by
  show i.ttl k * 1000000000 ≠ 0
  omega

/-! ## Making an issuance -/

/-- What the token issuer checks of an issuance. -/
structure Fits (i : TokenIssuer) (m : Issuance) : Prop where
  lifetime : ∀ k, i.ttl k ≤ TokenIssuer.maxLifetime
  expiry : ∀ k, m.issuedAt.addSeconds? (i.ttl k) = some (m.expiresAt k)

/-- The three observations by which an issuance is made, the newest first. -/
def Drawn (m : Issuance) (newer : Trace) : Prop :=
  ∃ o₁ o₂ o₃, newer = [o₃, o₂, o₁] ∧ o₁.Saw .now m.issuedAt ∧
    o₂.Saw .freshId (m.session .access) ∧ o₃.Saw .freshId (m.session .refresh)

theorem Drawn.questions {m : Issuance} {o₁ o₂ o₃ : Observation} (h : Drawn m [o₃, o₂, o₁]) :
    o₁.question = .now ∧ o₂.question = .freshId ∧ o₃.question = .freshId := by
  obtain ⟨_, _, _, he, h₁, h₂, h₃⟩ := h
  cases he
  exact ⟨h₁.question, h₂.question, h₃.question⟩

theorem Drawn.ne_store {m : Issuance} {newer : Trace} (h : Drawn m newer) {o : Observation}
    (ho : o ∈ newer) (call : Store.Call) : o.question ≠ .store call := by
  obtain ⟨o₁, o₂, o₃, rfl, -⟩ := id h
  obtain ⟨h₁, h₂, h₃⟩ := h.questions
  simp only [List.mem_cons, List.not_mem_nil, or_false] at ho
  rcases ho with rfl | rfl | rfl
  · simp [h₃]
  · simp [h₂]
  · simp [h₁]

/-- Whether a lifetime leads out of the calendar where it is added to the time of issue. -/
def Overruns (i : TokenIssuer) (t : Instant) : Prop :=
  i.ttl .access ≤ TokenIssuer.maxLifetime ∧ (t.addSeconds? (i.ttl .access) = none ∨
    i.ttl .refresh ≤ TokenIssuer.maxLifetime ∧ t.addSeconds? (i.ttl .refresh) = none)

theorem Fits.not_overruns {i : TokenIssuer} {m : Issuance} (h : Fits i m) :
    ¬Overruns i m.issuedAt := by
  rintro ⟨-, hout | ⟨-, hout⟩⟩
  · cases hout.symm.trans (h.expiry .access)
  · cases hout.symm.trans (h.expiry .refresh)

/-- Whether a trace read the time of issue, and drew identifiers after it. -/
def Dated (newer : Trace) (t : Instant) : Prop :=
  ∃ fresh o, newer = fresh ++ [o] ∧ o.Saw .now t ∧ ∀ x ∈ fresh, x.question = .freshId

theorem Dated.writeless {newer : Trace} {t : Instant} (h : Dated newer t) : newer.Writeless := by
  obtain ⟨fresh, o, rfl, ho, hf⟩ := h
  intro x hx
  rcases List.mem_append.1 hx with hx | hx
  · simp [hf x hx, Question.Writes]
  · cases List.mem_singleton.1 hx
    simp [ho.question, Question.Writes]

theorem Drawn.dated {m : Issuance} {newer : Trace} (h : Drawn m newer) :
    Dated newer m.issuedAt := by
  obtain ⟨o₁, o₂, o₃, rfl, h₁, h₂, h₃⟩ := h
  exact ⟨[o₃, o₂], o₁, rfl, h₁, by simp [h₂.question, h₃.question]⟩

theorem Drawn.writeless {m : Issuance} {newer : Trace} (h : Drawn m newer) : newer.Writeless :=
  h.dated.writeless

/-- How the making of an issuance can stop short, after some observations. -/
inductive Stopped (i : TokenIssuer) : Trace → Action.Outcome TokenPair → Prop where
  | lifetime {newer : Trace} {t : Instant} (hd : Dated newer t) (h : ¬Overruns i t)
      (hl : ∃ k, TokenIssuer.maxLifetime < i.ttl k) :
      Stopped i newer (.finished (.error TokenIssuer.lifetimeOutOfRange))
  | calendar {newer : Trace} {t : Instant} (hd : Dated newer t) (h : Overruns i t) :
      Stopped i newer .crashed

theorem Stopped.writeless {i : TokenIssuer} {newer : Trace} {out : Action.Outcome TokenPair}
    (h : Stopped i newer out) : newer.Writeless := by
  cases h with
  | lifetime hd => exact hd.writeless
  | calendar hd => exact hd.writeless

/-- The failure of keeping a pair. -/
def notKept : Failure := .internal "Failed to persist session"

/-- Hands two tokens out if both records were kept; one that was kept alone is removed. -/
def conclude (i : TokenIssuer) (access refresh : IssuedToken)
    (keptAccess keptRefresh : Except Failure Unit) : Action TokenPair :=
  match keptAccess, keptRefresh with
  | .ok _, .ok _ => return ⟨access, refresh, i.accessTtl, i.refreshTtl⟩
  | .ok _, .error _ => do
    tryRevoke access.session
    Action.fail notKept
  | .error _, .ok _ => do
    tryRevoke refresh.session
    Action.fail notKept
  | .error _, .error _ => Action.fail notKept

/-- Keeps the records of two tokens. -/
def keepTokens (i : TokenIssuer) (r : SessionRecord) (access refresh : IssuedToken) :
    Action TokenPair := do
  let (keptAccess, keptRefresh) ← Action.bothStore
    (saveCall access.session (r.bind refresh.session) (i.sessionTtl .access))
    (saveCall refresh.session (r.bind access.session) (i.sessionTtl .refresh))
  conclude i access refresh keptAccess keptRefresh

theorem issuePair_eq (i : TokenIssuer) (r : SessionRecord) :
    issuePair i r = (do
      let access ← i.issueAccess r.subject
      let refresh ← i.issueRefresh r.subject access.issuedAt
      keepTokens i r access refresh) := by
  unfold issuePair
  congr 1
  funext access
  congr 1
  funext refresh
  unfold keepTokens
  congr 1
  funext ⟨x, y⟩
  cases x <;> cases y <;> rfl

/-- Keeps the records of an issuance. -/
def keepPair (i : TokenIssuer) (m : Issuance) : Action TokenPair :=
  keepTokens i m.record (m.token i .access) (m.token i .refresh)

open Gatehouse.Action

variable {α : Type} {T : Terms} {tr : Trace} {i : TokenIssuer}

theorem along_issue {k : TokenKind} {subject : Uuid} {t : Instant}
    {ends : Trace → Outcome IssuedToken → Prop}
    (hlong : TokenIssuer.maxLifetime < i.ttl k →
      ends tr (.finished (.error TokenIssuer.lifetimeOutOfRange)))
    (hout : i.ttl k ≤ TokenIssuer.maxLifetime → t.addSeconds? (i.ttl k) = none →
      ends tr .crashed)
    (hok : ∀ e, i.ttl k ≤ TokenIssuer.maxLifetime → t.addSeconds? (i.ttl k) = some e →
      T.guarantee tr .freshId ∧ ∀ o session, o.Saw .freshId session → T.rely tr o →
        ends (o :: tr) (.finished (.ok ⟨session,
          i.encode ⟨subject, session, k, t.seconds, e.seconds⟩, t, e⟩))) :
    (i.issue k subject t).Along T ends tr := by
  unfold TokenIssuer.issue
  split
  · rename_i h
    exact hlong h
  · rename_i h
    split
    · rename_i h'
      exact hout (by omega) h'
    · rename_i e h'
      obtain ⟨hg, hn⟩ := hok e (by omega) h'
      exact ⟨hg, fun b how session a hr => hn _ session ⟨b, how, a, rfl⟩ hr⟩

/-- Issuing a pair is making an issuance and keeping it. -/
theorem along_issuePair {r : SessionRecord} {d : Directory}
    {ends : Trace → Outcome TokenPair → Prop}
    (hfree : ∀ newer q, newer.Writeless → q.Looks → T.guarantee (newer ++ tr) q)
    (hstop : ∀ newer out, Stopped i newer out → T.Relies tr newer → ends (newer ++ tr) out)
    (hkeep : ∀ m newer, m.record = r → m.resolved = d → Fits i m → Drawn m newer →
      T.Relies tr newer → (keepPair i m).Along T ends (newer ++ tr)) :
    (issuePair i r).Along T ends tr := by
  rw [issuePair_eq]
  refine along_bind.2 (along_bind.2
    ⟨hfree [] _ Trace.writeless_nil trivial, fun b how t a hr => ?_⟩)
  have h₁ : (⟨b, .now, how, t, a⟩ : Observation).Saw .now t := ⟨b, how, a, rfl⟩
  generalize (⟨b, .now, how, t, a⟩ : Observation) = o₁ at *
  have hw₁ : Trace.Writeless [o₁] := by
    simp [Trace.writeless_cons, Trace.writeless_nil, h₁.question, Question.Writes]
  have hd₁ : Dated [o₁] t := ⟨[], o₁, rfl, h₁, by simp⟩
  refine along_issue (fun hlong => ?_) (fun hle hout => ?_) fun e hle he => ?_
  · exact hstop [o₁] _ (.lifetime hd₁ (fun h => by have := h.1; omega) ⟨_, hlong⟩) ⟨hr, trivial⟩
  · exact hstop [o₁] _ (.calendar hd₁ ⟨hle, .inl hout⟩) ⟨hr, trivial⟩
  refine ⟨hfree [o₁] _ hw₁ trivial, fun o₂ access h₂ hr₂ => ?_⟩
  have hw₂ : Trace.Writeless [o₂, o₁] := by
    simp [Trace.writeless_cons, hw₁, h₂.question, Question.Writes]
  have hd₂ : Dated [o₂, o₁] t := ⟨[o₂], o₁, rfl, h₁, by simpa using h₂.question⟩
  refine along_bind.2 (along_issue (fun hlong => ?_) (fun hle' hout => ?_) fun e' hle' he' => ?_)
  · refine hstop [o₂, o₁] _ (.lifetime hd₂ ?_ ⟨_, hlong⟩) ⟨hr₂, hr, trivial⟩
    rintro ⟨-, hout | ⟨hle', -⟩⟩
    · cases hout.symm.trans he
    · omega
  · exact hstop [o₂, o₁] _ (.calendar hd₂ ⟨hle, .inr ⟨hle', hout⟩⟩) ⟨hr₂, hr, trivial⟩
  refine ⟨hfree [o₂, o₁] _ hw₂ trivial, fun o₃ refresh h₃ hr₃ => ?_⟩
  let m : Issuance := ⟨d, r, t, TokenKind.pick access refresh, TokenKind.pick e e'⟩
  show (keepPair i m).Along T ends (o₃ :: o₂ :: o₁ :: tr)
  exact hkeep m [o₃, o₂, o₁] rfl rfl
    ⟨by rintro (_ | _) <;> assumption, by rintro (_ | _) <;> assumption⟩
    ⟨o₁, o₂, o₃, rfl, h₁, h₂, h₃⟩ ⟨hr₃, hr₂, hr, trivial⟩

/-! ## Keeping an issuance -/

/-- The two observations of keeping the records, in either order, with the result of each. -/
def Saved (i : TokenIssuer) (m : Issuance) (res : TokenKind → Except Failure Unit)
    (newer : Trace) : Prop :=
  ∃ k o o', newer = [o', o] ∧ o.Saw (.store (m.save i k)) (res k) ∧
    o'.Saw (.store (m.save i k.other)) (res k.other)

/-- How the keeping of an issuance can go, with all that is observed of it. -/
inductive Kept (i : TokenIssuer) (m : Issuance) : Trace → Outcome TokenPair → Prop where
  | both {newer : Trace} (h : Saved i m (fun _ => .ok ()) newer) :
      Kept i m newer (.finished (.ok (m.pair i)))
  | one {newer : Trace} {res : TokenKind → Except Failure Unit} {j : TokenKind} {e : Failure}
      {d : Observation} {z : Except Failure Unit} (h : Saved i m res newer) (hj : res j = .ok ())
      (he : res j.other = .error e) (hd : d.Saw (.store (revokeCall (m.session j))) z) :
      Kept i m (d :: newer) (.finished (.error notKept))
  | none {newer : Trace} {res : TokenKind → Except Failure Unit} (h : Saved i m res newer)
      (he : ∀ k, ∃ e, res k = .error e) : Kept i m newer (.finished (.error notKept))

theorem Saved.saves {m : Issuance} {res : TokenKind → Except Failure Unit} {newer : Trace}
    (h : Saved i m res newer) : ∀ o ∈ newer, ∃ k, o.question = .store (m.save i k) := by
  obtain ⟨k, o, o', rfl, ho, ho'⟩ := h
  intro x hx
  simp only [List.mem_cons, List.not_mem_nil, or_false] at hx
  rcases hx with rfl | rfl
  · exact ⟨k.other, ho'.question⟩
  · exact ⟨k, ho.question⟩

theorem writes_of_save {m : Issuance} {o : Observation} {k : TokenKind}
    (h : o.question = .store (m.save i k)) : o.question.Writes := by
  rw [h]
  trivial

theorem writes_of_revoke {o : Observation} {s : Uuid} (h : o.question = .store (revokeCall s)) :
    o.question.Writes := by
  rw [h]
  trivial

theorem Saved.writing {m : Issuance} {res : TokenKind → Except Failure Unit} {newer : Trace}
    (h : Saved i m res newer) : newer.Writing := by
  intro o ho
  obtain ⟨k, hk⟩ := h.saves o ho
  exact writes_of_save hk

theorem Kept.writing {m : Issuance} {newer : Trace} {out : Outcome TokenPair}
    (h : Kept i m newer out) : newer.Writing := by
  cases h with
  | both h => exact h.writing
  | one h _ _ hd => exact h.writing.cons (writes_of_revoke hd.question)
  | none h _ => exact h.writing

/-- Removing one record that was kept alone. -/
theorem along_undo {m : Issuance} {newer : Trace} {res : TokenKind → Except Failure Unit}
    {j : TokenKind} {e : Failure} {ends : Trace → Outcome TokenPair → Prop}
    (h : Saved i m res newer) (hr : T.Relies tr newer) (hj : res j = .ok ())
    (he : res j.other = .error e)
    (hg : T.guarantee (newer ++ tr) (.store (revokeCall (m.session j))))
    (hends : ∀ newer out, Kept i m newer out → T.Relies tr newer → ends (newer ++ tr) out) :
    (do tryRevoke (m.session j); fail notKept : Action TokenPair).Along T ends (newer ++ tr) := by
  refine ⟨hg, fun b how z a hd => ?_⟩
  have hk : Kept i m (⟨b, .store (revokeCall (m.session j)), how, z, a⟩ :: newer)
      (.finished (.error notKept)) := .one h hj he ⟨b, how, a, rfl⟩
  cases z <;> exact hends _ _ hk ⟨hd, hr⟩

theorem along_keepPair {m : Issuance} {ends : Trace → Outcome TokenPair → Prop}
    (hfirst : ∀ k, T.guarantee tr (.store (m.save i k)))
    (hsecond : ∀ k o x, o.Saw (.store (m.save i k)) x → T.rely tr o →
      T.guarantee (o :: tr) (.store (m.save i k.other)))
    (hundo : ∀ newer res j e, Saved i m res newer → T.Relies tr newer → res j = .ok () →
      res j.other = .error e → T.guarantee (newer ++ tr) (.store (revokeCall (m.session j))))
    (hends : ∀ newer out, Kept i m newer out → T.Relies tr newer → ends (newer ++ tr) out) :
    (keepPair i m).Along T ends tr := by
  have next : ∀ x y newer, Saved i m (TokenKind.pick x y) newer → T.Relies tr newer →
      (conclude i (m.token i .access) (m.token i .refresh) x y).Along T ends (newer ++ tr) := by
    intro x y newer h hr
    rcases x with e | _ <;> rcases y with e' | _
    · exact hends _ _ (.none h (by rintro (_ | _) <;> exact ⟨_, rfl⟩)) hr
    · have hg := hundo _ _ .refresh e h hr rfl rfl
      exact along_undo h hr rfl rfl hg hends
    · have hg := hundo _ _ .access e' h hr rfl rfl
      exact along_undo h hr rfl rfl hg hends
    · have hres : TokenKind.pick (.ok ()) (.ok ()) = fun _ => (.ok () : Except Failure Unit) := by
        funext k
        cases k <;> rfl
      exact hends _ _ (.both (hres ▸ h)) hr
  refine ⟨⟨hfirst .access, fun b how x a hr => ?_⟩, ⟨hfirst .refresh, fun b how y a hr => ?_⟩⟩
  · refine ⟨hsecond .access _ x ⟨b, how, a, rfl⟩ hr, fun b' how' y a' hr' => ?_⟩
    exact next x y [_, _] ⟨.access, _, _, rfl, ⟨b, how, a, rfl⟩, ⟨b', how', a', rfl⟩⟩
      ⟨hr', hr, trivial⟩
  · refine ⟨hsecond .refresh _ y ⟨b, how, a, rfl⟩ hr, fun b' how' x a' hr' => ?_⟩
    exact next x y [_, _] ⟨.refresh, _, _, rfl, ⟨b, how, a, rfl⟩, ⟨b', how', a', rfl⟩⟩
      ⟨hr', hr, trivial⟩

end Session

end Gatehouse
