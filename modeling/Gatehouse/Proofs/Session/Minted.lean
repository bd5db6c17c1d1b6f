import Gatehouse.Proofs.Session.Issuing

/-!
# Issuances of a run

`Minted i m tr` says that the trace `tr` made the issuance `m`: it resolved the roles of the record,
read the time, and drew the two identifiers, one after the other. In a reachable system an
identifier belongs to one issuance of one request at most, and to one token of it
(`Minted.unique`).
-/

namespace Gatehouse.Session

open RunState

/-- The attributes of the record that was loaded last, if that was the last observation. -/
def carried : Trace → Attributes
  | ⟨_, .store (.get _), _, .ok (some text), _⟩ :: _ =>
    ((readRecord? text).map SessionRecord.extra).getD .empty
  | _ => .empty

/-- Whether an observation resolved the roles of an issuance. The rest of its record is new, but for
the attributes that were loaded right before. -/
structure Resolved (m : Issuance) (o : Observation) (older : Trace) : Prop where
  roles : o.Saw (.directory (.rolesOf m.record.subject)) (.ok m.record.roles)
  directory : o.before.directory = m.resolved
  record : m.record = { SessionRecord.fresh m.record.subject m.record.roles with
    extra := carried older }

/-- Whether a trace made an issuance. -/
structure Minted (i : TokenIssuer) (m : Issuance) (tr : Trace) : Prop where
  fits : Fits i m
  observed : ∃ newer o older, newer ++ o :: older <:+ tr ∧ Drawn m newer ∧ Resolved m o older

namespace Minted

variable {i : TokenIssuer} {m m' : Issuance} {tr newer : Trace}

theorem extend (h : Minted i m tr) (hs : tr <:+ newer) : Minted i m newer := by
  obtain ⟨n, o, older, ho, hd, hr⟩ := h.observed
  exact ⟨h.fits, n, o, older, ho.trans hs, hd, hr⟩

theorem append (h : Minted i m tr) (newer : Trace) : Minted i m (newer ++ tr) :=
  h.extend (List.suffix_append newer tr)

/-- An issuance is determined by the observations that made it. -/
theorem eq_of {o : Observation} {older : Trace} (hf : Fits i m) (hf' : Fits i m')
    (hd : Drawn m newer) (hd' : Drawn m' newer) (hr : Resolved m o older)
    (hr' : Resolved m' o older) : m = m' := by
  obtain ⟨o₁, o₂, o₃, rfl, h₁, h₂, h₃⟩ := hd
  obtain ⟨_, _, _, he, h₁', h₂', h₃'⟩ := hd'
  simp only [List.cons.injEq, and_true] at he
  obtain ⟨rfl, rfl, rfl⟩ := he
  have hsub : m.record.subject = m'.record.subject := by
    simpa using hr.roles.question.symm.trans hr'.roles.question
  have hroles : m.record.roles = m'.record.roles :=
    Except.ok.inj (hr.roles.unique (hsub ▸ hr'.roles))
  have hrecord : m.record = m'.record := by
    rw [hr.record, hr'.record, hsub, hroles]
  have hat : m.issuedAt = m'.issuedAt := h₁.unique h₁'
  have hsession : m.session = m'.session := by
    funext k
    cases k with
    | access => exact h₂.unique h₂'
    | refresh => exact h₃.unique h₃'
  have hexp : m.expiresAt = m'.expiresAt := by
    funext k
    exact Option.some.inj ((hf.expiry k).symm.trans (hat ▸ hf'.expiry k))
  have hres : m.resolved = m'.resolved := hr.directory.symm.trans hr'.directory
  cases m
  cases m'
  simp only at *
  simp only [hrecord, hat, hsession, hexp, hres]

/-- The observations that made an issuance, from a draw of one of its identifiers on. -/
theorem draws (h : Minted i m tr) (k : TokenKind) :
    ∃ o₁ o₂ o₃ o older, o₃ :: o₂ :: o₁ :: o :: older <:+ tr ∧ Drawn m [o₃, o₂, o₁] ∧
      Resolved m o older ∧
      tr.Draws (m.session k) (TokenKind.pick (o₁ :: o :: older) (o₂ :: o₁ :: o :: older) k) := by
  obtain ⟨n, o, older, ho, ⟨o₁, o₂, o₃, rfl, h₁, h₂, h₃⟩, hr⟩ := h.observed
  refine ⟨o₁, o₂, o₃, o, older, ho, ⟨o₁, o₂, o₃, rfl, h₁, h₂, h₃⟩, hr, ?_⟩
  cases k with
  | access => exact ⟨o₂, h₂, (List.suffix_cons _ _).trans ho⟩
  | refresh => exact ⟨o₃, h₃, ho⟩

/-- Two suffixes of one list of the same length are equal. -/
theorem suffix_unique {α : Type} {xs ys zs : List α} (h : xs <:+ zs) (h' : ys <:+ zs)
    (hl : xs.length = ys.length) : xs = ys :=
  (List.suffix_of_suffix_length_le h h' (Nat.le_of_eq hl)).eq_of_length hl

/-- An identifier belongs to one issuance of one request at most, and to one token of it. -/
theorem unique {W : Workload} {S : RunState W} (hS : S.Reachable) {a b : Nat} {t u : Thread W}
    (ht : S.threads[a]? = some t) (hu : S.threads[b]? = some u) (h : Minted i m t.trace)
    (h' : Minted i m' u.trace) {k j : TokenKind} (he : m.session k = m'.session j) :
    a = b ∧ m = m' ∧ k = j := by
  obtain ⟨o₁, o₂, o₃, o, older, hs, hd, hr, hdr⟩ := h.draws k
  obtain ⟨o₁', o₂', o₃', o', older', hs', hd', hr', hdr'⟩ := h'.draws j
  obtain ⟨rfl, hsuf⟩ := hS.drew_unique ht hu hdr (he ▸ hdr')
  cases ht.symm.trans hu
  obtain ⟨hnow, hid, -⟩ := hd.questions
  obtain ⟨hnow', hid', -⟩ := hd'.questions
  -- the access session is drawn right after the clock was read, the refresh session is not
  have hkj : k = j := by
    cases k <;> cases j
    · rfl
    · cases hsuf
      cases hnow.symm.trans hid'
    · cases hsuf
      cases hid.symm.trans hnow'
    · rfl
  have hlen : older.length = older'.length := by
    have := congrArg List.length hsuf
    cases hkj
    cases k <;> simpa [TokenKind.pick] using this
  have hall := suffix_unique hs hs' (by simpa using hlen)
  simp only [List.cons.injEq] at hall
  obtain ⟨rfl, rfl, rfl, rfl, rfl⟩ := hall
  exact ⟨rfl, eq_of h.fits h'.fits hd hd' hr hr', hkj⟩

end Minted

end Gatehouse.Session
