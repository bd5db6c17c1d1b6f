import Gatehouse.Proofs.Password.Exactness
import Gatehouse.Proofs.Session.Discretion

/-!
# What a login comes to

A login looks up the user, decides by what was found and by the password alone (`Services.Rejects`
and the two failures of the check), resolves the roles, and issues a pair. `LogInState` lists how
far it can have come, with all that was observed until then (`logInState_of_reaches`). From this
follows when it calls the store (`LogInState.admits_of_store`), when it is rejected
(`logIn_of_rejects`, `logIn_of_unreadable`), and that it hands out a pair exactly if it was
admitted, the issuance was made and both of its records were kept (`LogInState.exists_pair_iff`).
-/

namespace Gatehouse

open Gatehouse.Action

/-- Whether a user that was found is rejected: it is absent or inactive, or the password is not
its. -/
inductive Services.Rejects (v : Services) (password : String) : Option User → Prop where
  | absent : Rejects v password none
  | inactive {u : User} (h : u.active = false) : Rejects v password (some u)
  | mismatched {u : User} (ha : u.active = true) (h : v.checkPassword password u = .ok false) :
      Rejects v password (some u)

namespace Session

variable {v : Services} {email password : String} {tr : Trace} {i : TokenIssuer}
  {r : SessionRecord}

/-! ## The decision -/

/-- A stored password is unreadable if its texts are not the Base64 texts of a salt that is long
enough and of as many octets as are derived. -/
theorem unreadable_iff {u : User} : u.Unreadable ↔
    (¬∃ salt : Bytes, minSaltLength ≤ salt.length ∧
        u.salt = Base64.encode Base64.standard salt) ∨
      ¬∃ hash : Bytes, hash.length = derivedLength ∧
        u.password = Base64.encode Base64.standard hash := by
  simp only [← PasswordHasher.readSalt_eq_ok_iff, ← PasswordHasher.readHash_eq_ok_iff]
  rw [← not_and_or]
  constructor
  · rintro h ⟨⟨salt, hs⟩, hash, hh⟩
    exact h salt hash hs hh
  · intro h salt hash hs hh
    exact h ⟨⟨salt, hs⟩, hash, hh⟩

theorem letIn_of_rejects {found : Option User} (h : v.Rejects password found) :
    letIn v password found = fail badCredentials := by
  cases h with
  | absent => rfl
  | inactive h =>
    show (if ¬_ then _ else _) = _
    rw [if_pos (by simp [User.canLogIn, h])]
  | mismatched ha h =>
    show (if ¬_ then _ else _) = _
    rw [if_neg (by simp [User.canLogIn, ha]), h]
    rfl

theorem letIn_of_error {u : User} {e : Failure} (ha : u.active = true)
    (h : v.checkPassword password u = .error e) :
    letIn v password (some u) = fail (e.surface "Failed to verify password") := by
  show (if ¬_ then _ else _) = _
  rw [if_neg (by simp [User.canLogIn, ha]), h]
  rfl

theorem letIn_of_matched {u : User} (ha : u.active = true)
    (h : v.checkPassword password u = .ok true) :
    letIn v password (some u) = ask (.directory (.rolesOf u.id)) fun x =>
      match x with
      | .ok roles => issuePair v.issuer (.fresh u.id roles)
      | .error e => fail (e.surface "Failed to resolve roles") := by
  show (if ¬_ then _ else _) = _
  rw [if_neg (by simp [User.canLogIn, ha]), h]
  show ask _ _ = ask _ _
  congr 1
  funext x
  cases x <;> rfl

/-! ## Issuing -/

/-- Whether a trace made an issuance for a record and kept both records of it. -/
def Issued (i : TokenIssuer) (r : SessionRecord) (tr : Trace) : Prop :=
  ∃ m drawn writes, tr = writes ++ drawn ∧ m.record = r ∧ Fits i m ∧ Drawn m drawn ∧
    Saved i m (fun _ => .ok ()) writes

theorem Drawn.length {m : Issuance} {newer : Trace} (h : Drawn m newer) : newer.length = 3 := by
  obtain ⟨_, _, _, rfl, -⟩ := h
  rfl

theorem Saved.length {m : Issuance} {res : TokenKind → Except Failure Unit} {newer : Trace}
    (h : Saved i m res newer) : newer.length = 2 := by
  obtain ⟨_, _, _, rfl, -⟩ := h
  rfl

theorem Issued.length (h : Issued i r tr) : tr.length = 5 := by
  obtain ⟨m, drawn, writes, rfl, -, -, hd, hs⟩ := h
  rw [List.length_append, hs.length, hd.length]

theorem eq_of_saw_save {m m' : Issuance} {k k' : TokenKind} {o : Observation}
    {x y : Except Failure Unit} (h : o.Saw (.store (m.save i k)) x)
    (h' : o.Saw (.store (m'.save i k')) y) : x = y := by
  obtain ⟨b, how, a, rfl⟩ := h
  obtain ⟨b', how', a', h'⟩ := h'
  injection h'

/-- Two writes that worked did not fail, whatever issuance they are taken to be of. -/
theorem Saved.eq_ok_of_saved {m m' : Issuance} {res : TokenKind → Except Failure Unit}
    {newer : Trace} (h : Saved i m (fun _ => .ok ()) newer) (h' : Saved i m' res newer)
    (k : TokenKind) : res k = .ok () := by
  obtain ⟨j, o, o', rfl, ho, ho'⟩ := h
  obtain ⟨j', p, p', he, hp, hp'⟩ := h'
  cases he
  rcases j'.eq_or_eq_other k with rfl | rfl
  · exact eq_of_saw_save hp ho
  · exact eq_of_saw_save hp' ho'

/-- Nothing was issued if one of the writes failed. -/
theorem not_issued_of_saved {m : Issuance} {res : TokenKind → Except Failure Unit}
    {drawn writes : Trace} {k : TokenKind} {e : Failure} (hs : Saved i m res writes)
    (he : res k = .error e) : ¬Issued i r (writes ++ drawn) := by
  rintro ⟨m', drawn', writes', heq, -, -, -, hs'⟩
  obtain ⟨rfl, -⟩ := List.append_inj heq (hs.length.trans hs'.length.symm)
  cases he.symm.trans (hs'.eq_ok_of_saved hs k)

theorem Issued.not_writeless (h : Issued i r tr) : ¬tr.Writeless := by
  obtain ⟨m, drawn, writes, rfl, -, -, -, hs⟩ := h
  intro hw
  obtain ⟨k, o, o', rfl, ho, -⟩ := id hs
  exact hw o (by simp) (writes_of_save ho.question)

/-- Issuing hands out a pair exactly if an issuance was made and both of its records were kept. -/
theorem along_issuePair_issued :
    (issuePair i r).Along ⟨fun _ _ => True, fun tr _ => ¬Issued i r tr⟩
      (fun tr out => (∃ pair, out = .finished (.ok pair)) ↔ Issued i r tr) [] := by
  refine along_issuePair (d := .empty) (fun newer q hw _ h => ?_) (fun newer out hs _ => ?_)
    fun m newer hm _ hf hd _ => ?_
  · exact h.not_writeless (by simpa using hw)
  · -- no pair is handed out without an issuance
    refine ⟨fun ⟨pair, hp⟩ => ?_, fun h => absurd (by simpa using hs.writeless) h.not_writeless⟩
    cases hs <;> cases hp
  · rw [List.append_nil]
    have hfirst : ¬Issued i r newer := fun h => h.not_writeless hd.writeless
    refine along_keepPair (fun _ => hfirst) (fun k o x ho _ h => ?_)
      (fun writes res j e hs _ _ he => not_issued_of_saved hs he) fun writes out hk _ => ?_
    · -- a single write is one too few
      have := h.length
      rw [List.length_cons, hd.length] at this
      omega
    cases hk with
    | both hs => exact ⟨fun _ => ⟨m, newer, writes, rfl, hm, hf, hd, hs⟩, fun _ => ⟨_, rfl⟩⟩
    | one hs _ he _ =>
      refine ⟨fun ⟨pair, hp⟩ => (nomatch hp), fun h => ?_⟩
      have := h.length
      rw [List.length_append, List.length_cons, hs.length, hd.length] at this
      omega
    | none hs he =>
      obtain ⟨e, he⟩ := he .access
      exact ⟨fun ⟨pair, hp⟩ => (nomatch hp), fun h => absurd h (not_issued_of_saved hs he)⟩

theorem exists_pair_iff_issued {b : Action TokenPair} (h : (issuePair i r).Reaches tr b) :
    (∃ pair, b = .done (.ok pair)) ↔ Issued i r tr := by
  obtain ⟨out, rfl, hout⟩ | ⟨q, ho, hq⟩ :=
    (h.along along_issuePair_issued (Trace.all_true tr)).1.over_or_asks
  · rw [← hout]
    rcases out with (e | pair) | _ <;> simp [Outcome.action]
  · refine ⟨?_, fun hi => absurd hi hq⟩
    rintro ⟨pair, rfl⟩
    cases ho

/-! ## The whole login -/

/-- Whether a trace of two observations found an active user with this password and resolved its
roles, so that sessions are issued with this record. -/
def Admits (v : Services) (email password : String) (tr : Trace) (r : SessionRecord) : Prop :=
  ∃ o a u roles, tr = [a, o] ∧ o.Saw (.directory (.byEmail email)) (.ok (some u)) ∧
    u.active = true ∧ v.checkPassword password u = .ok true ∧
    a.Saw (.directory (.rolesOf u.id)) (.ok roles) ∧ r = .fresh u.id roles

theorem Admits.unique {r' : SessionRecord} (h : Admits v email password tr r)
    (h' : Admits v email password tr r') : r = r' := by
  obtain ⟨o, a, u, roles, rfl, ho, -, -, ha, rfl⟩ := h
  obtain ⟨o', a', u', roles', he, ho', -, -, ha', rfl⟩ := h'
  cases he
  cases ho.unique ho'
  cases ha.unique ha'
  rfl

theorem Admits.length (h : Admits v email password tr r) : tr.length = 2 := by
  obtain ⟨_, _, _, _, rfl, -⟩ := h
  rfl

/-- How far a login can have come, with all that was observed until then. -/
inductive LogInState (v : Services) (email password : String) :
    Trace → Action TokenPair → Prop where
  | begun : LogInState v email password [] (v.logIn email password)
  | unfound {o : Observation} {e : Failure} (ho : o.Saw (.directory (.byEmail email)) (.error e)) :
      LogInState v email password [o] (.done (.error (e.surface "Failed to look up user")))
  | rejected {o : Observation} {found : Option User}
      (ho : o.Saw (.directory (.byEmail email)) (.ok found)) (h : v.Rejects password found) :
      LogInState v email password [o] (.done (.error badCredentials))
  | unchecked {o : Observation} {u : User} {e : Failure}
      (ho : o.Saw (.directory (.byEmail email)) (.ok (some u))) (ha : u.active = true)
      (h : v.checkPassword password u = .error e) :
      LogInState v email password [o] (.done (.error (e.surface "Failed to verify password")))
  | matched {o : Observation} {u : User} {q : Question} {next : q.Answer → Action TokenPair}
      (ho : o.Saw (.directory (.byEmail email)) (.ok (some u))) (ha : u.active = true)
      (h : v.checkPassword password u = .ok true) :
      LogInState v email password [o] (.ask q next)
  | unresolved {o a : Observation} {u : User} {e : Failure}
      (ho : o.Saw (.directory (.byEmail email)) (.ok (some u))) (ha : u.active = true)
      (h : v.checkPassword password u = .ok true)
      (hr : a.Saw (.directory (.rolesOf u.id)) (.error e)) :
      LogInState v email password [a, o] (.done (.error (e.surface "Failed to resolve roles")))
  | issuing {newer older : Trace} {r : SessionRecord} {b : Action TokenPair}
      (ha : Admits v email password older r) (h : (issuePair v.issuer r).Reaches newer b) :
      LogInState v email password (newer ++ older) b

theorem logIn_eq_ask (v : Services) (email password : String) :
    v.logIn email password = ask (.directory (.byEmail email)) fun x =>
      match x with
      | .ok found => letIn v password found
      | .error e => fail (e.surface "Failed to look up user") := by
  show ask _ _ = ask _ _
  congr 1
  funext x
  cases x <;> rfl

theorem logInState_of_letIn {o : Observation} {found : Option User} {newer : Trace}
    {b : Action TokenPair} (ho : o.Saw (.directory (.byEmail email)) (.ok found))
    (h : (letIn v password found).Reaches newer b) :
    LogInState v email password (newer ++ [o]) b := by
  have hrejected : v.Rejects password found → LogInState v email password (newer ++ [o]) b := by
    intro hr
    rw [letIn_of_rejects hr] at h
    obtain ⟨rfl, rfl⟩ := h.of_over (.finished (.error badCredentials))
    exact .rejected ho hr
  cases found with
  | none => exact hrejected .absent
  | some u =>
    cases ha : u.active with
    | false => exact hrejected (.inactive ha)
    | true =>
      rcases hp : v.checkPassword password u with e | _ | _
      · rw [letIn_of_error ha hp] at h
        obtain ⟨rfl, rfl⟩ := h.of_over (.finished (.error _))
        exact .unchecked ho ha hp
      · exact hrejected (.mismatched ha hp)
      · rw [letIn_of_matched ha hp] at h
        obtain ⟨rfl, rfl⟩ | ⟨newer, a, x, rfl, hs, hr⟩ := h.of_ask
        · exact .matched ho ha hp
        rw [List.append_assoc]
        cases x with
        | error e =>
          obtain ⟨rfl, rfl⟩ := hr.of_over (.finished (.error _))
          exact .unresolved ho ha hp hs
        | ok roles => exact .issuing ⟨o, a, u, roles, rfl, ho, ha, hp, hs, rfl⟩ hr

/-- A login comes to nothing else. -/
theorem logInState_of_reaches {b : Action TokenPair}
    (h : (v.logIn email password).Reaches tr b) : LogInState v email password tr b := by
  rw [logIn_eq_ask] at h
  obtain ⟨rfl, rfl⟩ | ⟨newer, o, x, rfl, ho, hr⟩ := h.of_ask
  · rw [← logIn_eq_ask]
    exact .begun
  · cases x with
    | error e =>
      obtain ⟨rfl, rfl⟩ := hr.of_over (.finished (.error _))
      exact .unfound ho
    | ok found => exact logInState_of_letIn ho hr

/-- The store is called only by a login that was admitted. -/
theorem LogInState.admits_of_store {b : Action TokenPair}
    (h : LogInState v email password tr b) {o : Observation} {older : Trace} {call : Store.Call}
    (hs : o :: older <:+ tr) (hq : o.question = .store call) :
    ∃ first r, Admits v email password first r ∧ first <:+ older := by
  have hm := hs.subset List.mem_cons_self
  cases h with
  | begun => cases hm
  | unfound ho | rejected ho | unchecked ho | matched ho =>
    cases List.mem_singleton.1 hm
    cases ho.question.symm.trans hq
  | unresolved ho _ _ hr =>
    rcases List.mem_pair.1 hm with rfl | rfl
    · cases hr.question.symm.trans hq
    · cases ho.question.symm.trans hq
  | @issuing newer first r b ha _ =>
    -- the two observations that admit it are none of the store, so they are older
    have hno : o ∉ first := by
      obtain ⟨o₁, o₂, u, roles, rfl, h₁, -, -, h₂, -⟩ := ha
      intro hmem
      rcases List.mem_pair.1 hmem with rfl | rfl
      · cases h₂.question.symm.trans hq
      · cases h₁.question.symm.trans hq
    refine ⟨first, r, ha, ?_⟩
    rcases List.suffix_or_suffix_of_suffix hs (List.suffix_append newer first) with hin | hin
    · exact absurd (hin.subset List.mem_cons_self) hno
    · rcases List.suffix_cons_iff.1 hin with rfl | hin
      · exact absurd List.mem_cons_self hno
      · exact hin

/-- A login hands out a pair exactly if it was admitted and issued one. -/
theorem LogInState.exists_pair_iff {b : Action TokenPair} (h : LogInState v email password tr b) :
    (∃ pair, b = .done (.ok pair)) ↔
      ∃ newer first r, tr = newer ++ first ∧ Admits v email password first r ∧
        Issued v.issuer r newer := by
  constructor
  · rintro ⟨pair, rfl⟩
    generalize hb : Action.done (.ok pair) = b at h
    cases h with
    | begun => cases hb
    | unfound | rejected | unchecked | matched | unresolved => cases hb
    | issuing ha h => exact ⟨_, _, _, rfl, ha, (exists_pair_iff_issued h).1 ⟨pair, hb.symm⟩⟩
  · rintro ⟨newer, first, r, htr, ha, hi⟩
    have hlength : tr.length = 7 := by
      rw [htr, List.length_append, hi.length, ha.length]
    cases h with
    | begun | unfound | rejected | unchecked | matched | unresolved => cases hlength
    | issuing ha' h =>
      obtain ⟨rfl, rfl⟩ := List.append_inj' htr (ha'.length.trans ha.length.symm)
      obtain rfl := ha'.unique ha
      exact (exists_pair_iff_issued h).2 hi

/-- After the answer to its lookup a login goes on with the found user. -/
theorem letIn_of_reaches {b : Action TokenPair} {newer : Trace} {o : Observation}
    {found : Option User} (h : (v.logIn email password).Reaches (newer ++ [o]) b)
    (ho : o.Saw (.directory (.byEmail email)) (.ok found)) :
    (letIn v password found).Reaches newer b := by
  rw [logIn_eq_ask] at h
  exact h.of_first ho

/-- A rejected login ends with the answer to its lookup. -/
theorem logIn_of_rejects {b : Action TokenPair} {newer : Trace} {o : Observation}
    {found : Option User} (h : (v.logIn email password).Reaches (newer ++ [o]) b)
    (ho : o.Saw (.directory (.byEmail email)) (.ok found)) (hr : v.Rejects password found) :
    newer = [] ∧ b = .done (.error badCredentials) := by
  have hlet := letIn_of_reaches h ho
  rw [letIn_of_rejects hr] at hlet
  exact hlet.of_over (.finished (.error badCredentials))

/-- An active user whose stored password is unreadable makes the login fail on this side. -/
theorem logIn_of_unreadable {b : Action TokenPair} {newer : Trace} {o : Observation} {u : User}
    (h : (v.logIn email password).Reaches (newer ++ [o]) b)
    (ho : o.Saw (.directory (.byEmail email)) (.ok (some u))) (ha : u.active = true)
    (hu : u.Unreadable) :
    newer = [] ∧ b = .done (.error (.internal "Failed to verify password")) := by
  have hlet := letIn_of_reaches h ho
  rw [letIn_of_unreadable hu, if_neg (by simp [User.canLogIn, ha])] at hlet
  exact hlet.of_over (.finished (.error (.internal "Failed to verify password")))

/-- What can be said of a login that has come to something after some observations. -/
structure LogInOutcome (v : Services) (email password : String) (tr : Trace)
    (b : Action TokenPair) : Prop where
  /-- The store is called only after an active user with this password was found, and its roles were
  resolved. -/
  admitted : ∀ o older call, o :: older <:+ tr → o.question = .store call →
    ∃ first r, Admits v email password first r ∧ first <:+ older
  /-- A user that is absent or inactive, or has another password, is told the same. -/
  rejected : ∀ newer o found, tr = newer ++ [o] →
    o.Saw (.directory (.byEmail email)) (.ok found) → v.Rejects password found →
      newer = [] ∧ b = .done (.error badCredentials)
  /-- A stored salt or hash of an active user that cannot be read is a failure on this side. -/
  unreadable : ∀ newer o u, tr = newer ++ [o] →
    o.Saw (.directory (.byEmail email)) (.ok (some u)) → u.active = true →
    ((¬∃ salt : Bytes, minSaltLength ≤ salt.length ∧
        u.salt = Base64.encode Base64.standard salt) ∨
      ¬∃ hash : Bytes, hash.length = derivedLength ∧
        u.password = Base64.encode Base64.standard hash) →
      newer = [] ∧ b = .done (.error (.internal "Failed to verify password"))
  /-- A pair is handed out exactly if the login was admitted, an issuance was made for the user and
  its roles, and both of its records were kept. -/
  succeeds : (∃ pair, b = .done (.ok pair)) ↔
    ∃ newer first r, tr = newer ++ first ∧ Admits v email password first r ∧
      Issued v.issuer r newer

theorem logInOutcome_of_reaches {b : Action TokenPair}
    (h : (v.logIn email password).Reaches tr b) : LogInOutcome v email password tr b where
  admitted _ _ _ := (logInState_of_reaches h).admits_of_store
  rejected _ _ _ htr ho hr := logIn_of_rejects (htr ▸ h) ho hr
  unreadable _ _ _ htr ho ha hu := logIn_of_unreadable (htr ▸ h) ho ha (unreadable_iff.2 hu)
  succeeds := (logInState_of_reaches h).exists_pair_iff

end Session

end Gatehouse
