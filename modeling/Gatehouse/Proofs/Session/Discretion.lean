import Gatehouse.Proofs.Run.Agreement
import Gatehouse.Proofs.Session.Workload

/-!
# What is not told of a failure

`upToDetail` says which answers differ in nothing but the detail of a failure: two failures on this
side, of whatever kind and message, the text of a record that cannot be read being one of them, and
two users whose stored passwords cannot be checked. Under answers like these every operation asks
the same and ends in the same way (`agree_request`, `agree_evaluate`). Most operations are `Closed`:
after any such failure they end with an internal one. An exchange is only `Reserved`, because it
succeeds even if the other half of the old pair could not be removed.
-/

namespace Gatehouse

open Gatehouse.Action

variable {α β : Type}

/-! ## Failures that differ in detail only -/

/-- Whether an answer is a failure on this side. -/
def Broken (x : Except Failure α) : Prop := ∃ e, x = .error e ∧ e.kind.isServerSide = true

/-- Whether two answers are the same but for the detail of a failure. -/
def SameButDetail (x x' : Except Failure α) : Prop := x = x' ∨ Broken x ∧ Broken x'

/-- Whether the stored password of a user cannot be read, so that no password can be checked. -/
def User.Unreadable (u : User) : Prop :=
  ∀ salt hash, PasswordHasher.readSalt u.salt = .ok salt →
    PasswordHasher.readHash u.password ≠ .ok hash

/-- Whether two users differ in their stored passwords only, neither of which can be read. -/
def User.SameButPassword (u u' : User) : Prop :=
  (∃ salt password, u' = { u with salt, password }) ∧ u.Unreadable ∧ u'.Unreadable

/-- Answers are alike if they differ in the detail of a failure only. A record that cannot be read
is a failure to load it, and an unreadable password is one where it would be checked. -/
def upToDetail : Likeness where
  alike
    | .store (.get _), x, x' => SameButDetail (Session.loaded x) (Session.loaded x')
    | .store _, x, x' => SameButDetail x x'
    | .directory (.byEmail _), x, x' =>
      SameButDetail x x' ∨ ∃ u u', x = .ok (some u) ∧ x' = .ok (some u') ∧ u.SameButPassword u'
    | .directory _, x, x' => SameButDetail x x'
    | .database, x, x' => SameButDetail x x'
    | .now, x, x' => x = x'
    | .freshId, x, x' => x = x'
    | .freshSalt, x, x' => x = x'
  faulty
    | .store (.get _), x => Broken (Session.loaded x)
    | .store _, x => Broken x
    | .directory (.byEmail _), x =>
      Broken x ∨ ∃ u, x = .ok (some u) ∧ u.canLogIn = true ∧ u.Unreadable
    | .directory _, x => Broken x
    | .database, x => Broken x
    | .now, _ | .freshId, _ | .freshSalt, _ => False

theorem not_broken_ok {x : α} : ¬Broken (.ok x : Except Failure α) := by
  rintro ⟨e, h, -⟩
  cases h

theorem Broken.exists_error {x : Except Failure α} (h : Broken x) : ∃ e, x = .error e :=
  let ⟨e, h, _⟩ := h
  ⟨e, h⟩

/-- Nothing of a failure on this side but what was being done is surfaced. -/
theorem Broken.surface_eq {x : Except Failure α} (h : Broken x) (doing : String) :
    x.mapError (Failure.surface doing) = .error (Failure.internal doing) := by
  obtain ⟨e, rfl, he⟩ := h
  exact congrArg Except.error (Failure.surface_of_isServerSide he doing)

theorem SameButDetail.surface_eq {x x' : Except Failure α} (h : SameButDetail x x')
    (doing : String) :
    x.mapError (Failure.surface doing) = x'.mapError (Failure.surface doing) := by
  obtain rfl | ⟨h, h'⟩ := h
  · rfl
  · rw [h.surface_eq, h'.surface_eq]

theorem SameButDetail.eq_of_ok {x : α} {x' : Except Failure α} (h : SameButDetail (.ok x) x') :
    x' = .ok x := by
  obtain rfl | ⟨h, -⟩ := h
  · rfl
  · exact absurd h not_broken_ok

theorem SameButDetail.exists_error {e : Failure} {x' : Except Failure α}
    (h : SameButDetail (.error e) x') : ∃ e', x' = .error e' := by
  obtain rfl | ⟨-, h⟩ := h
  · exact ⟨e, rfl⟩
  · exact h.exists_error

theorem upToDetail_refl (q : Question) (x : q.Answer) : upToDetail.alike q x x := by
  cases q with
  | store call => cases call <;> exact .inl rfl
  | directory call =>
    cases call with
    | byEmail email => exact .inl (.inl rfl)
    | _ => exact .inl rfl
  | database => exact .inl rfl
  | now => rfl
  | freshId => rfl
  | freshSalt => rfl

theorem alike_self (tr : Trace) : tr.Alike upToDetail tr := by
  refine List.forall₂_same.2 fun o _ => ⟨rfl, fun x hx => ?_, fun _ _ => Iff.rfl⟩
  have ho : o.Saw o.question o.answer := ⟨o.before, o.how, o.after, rfl⟩
  exact ho.unique hx ▸ upToDetail_refl _ _

/-! ## Ends -/

/-- Whether an action that saw a fault ends with an internal failure. -/
def Closed (seen : Prop) (out : Outcome α) : Prop :=
  seen → ∃ e, out = .finished (.error e) ∧ e.kind = .internal

/-- Whether an action that saw a fault fails with an internal failure, if it fails. -/
def Reserved (seen : Prop) (out : Outcome α) : Prop :=
  seen → ∀ e, out = .finished (.error e) → e.kind = .internal

/-- Whatever the end is. -/
def AnyEnd (_ : Prop) (_ : Outcome α) : Prop := True

variable {seen : Prop} {out : Outcome α} {ends : Prop → Outcome β → Prop}

/-- If any end will do, it does not matter what was seen. -/
theorem agree_any {seen' : Prop} {a a' : Action β} (h : Agree upToDetail ends seen a a') :
    Agree upToDetail AnyEnd seen' a a' := by
  induction h generalizing seen' with
  | done => exact .done trivial
  | crash => exact .crash trivial
  | ask _ ih => exact .ask fun x x' hx => ih x x' hx
  | both _ ih => exact .both fun x x' y y' hx hy => ih x x' y y' hx hy

theorem Closed.reserved (h : Closed seen out) : Reserved seen out := by
  rintro hs e rfl
  obtain ⟨_, he, hk⟩ := h hs
  cases he
  exact hk

theorem closed_of_not (h : ¬seen) : Closed seen out := fun hs => absurd hs h

theorem closed_internal (message : String) :
    Closed seen (.finished (.error (.internal message)) : Outcome α) :=
  fun _ => ⟨_, rfl, rfl⟩

/-- Whether an action that saw a fault fails with internal failures only. -/
def FailsInside (a : Action α) : Prop :=
  ∀ tr e, a.Reaches tr (done (.error e)) →
    (∃ o ∈ tr, upToDetail.faulty o.question o.answer) → e.kind = .internal

theorem failsInside_of_agree {a : Action α} (h : Agree upToDetail Reserved False a a) :
    FailsInside a := by
  intro tr e hr hs
  obtain ⟨order, ho⟩ := reaches_iff_exists_order.1 hr
  obtain ⟨-, hagree⟩ := h.runs ho ho (alike_self tr)
  exact (Agree.eq_of_over (.finished (.error e) : Outcome α) hagree).2 hs e rfl

theorem agree_of_not {a a' : Action β} (hs : ¬seen) (h : Agree upToDetail ends False a a') :
    Agree upToDetail ends seen a a' := by
  rwa [eq_false hs]

/-- After a closed action that succeeded no fault was seen. -/
theorem agree_then {a a' : Action α} {f : α → Action β}
    (hends : ∀ seen (out : Outcome β), Closed seen out → ends seen out)
    (h : Agree upToDetail Closed seen a a')
    (hf : ∀ x, Agree upToDetail ends False (f x) (f x)) :
    Agree upToDetail ends seen (a >>= f) (a' >>= f) := by
  refine agree_bind (h.mono fun seen out hc => ?_)
  rcases out with (e | x) | _
  · refine hends _ _ fun hs => ?_
    obtain ⟨_, he, hk⟩ := hc hs
    cases he
    exact ⟨e, rfl, hk⟩
  · refine agree_of_not (fun hs => ?_) (hf x)
    obtain ⟨_, he, -⟩ := hc hs
    cases he
  · refine hends _ _ fun hs => ?_
    obtain ⟨_, he, -⟩ := hc hs
    cases he

/-- The same for two closed actions. -/
theorem agree_seq {a a' : Action α} {f : α → Action β} (h : Agree upToDetail Closed seen a a')
    (hf : ∀ x, Agree upToDetail Closed False (f x) (f x)) :
    Agree upToDetail Closed seen (a >>= f) (a' >>= f) :=
  agree_then (fun _ _ hc => hc) h hf

theorem agree_done (r : Except Failure α) : Agree upToDetail Closed False (done r) (done r) :=
  .done (closed_of_not id)

theorem agree_orFail (e : Failure) (x : Option α) :
    Agree upToDetail Closed False (orFail e x) (orFail e x) := by
  cases x <;> exact agree_done _

/-- A call whose failure is surfaced is closed. -/
theorem agree_surfacing (q : Question) (read : q.Answer → Except Failure α)
    (halike : ∀ x x', upToDetail.alike q x x' → SameButDetail (read x) (read x'))
    (hfaulty : ∀ x, upToDetail.faulty q x → Broken (read x)) (doing : String) :
    Agree upToDetail Closed False (ask q fun x => done ((read x).mapError (.surface doing)))
      (ask q fun x => done ((read x).mapError (.surface doing))) := by
  refine .ask fun x x' hx => ?_
  have he := SameButDetail.surface_eq (halike x x' hx) doing
  rw [← he]
  refine .done fun hs => ⟨.internal doing, ?_, rfl⟩
  rw [(hfaulty x (hs.resolve_left id)).surface_eq doing]

namespace Session

variable {v : Services} {i : TokenIssuer} {s : Uuid}

/-! ## Calls -/

theorem agree_load (s : Uuid) (doing : String) :
    Agree upToDetail Closed False ((load s).surfacing doing) ((load s).surfacing doing) := by
  rw [load_eq]
  exact agree_surfacing (.store (.get (storeKey s))) loaded (fun _ _ h => h) (fun _ h => h) doing

theorem agree_logout (s : Uuid) : Agree upToDetail Closed False (logout s) (logout s) :=
  agree_surfacing (.store (revokeCall s)) id (fun _ _ h => h) (fun _ h => h) _

theorem agree_isLive (s : Uuid) (doing : String) :
    Agree upToDetail Closed False ((isLive s).surfacing doing) ((isLive s).surfacing doing) :=
  agree_surfacing (.store (.isPresent (storeKey s))) id (fun _ _ h => h) (fun _ h => h) doing

theorem agree_rolesOf (user : Uuid) (doing : String) :
    Agree upToDetail Closed False ((callDirectory (.rolesOf user)).surfacing doing)
      ((callDirectory (.rolesOf user)).surfacing doing) :=
  agree_surfacing (.directory (.rolesOf user)) id (fun _ _ h => h) (fun _ h => h) doing

theorem agree_permissionsOf (role : Uuid) (doing : String) :
    Agree upToDetail Closed False ((callDirectory (.permissionsOf role)).surfacing doing)
      ((callDirectory (.permissionsOf role)).surfacing doing) :=
  agree_surfacing (.directory (.permissionsOf role)) id (fun _ _ h => h) (fun _ h => h) doing

/-! ## Operations -/

theorem agree_logoutPair (s : Uuid) :
    Agree upToDetail Closed False (logoutPair s) (logoutPair s) := by
  refine agree_seq (agree_load s _) fun found => agree_seq (agree_logout s) fun _ => ?_
  split
  · exact agree_logout _
  · exact agree_done _

theorem agree_describe (s : Uuid) : Agree upToDetail Closed False (describe s) (describe s) :=
  agree_seq (agree_load s _) fun found => agree_orFail _ found

theorem agree_isGrantedBy (permission : String) (roles : List RoleRef) :
    Agree upToDetail Closed False (isGrantedBy permission roles)
      (isGrantedBy permission roles) := by
  induction roles with
  | nil => exact agree_done _
  | cons role roles ih =>
    refine agree_seq (agree_permissionsOf _ _) fun granted => ?_
    split
    · exact agree_done _
    · exact ih

theorem agree_evaluate (s : Uuid) (permission : String) :
    Agree upToDetail Closed False (evaluate s permission) (evaluate s permission) := by
  refine agree_seq (agree_describe s) fun r => agree_seq (agree_isGrantedBy _ _) fun granted => ?_
  split <;> exact agree_done _

theorem agree_now : Agree upToDetail Closed False now now :=
  .ask fun t t' ht => by
    obtain rfl : t = t' := ht
    exact .done (closed_of_not (by rintro (h | h) <;> exact h))

theorem agree_freshId : Agree upToDetail Closed False freshId freshId :=
  .ask fun id id' hid => by
    obtain rfl : id = id' := hid
    exact .done (closed_of_not (by rintro (h | h) <;> exact h))

theorem agree_check (k : TokenKind) (token : String) :
    Agree upToDetail Closed False (v.verifier.check k token) (v.verifier.check k token) :=
  agree_seq agree_now fun _ => agree_done _

theorem agree_authenticate (token : String) :
    Agree upToDetail Closed False (v.authenticate token) (v.authenticate token) := by
  refine agree_seq (agree_check .access token) fun c => agree_seq (agree_isLive _ _) fun live => ?_
  split <;> exact agree_done _

theorem agree_authorize (token permission : String) :
    Agree upToDetail Closed False (v.authorize token permission) (v.authorize token permission) :=
  agree_seq (agree_authenticate token) fun _ => agree_seq (agree_evaluate _ _) fun _ => agree_done _

/-! ## Pairs -/

theorem agree_issue (k : TokenKind) (subject : Uuid) (t : Time.Instant) :
    Agree upToDetail Closed False (i.issue k subject t) (i.issue k subject t) := by
  unfold TokenIssuer.issue
  split
  · exact agree_done _
  · split
    · exact .crash (closed_of_not id)
    · exact agree_seq agree_freshId fun _ => agree_done _

/-- After a record could not be kept, nothing changes the failure. -/
theorem agree_undo (s : Uuid) :
    Agree upToDetail Closed seen (do tryRevoke s; fail notKept : Action TokenPair)
      (do tryRevoke s; fail notKept) :=
  .ask fun _ _ _ => .done (closed_internal _)

theorem agree_conclude {access refresh : IssuedToken} {x x' y y' : Except Failure Unit}
    (hx : SameButDetail x x') (hy : SameButDetail y y')
    (hs : seen → Broken x ∨ Broken y) :
    Agree upToDetail Closed seen (conclude i access refresh x y)
      (conclude i access refresh x' y') := by
  cases x with
  | ok =>
    obtain rfl := hx.eq_of_ok
    cases y with
    | ok =>
      obtain rfl := hy.eq_of_ok
      exact .done (closed_of_not fun h => (hs h).elim not_broken_ok not_broken_ok)
    | error e =>
      obtain ⟨e', rfl⟩ := hy.exists_error
      exact agree_undo access.session
  | error e =>
    obtain ⟨e', rfl⟩ := hx.exists_error
    cases y with
    | ok =>
      obtain rfl := hy.eq_of_ok
      exact agree_undo refresh.session
    | error d =>
      obtain ⟨d', rfl⟩ := hy.exists_error
      exact .done (closed_internal _)

theorem agree_issuePair (r : SessionRecord) :
    Agree upToDetail Closed False (issuePair i r) (issuePair i r) := by
  rw [issuePair_eq]
  refine agree_seq (agree_seq agree_now fun t => agree_issue _ _ _) fun access =>
    agree_seq (agree_issue _ _ _) fun refresh => ?_
  exact .both fun x x' y y' hx hy => agree_conclude hx hy fun h => h.resolve_left id

/-- The rotation may succeed though it saw a fault. -/
theorem agree_rotate (s : Uuid) (old : SessionRecord) (pair : TokenPair) :
    Agree upToDetail Reserved False (Services.rotate s old pair)
      (Services.rotate s old pair) := by
  refine .ask fun x x' hx => ?_
  cases x with
  | ok =>
    obtain rfl : x' = .ok () := SameButDetail.eq_of_ok hx
    cases h : old.pairedWith with
    | none => exact .done fun _ e he => by cases he
    | some access =>
      -- whether the other half could be removed is not looked at
      exact .ask fun _ _ _ => .done fun _ e he => by cases he
  | error e =>
    obtain ⟨e', rfl⟩ : ∃ e', x' = .error e' := SameButDetail.exists_error hx
    exact .both fun _ _ _ _ _ _ => .done (closed_internal _).reserved

theorem agree_refresh (token : String) :
    Agree upToDetail Reserved False (v.refresh token) (v.refresh token) := by
  have hr : ∀ seen (out : Outcome TokenPair), Closed seen out → Reserved seen out :=
    fun _ _ => Closed.reserved
  rw [Services.refresh_eq]
  refine agree_then hr (agree_check .refresh token) fun c =>
    agree_then hr (agree_load _ _) fun found => agree_then hr (agree_orFail _ found) fun old => ?_
  exact agree_then hr (agree_rolesOf _ _) fun roles =>
    agree_then hr (agree_issuePair _) fun pair => agree_rotate _ _ pair

/-! ## Login -/

theorem broken_checkPassword {u : User} (h : u.Unreadable) (password : String) :
    Broken (v.checkPassword password u) := by
  have hkind : ∀ fault : StoredPasswordFault, fault.failure.kind.isServerSide = true := by
    intro fault
    cases fault <;> rfl
  unfold Services.checkPassword PasswordHasher.verify
  cases hs : PasswordHasher.readSalt u.salt with
  | error fault => exact ⟨_, rfl, hkind fault⟩
  | ok salt =>
    cases hh : PasswordHasher.readHash u.password with
    | error fault => exact ⟨_, rfl, hkind fault⟩
    | ok hash => exact absurd hh (h salt hash hs)

/-- What follows the lookup of a user. -/
def letIn (v : Services) (password : String) (found : Option User) : Action TokenPair := do
  let user ← Action.orFail badCredentials found
  if ¬user.canLogIn then Action.fail badCredentials
  else
    let matched ← (Action.ofExcept (v.checkPassword password user)).surfacing
      "Failed to verify password"
    if ¬matched then Action.fail badCredentials
    else
      let roles ← (Action.callDirectory (.rolesOf user.id)).surfacing "Failed to resolve roles"
      issuePair v.issuer (.fresh user.id roles)

theorem logIn_eq (v : Services) (email password : String) :
    v.logIn email password =
      ((callDirectory (.byEmail email)).surfacing "Failed to look up user" >>=
        letIn v password) := rfl

theorem letIn_of_unreadable {u : User} (h : u.Unreadable) (password : String) :
    letIn v password (some u) =
      if ¬u.canLogIn then fail badCredentials
      else fail (.internal "Failed to verify password") := by
  show (if ¬u.canLogIn then fail badCredentials else
    (done ((v.checkPassword password u).mapError (.surface "Failed to verify password")) >>= _)) = _
  rw [(broken_checkPassword h password).surface_eq]
  rfl

theorem agree_letIn (password : String) (found : Option User)
    (hs : seen → ∃ u, found = some u ∧ u.canLogIn = true ∧ u.Unreadable) :
    Agree upToDetail Closed seen (letIn v password found) (letIn v password found) := by
  by_cases h : seen
  · obtain ⟨u, rfl, hu, hr⟩ := hs h
    rw [letIn_of_unreadable hr, if_neg (by simp [hu])]
    exact .done (closed_internal _)
  · refine agree_of_not h (agree_seq (agree_orFail _ found) fun u => ?_)
    split
    · exact agree_done _
    · refine agree_seq (agree_done _) fun matched => ?_
      split
      · exact agree_done _
      · exact agree_seq (agree_rolesOf _ _) fun roles => agree_issuePair _

/-- Two users whose passwords cannot be read are answered alike. -/
theorem letIn_eq_of_sameButPassword {u u' : User} (h : u.SameButPassword u') (password : String) :
    letIn v password (some u) = letIn v password (some u') := by
  obtain ⟨⟨salt, hash, rfl⟩, hr, hr'⟩ := h
  rw [letIn_of_unreadable hr, letIn_of_unreadable hr']
  rfl

theorem agree_logIn (email password : String) :
    Agree upToDetail Closed False (v.logIn email password) (v.logIn email password) := by
  rw [logIn_eq]
  refine .ask fun x x' hx => ?_
  -- Both runs go on with what is surfaced of the answer.
  show Agree _ _ _ (done (x.mapError (.surface "Failed to look up user")) >>= letIn v password)
    (done (x'.mapError (.surface "Failed to look up user")) >>= letIn v password)
  have hself : Agree upToDetail Closed (False ∨ upToDetail.faulty (.directory (.byEmail email)) x)
      (done (x.mapError (.surface "Failed to look up user")) >>= letIn v password)
      (done (x.mapError (.surface "Failed to look up user")) >>= letIn v password) := by
    cases x with
    | error e =>
      refine .done fun hs => ?_
      obtain ⟨_, he, hk⟩ | ⟨u, hu, -⟩ := hs.resolve_left id
      · cases he
        refine ⟨.internal "Failed to look up user", ?_, rfl⟩
        rw [← Failure.surface_of_isServerSide hk]
      · cases hu
    | ok found =>
      refine agree_letIn password found fun hs => ?_
      obtain hb | ⟨u, hu, h⟩ := hs.resolve_left id
      · exact absurd hb not_broken_ok
      · exact ⟨u, Except.ok.inj hu, h⟩
  obtain hx | ⟨u, u', rfl, rfl, hu⟩ := hx
  · rwa [← hx.surface_eq]
  · have he := letIn_eq_of_sameButPassword (v := v) hu password
    show Agree _ _ _ (letIn v password (some u)) (letIn v password (some u'))
    rw [← he]
    exact hself

/-- Whatever is asked about sessions, two runs that differ in the detail of failures ask the same
and end alike, and a failure that follows is internal. -/
theorem agree_request (v : Services) (r : Request) :
    Agree upToDetail Reserved False (r.action v) (r.action v) := by
  cases r with
  | logIn email password => exact (agree_logIn email password).mono fun _ _ => Closed.reserved
  | refresh token => exact agree_refresh token
  | logout s => exact (agree_logout s).mono fun _ _ => Closed.reserved
  | logoutPair s => exact (agree_logoutPair s).mono fun _ _ => Closed.reserved
  | describe s => exact (agree_describe s).mono fun _ _ => Closed.reserved
  | authenticate token => exact (agree_authenticate token).mono fun _ _ => Closed.reserved
  | authorize token permission =>
    exact (agree_authorize token permission).mono fun _ _ => Closed.reserved

end Session

end Gatehouse
