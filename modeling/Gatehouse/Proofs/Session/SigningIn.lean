import Gatehouse.Proofs.Directory.Administrator
import Gatehouse.Proofs.Directory.Resumption
import Gatehouse.Proofs.Password.RoundTrip
import Gatehouse.Proofs.Session.Validity
import Gatehouse.Proofs.Session.Undisturbed

/-!
# Administrators that can sign in

A user signs in by a login and then shows the access token of the pair to be authorized. If nothing
is in the way of the login (`Unimpeded`), the user being found, active and known by its password, it
hands a pair out whose records are kept (`SignedIn`); and if nothing is in the way of the
authorization (`InTime`), it succeeds for whatever one of the roles of the user grants. Here both
run with nothing in between but the passing of time. So whoever was made or found by seeding can
sign in, and is authorized for the whole catalog (`seeded_administrator_signs_in`).
-/

namespace Gatehouse.Session

open Gatehouse.Action RunState
open Time (Instant)

/-- Whether an action has returned a value as said, or has still to ask one of so many
questions. -/
def Returning {α : Type} (n : Nat) (tr : Trace) (rest : Action α) (p : α → Prop) : Prop :=
  (∃ x, rest = .done (.ok x) ∧ p x) ∨ tr.length < n ∧ rest.offer? false ≠ none

/-- Whether nothing is in the way of a login: no call fails, and both lifetimes are ones that can be
counted and end within the calendar. -/
structure Unimpeded (v : Services) (tr : Trace) : Prop where
  works : ∀ o ∈ tr, ¬o.Fails
  countable : ∀ k, v.issuer.ttl k ≤ TokenIssuer.maxLifetime
  dated : ∀ o ∈ tr, ∀ t, o.Saw .now t → ∀ k, t.addSeconds? (v.issuer.ttl k) ≠ none

/-- Whether nothing is in the way of an authorization with the access token of a login: no call
fails, the clock is not past the expiry of the token and not before the leeway, and the lifetime of
the token has not passed since the login read the time of issue. -/
structure InTime (v : Services) (pair : TokenPair) (login tr : Trace) : Prop where
  works : ∀ o ∈ tr, ¬o.Fails
  timely : ∀ o ∈ tr, ∀ now, o.Saw .now now →
    Timely v.verifier.leeway pair.access.expiresAt now
  kept : ∀ o ∈ tr, ∀ i ∈ login, i.question = .now →
    o.before.moment < i.before.moment + (v.issuer.sessionTtl .access).nanos

/-- Whether a user signs in from a world on: a login that nothing is in the way of returns a pair,
and an authorization with its access token that nothing is in the way of returns this user, for
every permission of the catalog. -/
def SignsIn (v : Services) (w : World) (email password : String) (user : Uuid) : Prop :=
  ∀ tr rest, (v.logIn email password).Reaches tr rest → tr.Solitary w → Unimpeded v tr →
    Returning 8 tr rest fun pair =>
      ∀ permission ∈ Catalog.permissions, ∀ tr' rest',
        (v.authorize pair.access.text permission).Reaches tr' rest' →
        tr'.Solitary (tr.world w) → InTime v pair tr tr' →
        Returning ((w.directory.rolesOf user).length + 3) tr' rest'
          (· = ⟨user, pair.access.session⟩)

variable {v : Services} {i : TokenIssuer} {m : Issuance} {w : World} {tr newer older : Trace}
  {email password : String} {u : User} {s : Settings.AuthSettings}

/-! ## Logging in -/

/-- How a login can end, with what was observed of it. -/
inductive LoginEnds (v : Services) (email password : String) :
    Trace → Outcome TokenPair → Prop where
  | rejected {tr : Trace} {e : Failure} (h : v.Rejected email password tr e) :
      LoginEnds v email password tr (.finished (.error e))
  | stopped {newer older : Trace} {out : Outcome TokenPair} (h : Stopped v.issuer newer out) :
      LoginEnds v email password (newer ++ older) out
  | kept {m : Issuance} {newer older : Trace} {out : Outcome TokenPair}
      (hm : v.LogsIn email password m older) (h : Kept v.issuer m newer out) :
      LoginEnds v email password (newer ++ older) out

/-- An action never changes the directory. -/
def sparing : Terms where
  rely _ _ := True
  guarantee _ q := ¬q.Edits

theorem along_logIn_sparing :
    (v.logIn email password).Along sparing (LoginEnds v email password) [] :=
  Services.along_logIn_of (fun _ _ _ hq => hq.not_edits) id (fun _ _ h => .rejected h)
    (fun _ _ _ _ h _ => .stopped h) fun _ _ hm =>
      along_keepPair (fun _ => id) (fun _ _ _ _ _ => id) (fun _ _ _ _ _ _ _ _ => id)
        fun _ _ h _ => .kept hm h

/-- Whether what a trace observed is true, no call failed, and the directory stayed the same. -/
structure Undamaged (d : Directory) (tr : Trace) : Prop where
  truthful : ∀ o ∈ tr, o.Truthful
  works : ∀ o ∈ tr, ¬o.Fails
  directory : ∀ o ∈ tr, o.before.directory = d

theorem Undamaged.answer {d : Directory} (h : Undamaged d tr) {o : Observation} (ho : o ∈ tr)
    {call : Directory.Call} {x : Except Failure call.Reply} (hs : o.Saw (.directory call) x) :
    ∃ now id, x = (Directory.answer now id call d).1 := by
  have ht := h.truthful o ho
  have hd := h.directory o ho
  obtain ⟨b, how, a, rfl⟩ := hs
  obtain ⟨id, hx⟩ | ⟨-, hf⟩ := ht.directory_or_fails
  · exact ⟨b.clock, id, hd ▸ hx⟩
  · exact absurd hf (h.works _ ho)

theorem Undamaged.not_rejected {d : Directory} {e : Failure} (h : Undamaged d tr)
    (hu : d.byEmail email = some u) (ha : u.canLogIn = true)
    (hp : v.checkPassword password u = .ok true) : ¬v.Rejected email password tr e := by
  have found : ∀ {o : Observation} {x}, o ∈ tr → o.Saw (.directory (.byEmail email)) x →
      x = .ok (some u) := fun ho hs => by
    obtain ⟨_, _, hx⟩ := h.answer ho hs
    exact hx.trans (congrArg Except.ok hu)
  intro hr
  cases hr with
  | unfound ho => cases found List.mem_cons_self ho
  | unknown ho => cases found List.mem_cons_self ho
  | inactive ho hno =>
    cases found List.mem_cons_self ho
    cases ha.symm.trans hno
  | unchecked ho hno =>
    cases found List.mem_cons_self ho
    cases hp.symm.trans hno
  | mismatched ho hno =>
    cases found List.mem_cons_self ho
    cases hp.symm.trans hno
  | unresolved _ hr =>
    obtain ⟨_, _, hx⟩ := h.answer List.mem_cons_self hr
    cases hx

theorem Unimpeded.not_stopped {out : Outcome TokenPair} (h : Unimpeded v (newer ++ older)) :
    ¬Stopped v.issuer newer out := by
  intro hs
  cases hs with
  | lifetime _ _ hl =>
    obtain ⟨k, hk⟩ := hl
    exact absurd (h.countable k) (Nat.not_le_of_lt hk)
  | calendar hd hover =>
    obtain ⟨fresh, o, rfl, ho, -⟩ := hd
    have hdated := h.dated o (by simp) _ ho
    obtain ⟨-, hnone | ⟨-, hnone⟩⟩ := hover
    · exact hdated .access hnone
    · exact hdated .refresh hnone

/-- What a login of a user has made and kept when it hands its pair out. -/
structure SignedIn (v : Services) (w : World) (u : User) (m : Issuance) (tr : Trace) : Prop where
  minted : Minted v.issuer m tr
  subject : m.record.subject = u.id
  roles : m.record.roles = w.directory.rolesOf u.id
  directory : (tr.world w).directory = w.directory
  kept : ∀ k moment, (∀ i ∈ tr, i.question = .now →
      moment < i.before.moment + (v.issuer.sessionTtl k).nanos) →
    (tr.world w).store.get? moment (storeKey (m.session k)) = some (recordText (m.bound k))

/-- Both records of a pair that was kept are there until the lifetime of their tokens has passed
since the time of issue was read. -/
theorem get?_of_saved (h : Saved i m (fun _ => .ok ()) newer)
    (hs : Trace.Solitary w (newer ++ older)) (hm : Minted i m older) {k : TokenKind}
    {moment : Nat} (hlt : ∀ n ∈ older, n.question = .now →
      moment < n.before.moment + (i.sessionTtl k).nanos) :
    (Trace.world w (newer ++ older)).store.get? moment (storeKey (m.session k)) =
      some (recordText (m.bound k)) := by
  obtain ⟨j, o, o', rfl, ho, ho'⟩ := h
  have hs₂ : Trace.Solitary w (o' :: o :: older) := hs
  have hne := storeKey_ne (hm.session_ne_of_solitary hs₂.2.2 j)
  have hstore : o'.after.store = _ := hs₂.1.2.store_of_set ho'
  have hstore₁ : o.after.store = _ := hs₂.2.1.2.store_of_set ho
  -- both were kept after the time of issue was read
  obtain ⟨_, _, _, hsuf, ⟨n, _, _, rfl, hn, -, -⟩, -⟩ := hm.observed
  have hmem : n ∈ older := hsuf.subset (by simp)
  have hlt := hlt n hmem hn.question
  have hle : n.before.moment ≤ o.before.moment := Trace.Solitary.moment_le_of_mem hs₂.2 hmem
  have hle' : n.before.moment ≤ o'.before.moment :=
    Trace.Solitary.moment_le_of_mem hs₂ (List.mem_cons_of_mem _ hmem)
  show o'.after.store.get? moment (storeKey (m.session k)) = _
  rw [hstore, Store.Memory.get?_insert]
  rcases j.eq_or_eq_other k with rfl | rfl
  · rw [if_neg hne, hs₂.1.1.store]
    show o.after.store.get? moment _ = _
    rw [hstore₁, Store.Memory.get?_insert, if_pos rfl, if_pos (by dsimp only; omega)]
  · rw [if_pos rfl, if_pos (by dsimp only; omega)]

section

variable (hu : w.directory.byEmail email = some u) (ha : u.active = true)
  (hp : v.checkPassword password u = .ok true)
include hu ha hp

/-- A login that nothing is in the way of ends with a pair. -/
theorem signedIn_of_loginEnds {out : Outcome TokenPair} (hpos : ∀ k, 0 < v.issuer.ttl k)
    (hs : tr.Solitary w) (hun : Unimpeded v tr) (he : ∀ o ∈ tr, ¬o.question.Edits)
    (h : LoginEnds v email password tr out) :
    ∃ m, out = .finished (.ok (m.pair v.issuer)) ∧ SignedIn v w u m tr := by
  have hd : Undamaged w.directory tr :=
    ⟨fun o ho => hs.truthful ho, hun.works, fun o ho => hs.before_directory_eq he ho⟩
  cases h with
  | rejected h => exact absurd h (hd.not_rejected hu ha hp)
  | stopped h => exact absurd h hun.not_stopped
  | @kept m newer older _ hm h =>
    have hw : ∀ o ∈ newer, o.Truthful ∧ ¬o.Fails := fun o ho =>
      ⟨hd.truthful o (List.mem_append_left _ ho), hd.works o (List.mem_append_left _ ho)⟩
    rcases out with (e | pair) | _
    · exact absurd h (Kept.not_error hpos hw)
    · cases h with
      | both hsaved =>
        -- the user and its roles were looked up in the directory that is still there
        have hmem : ∀ {o}, o ∈ older → o ∈ newer ++ older := fun ho => List.mem_append_right _ ho
        obtain ⟨o, user, ho, hsaw, -, -, hid⟩ := hm.found
        obtain ⟨_, _, hfound⟩ := hd.answer (hmem ho) hsaw
        obtain rfl : user = u :=
          Option.some.inj ((Except.ok.inj hfound).trans hu)
        obtain ⟨_, r, _, hsuf, -, hres⟩ := hm.minted.observed
        obtain ⟨_, _, hroles⟩ := hd.answer (hmem (hsuf.subset (by simp))) hres.roles
        refine ⟨m, rfl, hm.minted.append newer, hid.symm, ?_, hs.directory_eq he,
          fun k moment hlt => ?_⟩
        · rw [hid]
          exact Except.ok.inj hroles
        · exact get?_of_saved hsaved hs hm.minted fun n hn => hlt n (hmem hn)
    · cases h

/-- A login that nothing is in the way of has come to its pair, or asks on. -/
theorem signedIn_of_logIn {rest : Action TokenPair} (hpos : ∀ k, 0 < v.issuer.ttl k)
    (hr : (v.logIn email password).Reaches tr rest) (hs : tr.Solitary w) (hun : Unimpeded v tr) :
    (∃ m, rest = .done (.ok (m.pair v.issuer)) ∧ SignedIn v w u m tr) ∨
      tr.length < 8 ∧ rest.offer? false ≠ none := by
  obtain ⟨hend, -⟩ := hr.along along_logIn_sparing (Trace.all_true tr)
  have he : ∀ o ∈ tr, ¬o.question.Edits := fun _ ho => hr.asked along_logIn_sparing ho
  obtain ⟨out, rfl, h⟩ | ⟨q, hq, -⟩ := hend.over_or_asks
  · obtain ⟨m, rfl, hm⟩ := signedIn_of_loginEnds hu ha hp hpos hs hun he h
    exact .inl ⟨m, rfl, hm⟩
  · have hrest := (hr.within (within_logIn email password)).2
    have := (hrest.step hq).1
    exact .inr ⟨by omega, by simp [hq]⟩

end

/-! ## Being authorized -/

/-- What an authorization relies on, and how much it asks. -/
def authorizingTerms (m : Issuance) : Terms where
  rely := (readingTerms m).rely
  guarantee tr _ := tr.length < m.record.roles.length + 3

/-- The records of a login are there whenever an authorization that nothing is in the way of asks
for them. -/
theorem SignedIn.get?_before {tr' : Trace} (h : SignedIn v w u m tr) (hv : v.Configured s)
    (hs : tr'.Solitary (tr.world w)) (hw : tr'.Writeless)
    (ht : InTime v (m.pair v.issuer) tr tr') {o : Observation} (ho : o ∈ tr') (k : TokenKind) :
    o.before.get? (storeKey (m.session k)) = some (recordText (m.bound k)) := by
  have hle : (v.issuer.sessionTtl .access).nanos ≤ (v.issuer.sessionTtl k).nanos :=
    Nat.mul_le_mul_right _ (hv.access_ttl_le k)
  rw [World.get?, hs.before_store_eq hw ho]
  refine h.kept k _ fun n hn hq => ?_
  have := ht.kept o ho n hn hq
  omega

/-- An authorization that nothing is in the way of returns the user, if a role of the user grants
the permission. -/
theorem SignedIn.returning {permission : String} {tr' : Trace} {rest : Action Principal}
    {role : Uuid} (h : SignedIn v w u m tr) (hv : v.Configured s)
    (hrole : w.directory.Holds u.id role) (hg : w.directory.Grants role permission)
    (hr : (v.authorize (m.token v.issuer .access).text permission).Reaches tr' rest)
    (hs : tr'.Solitary (tr.world w)) (ht : InTime v (m.pair v.issuer) tr tr') :
    Returning ((w.directory.rolesOf u.id).length + 3) tr' rest
      (· = ⟨u.id, m.session .access⟩) := by
  have hlooks : ∀ o ∈ tr', o.question.Looks := fun _ ho =>
    hr.asked (along_authorize_free (T := asking) (fun _ _ hq => hq) _ _) ho
  have hdir : ∀ o ∈ tr', o.before.directory = w.directory := fun o ho =>
    (hs.before_directory_eq (fun o ho => (hlooks o ho).not_edits) ho).trans h.directory
  have hget : ∀ o ∈ tr', ∀ k, o.before.get? (storeKey (m.session k)) =
      some (recordText (m.bound k)) := fun _ ho k =>
    h.get?_before hv hs (fun o ho => (hlooks o ho).not_writes) ht ho k
  have hall : tr'.All (authorizingTerms m).rely := .of_forall fun o older ho => by
    have hmem : o ∈ tr' := ho.subset List.mem_cons_self
    exact ⟨hs.truthful hmem, fun k text hg => Option.some.inj (hg.symm.trans (hget o hmem k))⟩
  have halong : (v.authorize (m.token v.issuer .access).text permission).Along
      (authorizingTerms m) (Verdict v m permission) [] :=
    along_authorize_of (fun _ _ hr => hr) (hv.key_eq .access) h.minted.fits fun newer q hn _ => by
      simpa [authorizingTerms] using hn
  obtain ⟨out, rfl, hverdict⟩ | ⟨q, hq, hlen⟩ := (hr.along halong hall).1.over_or_asks
  · left
    cases hverdict with
    | hindered hno =>
      exact absurd ⟨ht.works, ht.timely, fun o ho _ _ => ⟨_, hget o ho .access⟩⟩ hno
    | granted => exact ⟨_, rfl, by rw [h.subject]⟩
    | denied hasked hnone =>
      -- the role that grants was asked about, and the directory has not changed
      obtain ⟨ref, href, rfl⟩ := Directory.exists_mem_rolesOf_iff.2 hrole
      obtain ⟨o, ho, hl⟩ := hasked ref (h.roles ▸ href)
      exact absurd ⟨o, ho, hl, hdir o ho ▸ hg⟩ (hnone ref.id)
  · exact .inr ⟨h.roles ▸ hlen, by simp [hq]⟩

theorem signsIn_of_administrator (hv : v.Configured s) (hu : w.directory.byEmail email = some u)
    (ha : u.active = true) (hp : v.checkPassword password u = .ok true)
    (hadmin : w.directory.Administrator u.id) : SignsIn v w email password u.id := by
  intro tr rest hr hs hun
  obtain ⟨role, hrole, hgrants⟩ := hadmin
  refine (signedIn_of_logIn hu ha hp hv.ttl_pos hr hs hun).imp_left fun ⟨m, hrest, hm⟩ => ?_
  exact ⟨_, hrest, fun permission hperm tr' rest' hr' hs' ht =>
    hm.returning hv hrole (hgrants permission hperm) hr' hs' ht⟩

/-! ## Administrators that were seeded -/

/-- A user who was made for an account is known by its password. -/
theorem checkPassword_of_madeFor {account : AdminAccount}
    (h : Seeding.MadeFor v.hasher account u) : v.checkPassword account.password u = .ok true := by
  obtain ⟨salt, hsalt⟩ := h.password
  have hlen : minSaltLength ≤ salt.toList.length := by
    rw [Vector.length_toList]
    decide
  rw [Services.checkPassword, hsalt, PasswordHasher.verify_hashWith hlen]
  rfl

/-- The administrator that seeding reports can sign in, whatever the letters of the address, and is
authorized for the whole catalog: one who was made with the password of the account, and one who was
there before, and is unchanged, with every password that its hash is found to be of, if active. -/
theorem seeded_administrator_signs_in {account : AdminAccount} {report : Seeding.Report}
    (hv : v.Configured s) (hd : w.directory.Reached) (hu : w.directory.Unique)
    (hw : ∀ id, w.directory.Knows id → id ∈ w.drawn)
    (ha : ∀ r ∈ w.directory.roles, r.name = Catalog.adminRole → r.active = true)
    (hr : (Seeding.seed v.hasher (some account)).Reaches tr (.done (.ok report)))
    (hs : tr.Solitary w) :
    (∀ id, report.admin = some (.created id) →
      ∀ email, Ascii.equalFold account.email email = true →
        SignsIn v (tr.world w) email account.password id) ∧
    ∀ id, report.admin = some (.existing id) →
      ∃ u, u.id = id ∧ w.directory.byEmail account.email = some u ∧
        (tr.world w).directory.byEmail account.email = some u ∧
        ∀ email password, u.active = true → Ascii.equalFold account.email email = true →
          v.checkPassword password u = .ok true → SignsIn v (tr.world w) email password id := by
  obtain ⟨outcome, hout, hp⟩ := Seeding.promoted_of_seed ⟨⟨hd.sound, hu, hw⟩, ha⟩ hr hs
  cases hp with
  | @created u hm hu ha =>
    refine ⟨fun id hid email he => ?_, fun id hid => ?_⟩
    · cases hout.symm.trans hid
      exact signsIn_of_administrator hv ((Directory.byEmail_congr he).trans hu) hm.active
        (checkPassword_of_madeFor hm) ha
    · cases hout.symm.trans hid
  | @existing u h₀ hu ha =>
    refine ⟨fun id hid => ?_, fun id hid => ?_⟩
    · cases hout.symm.trans hid
    · cases hout.symm.trans hid
      exact ⟨u, rfl, h₀, hu, fun email password hact he hp =>
        signsIn_of_administrator hv ((Directory.byEmail_congr he).trans hu) hact hp ha⟩

/-! ## Small administrators -/

/-- What seeding reports of the administrator and the roles that it has then, if it can then log in,
and the expiry of its access token. -/
def administering (w : World) (rs : List (Bool × Reaction)) :
    Option (Option Seeding.AdminOutcome × List RoleRef × Instant) :=
  match Seeding.smallSeeding w "secret" rs with
  | some (tr, .done (.ok report)) =>
    let w := tr.world w
    match play w (smallReactions .works .works)
        ([], smallServices.logIn "ROOT@example.com" "secret") with
    | some (_, .done (.ok pair)) =>
      some (report.admin, (report.admin.map fun o => w.directory.rolesOf o.user).getD [],
        pair.access.expiresAt)
    | _ => none
  | _ => none

theorem exists_of_administering {rs : List (Bool × Reaction)} {outcome : Seeding.AdminOutcome}
    {roles : List RoleRef} {expiry : Instant}
    (h : administering w rs = some (some outcome, roles, expiry)) :
    ∃ tr report tr₁ pair,
      Seeding.smallSeeding w "secret" rs = some (tr, .done (.ok report)) ∧
      report.admin = some outcome ∧ (tr.world w).directory.rolesOf outcome.user = roles ∧
      play (tr.world w) (smallReactions .works .works)
        ([], smallServices.logIn "ROOT@example.com" "secret") = some (tr₁, .done (.ok pair)) ∧
      pair.access.expiresAt = expiry := by
  unfold administering at h
  split at h
  · rename_i tr report hseed
    dsimp only at h
    split at h
    · rename_i tr₁ pair hlogin
      obtain ⟨hadmin, hroles, hexp⟩ := by simpa using h
      rw [hadmin] at hroles
      exact ⟨tr, report, tr₁, pair, hseed, hadmin, hroles, hlogin, hexp⟩
    · cases h
  · cases h

theorem unimpeded_of_small {x y : Action TokenPair}
    (h : play w (smallReactions .works .works) ([], x) = some (tr, y)) :
    Unimpeded smallServices tr := by
  refine ⟨fun o ho => works_of_play h (by simp [smallReactions]) ho, fun k => ?_,
    fun o ho t ht k => ?_⟩
  · cases k <;> decide
  · obtain ⟨second, hr⟩ := shows_of_play h ho ht
    obtain ⟨-, rfl⟩ := by simpa [smallReactions] using hr
    cases k <;> decide

/-- The reactions to an authorization half a minute before the token expires. -/
def smallLooks : List (Bool × Reaction) :=
  [(false, .shows ⟨1030, 0⟩), (false, .works), (false, .works), (false, .works)]

theorem inTime_of_small {pair : TokenPair} {x : Action TokenPair} {y z : Action Principal}
    {tr₂ : Trace} (he : pair.access.expiresAt = ⟨1060, 0⟩)
    (h₁ : play w (smallReactions .works .works) ([], v.logIn email password) = some (tr, x))
    (h₂ : play (tr.world w) smallLooks ([], y) = some (tr₂, z)) :
    InTime smallServices pair tr tr₂ := by
  refine ⟨fun o ho => works_of_play h₂ (by simp [smallLooks]) ho, fun o ho now hn => ?_,
    fun o ho i hi _ => ?_⟩
  · obtain ⟨second, hr⟩ := shows_of_play h₂ ho hn
    obtain ⟨-, rfl⟩ := by simpa [smallLooks] using hr
    rw [he]
    exact ⟨by decide, by decide⟩
  · rw [moment_of_play h₂ ho, moment_of_play h₁ hi,
      Trace.Alone.moment_eq (reaches_of_play h₁ .start trivial).2]
    exact Nat.lt_add_of_pos_right (by decide)

/-- A user with one role who has logged in is authorized for what the role grants. -/
theorem exists_small_authorization {x y : Action TokenPair} {role : RoleRef} {permission : String}
    (h : play w (smallReactions .works .works) ([], x) = some (tr, y))
    (hm : SignedIn smallServices w u m tr) (he : m.expiresAt .access = ⟨1060, 0⟩)
    (hr : w.directory.rolesOf u.id = [role]) (hg : w.directory.Grants role.id permission) :
    ∃ tr₂ p, play (tr.world w) smallLooks ([], smallServices.authorize
      (m.token smallServices.issuer .access).text permission) = some (tr₂, .done (.ok p)) := by
  have hverify : smallServices.verifier.verify .access ⟨1030, 0⟩
      (m.token smallServices.issuer .access).text = .ok (m.claims .access) := by
    refine verify_of_timely rfl hm.minted.fits ?_
    rw [he]
    exact ⟨by decide, by decide⟩
  have hkept : (tr.world w).get? (storeKey (m.session .access)) =
      some (recordText (m.bound .access)) := hm.kept .access _ fun i hi _ => by
    rw [moment_of_play h hi, Trace.Alone.moment_eq (reaches_of_play h .start trivial).2]
    exact Nat.lt_add_of_pos_right (by decide)
  have hgrants : (tr.world w).directory.Grants role.id permission := hm.directory.symm ▸ hg
  obtain ⟨tr₂, h₂, -⟩ := exists_play_authorize hverify hkept (hm.roles.trans hr) hgrants
  exact ⟨tr₂, _, h₂⟩

theorem emptyWorld_ready : Seeding.Ready Seeding.emptyWorld where
  sound := Directory.Reached.empty.sound
  unique := ⟨.nil, .nil, .nil⟩
  drawn := by simp [Seeding.emptyWorld, Directory.Knows, Directory.empty]
  active := by simp [Seeding.emptyWorld, Directory.empty]

/-- An administrator is made in an empty world, logs in and is authorized. -/
theorem exists_small_administrator : ∃ id tr report tr₁ pair tr₂ p,
    Seeding.smallSeeding Seeding.emptyWorld "secret" (Seeding.makingReactions 1) =
      some (tr, .done (.ok report)) ∧ report.admin = some (.created id) ∧
    play (tr.world Seeding.emptyWorld) (smallReactions .works .works)
      ([], smallServices.logIn "ROOT@example.com" "secret") = some (tr₁, .done (.ok pair)) ∧
    pair.access.expiresAt = ⟨1060, 0⟩ ∧
    play (tr₁.world (tr.world Seeding.emptyWorld)) smallLooks
      ([], smallServices.authorize pair.access.text "Delete-User") =
        some (tr₂, .done (.ok p)) := by
  obtain ⟨id, role, h⟩ : ∃ id role,
      administering Seeding.emptyWorld (Seeding.makingReactions 1) =
        some (some (.created id), [role], ⟨1060, 0⟩) :=
    ⟨.ofNat (102 <<< 116), ⟨.ofNat (21 <<< 116), "Admin"⟩, by decide +kernel⟩
  obtain ⟨tr, report, tr₁, pair, h₀, hadmin, hroles, h₁, he⟩ := exists_of_administering h
  obtain ⟨hr, ha⟩ := reaches_of_play h₀ .start trivial
  obtain ⟨hr₁, ha₁⟩ := reaches_of_play h₁ .start trivial
  obtain ⟨outcome, hout, hp⟩ := Seeding.promoted_of_seed emptyWorld_ready hr ha.solitary
  cases hp with
  | existing => cases hout.symm.trans hadmin
  | @created u hmade hu hadministrator =>
    cases hout.symm.trans hadmin
    have hfold : Ascii.equalFold "root@example.com" "ROOT@example.com" = true := by decide
    obtain ⟨m, hpair, hm⟩ | ⟨-, hno⟩ := signedIn_of_logIn ((Directory.byEmail_congr hfold).trans hu)
      hmade.active (checkPassword_of_madeFor (v := smallServices) hmade)
      smallServices_configured.ttl_pos hr₁ ha₁.solitary (unimpeded_of_small h₁)
    · cases hpair
      obtain ⟨_, hheld, hgrants⟩ := hadministrator
      obtain ⟨ref, href, rfl⟩ := Directory.exists_mem_rolesOf_iff.2 hheld
      obtain rfl := List.mem_singleton.1 (hroles ▸ href)
      obtain ⟨tr₂, p, h₂⟩ := exists_small_authorization h₁ hm he hroles
        (hgrants "Delete-User" (by decide))
      exact ⟨_, tr, report, tr₁, _, tr₂, p, h₀, hadmin, h₁, he, h₂⟩
    · exact absurd rfl hno

/-- A user without a role. -/
def smallUser : User :=
  ⟨.ofNat 1, "Ada", "root@example.com", true, Base64.encode Base64.standard (List.replicate 16 0),
    Base64.encode Base64.standard (List.replicate 32 0), ⟨0, 0⟩, ⟨0, 0⟩⟩

/-- A world with this user. -/
def smallUserWorld : World :=
  ⟨⟨0, 0⟩, 0, .empty, Directory.empty.edit (.insertUser smallUser), [smallUser.id]⟩

/-- The administrator who is made in an empty world signs in, and so does one who was there
before. -/
theorem small_administrators_sign_in :
    (∃ (id : Uuid) (tr tr₁ tr₂ : Trace) (report : Seeding.Report) (pair : TokenPair),
      (Seeding.seed smallServices.hasher (some (Seeding.smallAccount "secret"))).Reaches tr
        (.done (.ok report)) ∧ tr.Alone Seeding.emptyWorld ∧
      report.admin = some (.created id) ∧
      (smallServices.logIn "ROOT@example.com" "secret").Reaches tr₁ (.done (.ok pair)) ∧
      tr₁.Alone (tr.world Seeding.emptyWorld) ∧
      (smallServices.authorize pair.access.text "Delete-User").Reaches tr₂
        (.done (.ok ⟨id, pair.access.session⟩)) ∧
      tr₂.Alone (tr₁.world (tr.world Seeding.emptyWorld))) ∧
    ∃ (tr : Trace) (report : Seeding.Report),
      (Seeding.seed smallServices.hasher (some (Seeding.smallAccount "secret"))).Reaches tr
        (.done (.ok report)) ∧ tr.Alone smallUserWorld ∧
      report.admin = some (.existing smallUser.id) ∧
      SignsIn smallServices (tr.world smallUserWorld) "ROOT@example.com" "other" smallUser.id := by
  have hfold : Ascii.equalFold "root@example.com" "ROOT@example.com" = true := by decide
  constructor
  · obtain ⟨id, tr, report, tr₁, pair, tr₂, p, h₀, hadmin, h₁, he, h₂⟩ :=
      exists_small_administrator
    obtain ⟨hr, ha⟩ := reaches_of_play h₀ .start trivial
    obtain ⟨hr₁, ha₁⟩ := reaches_of_play h₁ .start trivial
    obtain ⟨hr₂, ha₂⟩ := reaches_of_play h₂ .start trivial
    obtain ⟨hcreated, -⟩ := seeded_administrator_signs_in smallServices_configured .empty
      emptyWorld_ready.unique emptyWorld_ready.drawn emptyWorld_ready.active hr ha.solitary
    obtain ⟨_, hp, hauth⟩ | ⟨-, hno⟩ :=
      hcreated id hadmin _ hfold tr₁ _ hr₁ ha₁.solitary (unimpeded_of_small h₁)
    · cases hp
      obtain ⟨_, hp, rfl⟩ | ⟨-, hno⟩ :=
        hauth "Delete-User" (by decide) tr₂ _ hr₂ ha₂.solitary (inTime_of_small he h₁ h₂)
      · cases hp
        exact ⟨id, tr, tr₁, tr₂, report, _, hr, ha, hadmin, hr₁, ha₁, hr₂, ha₂⟩
      · exact absurd rfl hno
    · exact absurd rfl hno
  · obtain ⟨role, h⟩ : ∃ role, administering smallUserWorld (Seeding.findingReactions 1) =
        some (some (.existing smallUser.id), [role], ⟨1060, 0⟩) :=
      ⟨⟨.ofNat (21 <<< 116), "Admin"⟩, by decide +kernel⟩
    obtain ⟨tr, report, -, -, h₀, hadmin, -⟩ := exists_of_administering h
    obtain ⟨hr, ha⟩ := reaches_of_play h₀ .start trivial
    obtain ⟨-, hexisting⟩ := seeded_administrator_signs_in (w := smallUserWorld)
      smallServices_configured (Directory.Reached.empty.edit (.insertUser smallUser))
      ⟨List.nodup_singleton _, .nil, .nil⟩
      (by simp [Directory.Knows, smallUserWorld, Directory.edit, Directory.empty,
        Directory.insertUser, Directory.replaceOrAdd])
      (fun _ hr => nomatch hr) hr ha.solitary
    obtain ⟨u, -, hu, -, hsigns⟩ := hexisting _ hadmin
    have hsmall : smallUserWorld.directory.byEmail "root@example.com" = some smallUser := by
      decide +kernel
    cases hsmall.symm.trans hu
    exact ⟨tr, report, hr, ha, hadmin, hsigns _ _ rfl hfold rfl⟩

end Gatehouse.Session
