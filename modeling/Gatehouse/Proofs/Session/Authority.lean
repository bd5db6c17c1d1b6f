import Gatehouse.Proofs.Directory.Roles
import Gatehouse.Proofs.Session.Workload
import Gatehouse.Proofs.Token.Acceptance

/-!
# Who is authorized

`Services.authorize` with the access token of an issuance gives exactly the principal of the token,
if the session is live and one of the roles that the user held when they were resolved grants the
permission when it is looked up (`authorize_iff_role_grants`). This is about any reachable state, so
directory edits, other requests and the passing of time may come between the questions.
-/

namespace Gatehouse

open Gatehouse.Action Time

namespace Session

/-- Whether the record of a session is live in a world. -/
def LiveIn (w : World) (s : Uuid) : Prop := ∃ text, w.get? (storeKey s) = some text

variable {v : Services} {i : TokenIssuer} {m : Issuance} {tr : Trace} {permission : String}

/-! ## The token -/

theorem Fits.fitsWord (h : Fits i m) (k : TokenKind) :
    FitsWord (m.claims k).issuedAt ∧ FitsWord (m.claims k).expiresAt :=
  fitsWord_of_addSeconds? (h.lifetime k) (h.expiry k)

/-- Whether a reading of the clock is within the lifetime of a token, the leeway included. -/
def Timely (leeway : Nat) (expiry now : Instant) : Prop :=
  (leeway : Int) ≤ now.seconds ∧ now.seconds - leeway ≤ expiry.seconds

/-- A token is read back as its claims whenever the clock is within its lifetime. -/
theorem verify_of_timely {k : TokenKind} (hkey : v.verifier.key k = v.issuer.key k)
    (hf : Fits v.issuer m) {now : Instant} (ht : Timely v.verifier.leeway (m.expiresAt k) now) :
    v.verifier.verify k now (m.token v.issuer k).text = .ok (m.claims k) := by
  obtain ⟨hi, he⟩ := hf.fitsWord k
  exact TokenVerifier.verify_encode_of_le (c := m.claims k) hkey hi he ht.1 ht.2

/-- Whatever a token is accepted as, it is accepted as its claims. -/
theorem claims_of_verify {k : TokenKind} (hkey : v.verifier.key k = v.issuer.key k)
    (hf : Fits v.issuer m) {now : Instant} {c : Claims}
    (h : v.verifier.verify k now (m.token v.issuer k).text = .ok c) : c = m.claims k := by
  obtain ⟨hi, he⟩ := hf.fitsWord k
  exact TokenVerifier.eq_of_verify_encode (c := m.claims k) hkey hi he h

/-- Whether a token is accepted as one of a session only. -/
def Bears (v : Services) (k : TokenKind) (token : String) (s : Uuid) : Prop :=
  ∀ now c, v.verifier.verify k now token = .ok c → c.session = s

theorem bears_token {k : TokenKind} (hkey : v.verifier.key k = v.issuer.key k)
    (hf : Fits v.issuer m) : Bears v k (m.token v.issuer k).text (m.session k) := by
  intro now c h
  rw [claims_of_verify hkey hf h]
  rfl

/-- A token that was accepted once is always accepted as one of the same session. -/
theorem bears_of_verify {k : TokenKind} {now : Instant} {token : String} {c : Claims}
    (h : v.verifier.verify k now token = .ok c) : Bears v k token c.session := by
  intro now' c' h'
  have hc := (TokenVerifier.read?_of_verify h').symm.trans (TokenVerifier.read?_of_verify h)
  rw [Option.some.inj hc]

/-! ## The roles -/

/-- Whether an observation looks up the permissions of a role. -/
def LooksUp (o : Observation) (role : Uuid) : Prop :=
  o.question = .directory (.permissionsOf role)

/-- Whether a role grants the permission when it is looked up. -/
def FoundGranting (permission : String) (tr : Trace) (role : Uuid) : Prop :=
  ∃ o ∈ tr, LooksUp o role ∧ o.before.directory.Grants role permission

/-- What the check of a list of roles has observed and found. -/
def Checked (permission : String) (roles : List RoleRef) (newer : Trace) : Outcome Bool → Prop
  | .finished (.ok true) => ∃ role ∈ roles, FoundGranting permission newer role.id
  | .finished (.ok false) =>
    (∀ role ∈ roles, ∃ o ∈ newer, LooksUp o role.id) ∧ ∀ role, ¬FoundGranting permission newer role
  | .finished (.error _) => ∃ o ∈ newer, o.Fails
  | .crashed => False

theorem Checked.cons {role : RoleRef} {roles : List RoleRef} {newer : Trace} {o : Observation}
    {out : Outcome Bool} (h : Checked permission roles newer out) (hl : LooksUp o role.id)
    (hno : ¬o.before.directory.Grants role.id permission) :
    Checked permission (role :: roles) (newer ++ [o]) out := by
  have left : ∀ {x}, x ∈ newer → x ∈ newer ++ [o] := fun hx => List.mem_append_left _ hx
  have right : o ∈ newer ++ [o] := List.mem_append_right _ List.mem_cons_self
  rcases out with (e | _ | _) | _
  · obtain ⟨x, hx, hf⟩ := h
    exact ⟨x, left hx, hf⟩
  · refine ⟨fun r hr => ?_, fun r hr => ?_⟩
    · rcases List.mem_cons.1 hr with rfl | hr
      · exact ⟨o, right, hl⟩
      · obtain ⟨x, hx, hlx⟩ := h.1 r hr
        exact ⟨x, left hx, hlx⟩
    · obtain ⟨x, hx, hlx, hgx⟩ := hr
      rcases List.mem_append.1 hx with hx | hx
      · exact h.2 r ⟨x, hx, hlx, hgx⟩
      · cases List.mem_singleton.1 hx
        have he : r = role.id := by simpa [LooksUp] using hlx.symm.trans hl
        exact hno (he ▸ hgx)
  · obtain ⟨r, hr, x, hx, hg⟩ := h
    exact ⟨r, List.mem_cons_of_mem _ hr, x, left hx, hg⟩
  · exact h

/-- Whether an action may ask so many more questions that only look. -/
def MayLook (T : Terms) (n : Nat) (tr : Trace) : Prop :=
  ∀ newer q, newer.length < n → q.Looks → T.guarantee (newer ++ tr) q

theorem MayLook.ask {T : Terms} {n : Nat} {q : Question} (h : MayLook T (n + 1) tr)
    (hq : q.Looks) : T.guarantee tr q :=
  h [] q (Nat.succ_pos n) hq

theorem MayLook.next {T : Terms} {n : Nat} (h : MayLook T (n + 1) tr) (o : Observation) :
    MayLook T n (o :: tr) := fun newer q hn hq => by
  have hg := h (newer ++ [o]) q (by simpa using hn) hq
  rwa [List.append_assoc] at hg

theorem along_isGrantedBy {T : Terms} {roles : List RoleRef} (hg : MayLook T roles.length tr)
    (hr : ∀ tr o, T.rely tr o → o.Truthful) :
    (isGrantedBy permission roles).Along T
      (fun tr' out => ∃ newer, tr' = newer ++ tr ∧ Checked permission roles newer out) tr := by
  induction roles generalizing tr with
  | nil =>
    refine ⟨[], rfl, by simp, fun role h => ?_⟩
    obtain ⟨o, ho, -⟩ := h
    cases ho
  | cons role roles ih =>
    refine along_bind.2 ⟨hg.ask trivial, fun b how x a ho => ?_⟩
    have hl : LooksUp ⟨b, .directory (.permissionsOf role.id), how, x, a⟩ role.id := rfl
    obtain rfl | ⟨⟨e, rfl⟩, hf⟩ := (hr _ _ ho).permissionsOf
    · show Action.Along _ _ (if (b.directory.permissionsOf role.id).any
        (fun p => p.name == permission) then _ else _) _
      split
      · rename_i hany
        refine ⟨[_], rfl, role, List.mem_cons_self, _, List.mem_singleton_self _, hl, ?_⟩
        exact Directory.any_permissionsOf_iff.1 hany
      · rename_i hany
        have hno : ¬b.directory.Grants role.id permission :=
          fun h => hany (Directory.any_permissionsOf_iff.2 h)
        refine (ih (hg.next _)).mono fun tr' out h => ?_
        obtain ⟨newer, he, hc⟩ := h
        exact ⟨newer ++ [_], by simp [he], hc.cons hl hno⟩
    · exact ⟨[_], rfl, _, List.mem_singleton_self _, hf⟩

/-! ## The whole check -/

/-- Whether nothing is in the way of an authorization: no call fails, the token has not expired, and
its session is live whenever the store is asked. -/
structure Unhindered (v : Services) (m : Issuance) (tr : Trace) : Prop where
  works : ∀ o ∈ tr, ¬o.Fails
  timely : ∀ o ∈ tr, ∀ now, o.Saw .now now → Timely v.verifier.leeway (m.expiresAt .access) now
  live : ∀ o ∈ tr, ∀ call, o.question = .store call → LiveIn o.before (m.session .access)

/-- How the authorization with the access token of an issuance can go. -/
inductive Verdict (v : Services) (m : Issuance) (permission : String) :
    Trace → Outcome Principal → Prop where
  | hindered {tr : Trace} {e : Failure} (h : ¬Unhindered v m tr) :
      Verdict v m permission tr (.finished (.error e))
  | granted {tr : Trace} {o o' : Observation} {role : RoleRef} (ho : o ∈ tr)
      (hq : o.question = .store (.isPresent (storeKey (m.session .access))))
      (hl : LiveIn o.before (m.session .access)) (ho' : o' ∈ tr)
      (hq' : o'.question = .store (.get (storeKey (m.session .access))))
      (hl' : LiveIn o'.before (m.session .access)) (hr : role ∈ m.record.roles)
      (h : FoundGranting permission tr role.id) :
      Verdict v m permission tr (.finished (.ok ⟨m.record.subject, m.session .access⟩))
  | denied {tr : Trace} (ha : ∀ role ∈ m.record.roles, ∃ o ∈ tr, LooksUp o role.id)
      (hn : ∀ role, ¬FoundGranting permission tr role) :
      Verdict v m permission tr (.finished (.error (lacksPermission permission)))

/-- What reading relies on: the store keeps for a session of the issuance what was made for it. -/
def readingTerms (m : Issuance) : Terms where
  rely _ o := o.Truthful ∧ ∀ k text, o.before.get? (storeKey (m.session k)) = some text →
    text = recordText (m.bound k)
  guarantee _ _ := True

/-- What is loaded under the session of the token. -/
theorem loaded_of_rely {b a : World} {how : Reaction} {x : Except Failure (Option String)}
    {k : TokenKind}
    (h : (readingTerms m).rely tr ⟨b, .store (.get (storeKey (m.session k))), how, x, a⟩) :
    (loaded x = .ok (some (m.bound k)) ∧ LiveIn b (m.session k)) ∨
      (loaded x = .ok none ∧ ¬LiveIn b (m.session k)) ∨ (∃ e, loaded x = .error e) ∧
        Observation.Fails ⟨b, .store (.get (storeKey (m.session k))), how, x, a⟩ := by
  obtain rfl | ⟨⟨e, rfl⟩, hf⟩ := h.1.get
  · cases hg : b.get? (storeKey (m.session k)) with
    | none =>
      refine .inr (.inl ⟨rfl, fun ⟨text, ht⟩ => ?_⟩)
      rw [hg] at ht
      cases ht
    | some text =>
      obtain rfl := h.2 k text hg
      refine .inl ⟨?_, _, hg⟩
      simp only [loaded, readRecord?_recordText]
  · exact .inr (.inr ⟨⟨e, rfl⟩, hf⟩)

/-- What the check of the roles amounts to, after a trace that found the session live twice and
looked up nothing. -/
theorem Checked.verdict {newer older : Trace} {o o' : Observation} {out : Outcome Bool}
    (h : Checked permission m.record.roles newer out) (ho : o ∈ older)
    (hq : o.question = .store (.isPresent (storeKey (m.session .access))))
    (hl : LiveIn o.before (m.session .access)) (ho' : o' ∈ older)
    (hq' : o'.question = .store (.get (storeKey (m.session .access))))
    (hl' : LiveIn o'.before (m.session .access)) (hn : ∀ x ∈ older, ∀ role, ¬LooksUp x role) :
    match out with
    | .finished (.error e) => Verdict v m permission (newer ++ older) (.finished (.error e))
    | .finished (.ok true) => Verdict v m permission (newer ++ older)
        (.finished (.ok ⟨m.record.subject, m.session .access⟩))
    | .finished (.ok false) => Verdict v m permission (newer ++ older)
        (.finished (.error (lacksPermission permission)))
    | .crashed => False := by
  have left : ∀ {x}, x ∈ newer → x ∈ newer ++ older := fun hx => List.mem_append_left _ hx
  have right : ∀ {x}, x ∈ older → x ∈ newer ++ older := fun hx => List.mem_append_right _ hx
  rcases out with (e | _ | _) | _
  · obtain ⟨x, hx, hf⟩ := h
    exact .hindered fun hu => hu.works x (left hx) hf
  · refine .denied (fun role hr => ?_) ?_
    · obtain ⟨x, hx, hlx⟩ := h.1 role hr
      exact ⟨x, left hx, hlx⟩
    · rintro role ⟨x, hx, hlx, hgx⟩
      rcases List.mem_append.1 hx with hx | hx
      · exact h.2 role ⟨x, hx, hlx, hgx⟩
      · exact hn x hx role hlx
  · obtain ⟨role, hr, x, hx, hlx⟩ := h
    exact .granted (right ho) hq hl (right ho') hq' hl' hr ⟨x, left hx, hlx⟩
  · exact h

section

variable {T : Terms} (hrely : ∀ tr o, T.rely tr o → (readingTerms m).rely tr o)
include hrely

theorem along_evaluate {older : Trace} {o : Observation}
    (hg : MayLook T (m.record.roles.length + 1) older) (ho : o ∈ older)
    (hq : o.question = .store (.isPresent (storeKey (m.session .access))))
    (hl : LiveIn o.before (m.session .access)) (hn : ∀ o ∈ older, ∀ role, ¬LooksUp o role) :
    (evaluate (m.session .access) permission).Along T (fun tr out => match out with
      | .finished r => Verdict v m permission tr
          (.finished (r.map fun subject => ⟨subject, m.session .access⟩))
      | .crashed => False) older := by
  refine along_bind.2 (along_bind.2 (along_mapFailure.2 (along_load.2
    ⟨hg.ask trivial, fun b how x a hr => ?_⟩)))
  have hl' := loaded_of_rely (hrely _ _ hr)
  have hq' : (⟨b, .store (.get (storeKey (m.session .access))), how, x, a⟩ : Observation).question =
    .store (.get (storeKey (m.session .access))) := rfl
  have hb : b = (⟨b, .store (.get (storeKey (m.session .access))), how, x, a⟩ :
    Observation).before := rfl
  generalize (⟨b, .store (.get (storeKey (m.session .access))), how, x, a⟩ : Observation) = o' at *
  subst hb
  have hn' : ∀ y ∈ o' :: older, ∀ role, ¬LooksUp y role := by
    intro y hy role hly
    rcases List.mem_cons.1 hy with rfl | hy
    · cases hq'.symm.trans hly
    · exact hn y hy role hly
  obtain ⟨hx, hlive⟩ | ⟨hx, hlive⟩ | ⟨⟨e, hx⟩, hfails⟩ := hl'
  · rw [hx]
    refine along_bind.2 ((along_isGrantedBy (hg.next _)
      fun _ _ h => (hrely _ _ h).1).mono fun tr' out h => ?_)
    obtain ⟨newer, rfl, hc⟩ := h
    have hv := hc.verdict (v := v) (List.mem_cons_of_mem _ ho) hq hl List.mem_cons_self hq' hlive
      hn'
    rcases out with (e | _ | _) | _ <;> exact hv
  · rw [hx]
    exact .hindered fun h => hlive (h.live o' List.mem_cons_self _ hq')
  · rw [hx]
    exact .hindered fun h => h.works o' List.mem_cons_self hfails

/-- How the authorization with the access token of an issuance goes. It asks three questions and
one for each role, at most. -/
theorem along_authorize_of (hkey : v.verifier.key .access = v.issuer.key .access)
    (hf : Fits v.issuer m) (hg : MayLook T (m.record.roles.length + 3) []) :
    (v.authorize (m.token v.issuer .access).text permission).Along T
      (Verdict v m permission) [] := by
  refine along_bind.2 (along_bind.2 (along_check.2 ⟨hg.ask trivial, fun b how now a _ => ?_⟩))
  have ho : (⟨b, .now, how, now, a⟩ : Observation).Saw .now now := ⟨b, how, a, rfl⟩
  generalize (⟨b, .now, how, now, a⟩ : Observation) = o at *
  cases hv : v.verifier.verify .access now (m.token v.issuer .access).text with
  | error e =>
    refine .hindered fun h => ?_
    rw [verify_of_timely hkey hf (h.timely o (by simp) now ho)] at hv
    cases hv
  | ok c =>
    obtain rfl := claims_of_verify hkey hf hv
    refine along_bind.2 ⟨(hg.next o).ask trivial, fun b₂ how₂ x₂ a₂ hr₂ => ?_⟩
    obtain rfl | ⟨⟨e, rfl⟩, hfails⟩ := (hrely _ _ hr₂).1.isPresent
    · cases htext : b₂.get? (storeKey (m.session .access)) with
      | none =>
        have hno : ¬LiveIn b₂ (m.session .access) := by
          rintro ⟨text, ht⟩
          cases htext.symm.trans ht
        rw [show (m.claims .access).session = m.session .access from rfl, htext]
        exact .hindered fun h => hno (h.live _ List.mem_cons_self _ rfl)
      | some text =>
        rw [show (m.claims .access).session = m.session .access from rfl, htext]
        refine along_bind.2 ((along_evaluate (v := v) hrely ((hg.next _).next _) List.mem_cons_self
          rfl ⟨text, htext⟩ ?_).mono fun tr out h => ?_)
        · simp [LooksUp, ho.question]
        · rcases out with (e | subject) | _
          · exact h
          · exact h
          · exact h.elim
    · exact .hindered fun h => h.works _ List.mem_cons_self hfails

end

theorem along_authorize (hkey : v.verifier.key .access = v.issuer.key .access)
    (hf : Fits v.issuer m) :
    (v.authorize (m.token v.issuer .access).text permission).Along (readingTerms m)
      (Verdict v m permission) [] :=
  along_authorize_of (fun _ _ h => h) hkey hf fun _ _ _ _ => trivial

/-! ## Checks that work -/

section

variable {β : Type} {w : World} {s : Uuid} {r : SessionRecord} {role : RoleRef}
  {roles : List RoleRef} {c : Claims} {token : String} {t : Instant}

theorem next?_isLive {f : Bool → Action β}
    (hg : (tr.world w).get? (storeKey s) = some (recordText r)) :
    next? w (tr, (isLive s).surfacing "Failed to check session" >>= f) (false, .works) =
      some (⟨tr.world w, .store (.isPresent (storeKey s)), .works, .ok true, tr.world w⟩ :: tr,
        f true) := by
  have ha : (tr.world w).answer? .works (.store (.isPresent (storeKey s))) =
      some (.ok true, tr.world w) := by
    show some (Except.ok ((tr.world w).get? (storeKey s)).isSome, tr.world w) = _
    rw [hg]
    rfl
  rw [next?_eq rfl ha]
  rfl

theorem next?_describe {f : SessionRecord → Action β}
    (hg : (tr.world w).get? (storeKey s) = some (recordText r)) :
    next? w (tr, describe s >>= f) (false, .works) =
      some (⟨tr.world w, .store (.get (storeKey s)), .works, .ok (some (recordText r)),
        tr.world w⟩ :: tr, f r) := by
  rw [describe, bind_assoc, load, next?_read hg (readRecord?_recordText r)]
  rfl

theorem next?_isGrantedBy {f : Bool → Action β}
    (hp : (((tr.world w).directory.permissionsOf role.id).any fun p => p.name == permission) =
      true) :
    next? w (tr, isGrantedBy permission (role :: roles) >>= f) (false, .works) =
      some (⟨tr.world w, .directory (.permissionsOf role.id), .works,
        .ok ((tr.world w).directory.permissionsOf role.id), tr.world w⟩ :: tr, f true) := by
  have ha : (tr.world w).answer? .works (.directory (.permissionsOf role.id)) =
      some (.ok ((tr.world w).directory.permissionsOf role.id), tr.world w) := rfl
  have hf : (if ((tr.world w).directory.permissionsOf role.id).any fun p => p.name == permission
      then pure true else isGrantedBy permission roles) >>= f = f true := by
    rw [if_pos hp]
    rfl
  rw [next?_eq rfl ha, ← hf]
  rfl

/-- A single role is asked whether it grants the permission. -/
theorem next?_isGrantedBy_single {f : Bool → Action β} :
    next? w (tr, isGrantedBy permission [role] >>= f) (false, .works) =
      some (⟨tr.world w, .directory (.permissionsOf role.id), .works,
        .ok ((tr.world w).directory.permissionsOf role.id), tr.world w⟩ :: tr,
        f (((tr.world w).directory.permissionsOf role.id).any fun p => p.name == permission)) := by
  have ha : (tr.world w).answer? .works (.directory (.permissionsOf role.id)) =
      some (.ok ((tr.world w).directory.permissionsOf role.id), tr.world w) := rfl
  rw [next?_eq rfl ha]
  show some (_, (if _ then pure true else isGrantedBy permission []) >>= f) = _
  cases ((tr.world w).directory.permissionsOf role.id).any fun p => p.name == permission <;> rfl

/-- An authorization whose token is accepted and whose record is there comes to its roles. -/
theorem exists_play_authorize_roles (permission : String)
    (hv : v.verifier.verify .access t token = .ok c)
    (hg : w.get? (storeKey c.session) = some (recordText r)) :
    ∃ tr, tr.world w = { w with clock := t } ∧ ∀ rs,
      play w ((false, .shows t) :: (false, .works) :: (false, .works) :: rs)
          ([], v.authorize token permission) =
        play w rs (tr, isGrantedBy permission r.roles >>= fun granted =>
          (if granted then pure r.subject else fail (lacksPermission permission)) >>= fun subject =>
            pure ⟨subject, c.session⟩) := by
  let w₁ : World := { w with clock := t }
  have hg₁ : ∀ {o : Observation} {tr : Trace}, o.after = w₁ →
      (Trace.world w (o :: tr)).get? (storeKey c.session) = some (recordText r) := by
    rintro o tr h
    show o.after.get? _ = _
    rw [h]
    exact hg
  refine ⟨[⟨w₁, .store (.get (storeKey c.session)), .works, .ok (some (recordText r)), w₁⟩,
    ⟨w₁, .store (.isPresent (storeKey c.session)), .works, .ok true, w₁⟩,
    ⟨w, .now, .shows t, t, w₁⟩], rfl, fun rs => ?_⟩
  rw [Services.authorize, Services.authenticate, bind_assoc, play, next?_check hv,
    Option.bind_some, play, bind_assoc, next?_isLive (hg₁ rfl), Option.bind_some, play]
  show (next? w (_, (evaluate c.session permission >>= fun subject =>
    pure ⟨subject, c.session⟩ : Action Principal)) _).bind _ = _
  rw [evaluate, bind_assoc, next?_describe (hg₁ rfl), Option.bind_some, bind_assoc]
  rfl

/-- A request whose first role grants the permission is authorized. -/
theorem exists_play_authorize (hv : v.verifier.verify .access t token = .ok c)
    (hg : w.get? (storeKey c.session) = some (recordText r)) (hr : r.roles = role :: roles)
    (hp : w.directory.Grants role.id permission) :
    ∃ tr, play w [(false, .shows t), (false, .works), (false, .works), (false, .works)]
      ([], v.authorize token permission) = some (tr, .done (.ok ⟨r.subject, c.session⟩)) ∧
        tr.world w = { w with clock := t } := by
  obtain ⟨tr, hw, h⟩ := exists_play_authorize_roles permission hv hg
  have hgrants : (((tr.world w).directory.permissionsOf role.id).any
      fun p => p.name == permission) = true := by
    rw [hw]
    exact Directory.any_permissionsOf_iff.2 hp
  rw [h, hr, play, next?_isGrantedBy hgrants]
  exact ⟨_, rfl, hw⟩

/-- A request whose only role does not grant the permission is refused. -/
theorem exists_play_forbidden (hv : v.verifier.verify .access t token = .ok c)
    (hg : w.get? (storeKey c.session) = some (recordText r)) (hr : r.roles = [role])
    (hno : ¬w.directory.Grants role.id permission) :
    ∃ tr, play w [(false, .shows t), (false, .works), (false, .works), (false, .works)]
      ([], v.authorize token permission) =
        some (tr, .done (.error (lacksPermission permission))) := by
  obtain ⟨tr, hw, h⟩ := exists_play_authorize_roles permission hv hg
  have hlacks : (((tr.world w).directory.permissionsOf role.id).any
      fun p => p.name == permission) = false := by
    rw [hw]
    exact Bool.eq_false_iff.2 fun h => hno (Directory.any_permissionsOf_iff.1 h)
  rw [h, hr, play, next?_isGrantedBy_single, hlacks]
  exact ⟨_, rfl⟩

end

/-! ## In any run -/

open RunState

variable {s : Settings.AuthSettings} {S : RunState (workload v)} {a b : Nat}
  {t : Thread (workload v)}

/-- The roles of an issuance are those that its user held when they were resolved. -/
theorem holds_iff (hS : S.Reachable) (ht : S.threads[a]? = some t)
    (hm : Minted v.issuer m t.trace) {role : Uuid} :
    m.resolved.Holds m.record.subject role ↔ ∃ ref ∈ m.record.roles, ref.id = role := by
  obtain ⟨newer, o, older, ho, -, hr⟩ := hm.observed
  obtain ⟨S₁, S₂, -, -, hobs, -⟩ := hS.observed ht ((List.suffix_append _ _).trans ho)
  have htruth := hobs.truthful
  have hdir := hr.directory
  obtain ⟨w, how, w', rfl⟩ := hr.roles
  obtain ⟨id, hx⟩ := htruth.directory_ok
  have hroles : m.record.roles = m.resolved.rolesOf m.record.subject := by
    rw [← hdir]
    exact (Except.ok.inj (congrArg Prod.fst hx)).symm
  rw [hroles, Directory.exists_mem_rolesOf_iff]

/-- What a request observes keeps to what reading relies on. -/
theorem rely_of_reachable (hS : S.Reachable) (ht : S.threads[a]? = some t)
    (hm : Minted v.issuer m t.trace) {u : Thread (workload v)} (hu : S.threads[b]? = some u) :
    u.trace.All (readingTerms m).rely := by
  refine .of_forall fun o older ho => ?_
  obtain ⟨S₁, S₂, -, -, hobs, -⟩ := hS.observed hu ho
  exact ⟨hobs.truthful, fun k text hg => text_eq_of_observed hS ht hm hu ho hg⟩

/-- A request with the access token of an issuance is authorized as the user of the token if its
session is live and a role that the user held when the roles of the pair were resolved grants the
permission when it is looked up; and only then, unless a call fails, the token has expired or the
session is over. Every access token that is handed out is the one of an issuance. -/
theorem authorize_iff_role_grants (hv : v.Configured s) (hS : S.Reachable)
    (ht : S.threads[a]? = some t) (hm : Minted v.issuer m t.trace) {out : Outcome Principal}
    (hu : S.threads[b]? =
      some ⟨.authorize (v.issuer.encode (m.claims .access)) permission, tr, out.action⟩) :
    (∀ p, out = .finished (.ok p) →
      p.session = (m.claims .access).session ∧ p.subject = (m.claims .access).subject ∧
      (∃ o ∈ tr, o.question = .store (.isPresent (storeKey p.session)) ∧
        LiveIn o.before p.session) ∧
      (∃ o ∈ tr, o.question = .store (.get (storeKey p.session)) ∧ LiveIn o.before p.session) ∧
      ∃ role, m.resolved.Holds p.subject role ∧ FoundGranting permission tr role) ∧
    (Unhindered v m tr →
      ((∃ role, m.resolved.Holds m.record.subject role ∧ FoundGranting permission tr role) →
        ∃ p, out = .finished (.ok p)) ∧
      ((¬∃ role, m.resolved.Holds m.record.subject role ∧ FoundGranting permission tr role) →
        out = .finished (.error (lacksPermission permission)) ∧
        ∀ role, m.resolved.Holds m.record.subject role → ∃ o ∈ tr, LooksUp o role)) ∧
    ∀ pair, Returned pair t → ∃ m', Minted v.issuer m' t.trace ∧
      (pair.token .access).text = v.issuer.encode (m'.claims .access) := by
  have hhanded : ∀ pair, Returned pair t → ∃ m', Minted v.issuer m' t.trace ∧
      (pair.token .access).text = v.issuer.encode (m'.claims .access) := by
    intro pair hp
    obtain ⟨m', hm', htoken⟩ := hp.exists_token hS ht
    exact ⟨m', hm', by rw [htoken, Issuance.token_text]⟩
  have hr := hS.reaches hu
  have hend := (hr.along (along_authorize (hv.key_eq .access) hm.fits)
    (rely_of_reachable hS ht hm hu)).1
  have hverdict : Verdict v m permission tr out := by
    rcases out with (e | p) | _ <;> exact hend
  cases hverdict with
  | hindered h =>
    refine ⟨fun p hp => ?_, fun h' => absurd h' h, hhanded⟩
    cases hp
  | @granted o o' role ho hq hl ho' hq' hl' hrole h =>
    have hholds : m.resolved.Holds m.record.subject role.id :=
      (holds_iff hS ht hm).2 ⟨role, hrole, rfl⟩
    refine ⟨fun p hp => ?_, fun _ => ⟨fun _ => ⟨_, rfl⟩, fun hno => ?_⟩, hhanded⟩
    · cases hp
      exact ⟨rfl, rfl, ⟨o, ho, hq, hl⟩, ⟨o', ho', hq', hl'⟩, role.id, hholds, h⟩
    · exact absurd ⟨role.id, hholds, h⟩ hno
  | denied hall hnone =>
    refine ⟨fun p hp => ?_, fun _ => ⟨fun ⟨role, _, h⟩ => absurd h (hnone role), fun _ =>
      ⟨rfl, fun role hrole => ?_⟩⟩, hhanded⟩
    · cases hp
    · obtain ⟨ref, href, rfl⟩ := (holds_iff hS ht hm).1 hrole
      exact hall ref href

/-- The user of the small world, whose role grants the permission, is authorized with the token that
was handed out. -/
theorem authorize_grants_small_user :
    ∃ (S : RunState (workload smallServices)) (t : Thread (workload smallServices))
      (pair : TokenPair) (m : Issuance) (tr : Trace) (p : Principal),
      S.Reachable ∧ S.threads[0]? = some t ∧ Returned pair t ∧
      Minted smallServices.issuer m t.trace ∧
      (pair.token .access).text = smallServices.issuer.encode (m.claims .access) ∧
      S.threads[1]? =
        some ⟨.authorize (pair.token .access).text "Delete-User", tr, .done (.ok p)⟩ ∧
      p.subject = m.record.subject ∧
      ∃ role, m.resolved.Holds p.subject role ∧ FoundGranting "Delete-User" tr role := by
  obtain ⟨tr₁, pair, h₁, hg, hd, he⟩ : ∃ tr₁ pair,
      smallLogIn smallServices (smallReactions .works .works) = some (tr₁, .done (.ok pair)) ∧
      (tr₁.world smallWorld).get? (storeKey (pair.token .access).session) =
        some (recordText ((SessionRecord.fresh (.ofNat 1) [⟨.ofNat 2, "Admin"⟩]).bind (.ofNat 5))) ∧
      (tr₁.world smallWorld).directory = smallDirectory ∧
      (pair.token .access).expiresAt = ⟨1060, 0⟩ := ⟨_, _, rfl, rfl, rfl, rfl⟩
  have hS₀ := smallState_reachable h₁
  obtain ⟨m, hm, rfl⟩ := Returned.logIn.minted hS₀ (a := 0) rfl
  rw [Issuance.pair_token] at hg he
  have he' : m.expiresAt .access = ⟨1060, 0⟩ := he
  have ht : Timely smallServices.verifier.leeway (m.expiresAt .access) ⟨1010, 0⟩ := by
    rw [he']
    exact ⟨by decide, by decide⟩
  have hv := verify_of_timely (v := smallServices) (k := .access) rfl hm.fits ht
  have hp : smallDirectory.Grants (.ofNat 2) "Delete-User" :=
    ⟨.ofNat 3, ⟨.ofNat 3, "Delete-User"⟩, List.mem_singleton_self _, rfl, rfl⟩
  obtain ⟨tr, p, h⟩ : ∃ tr p, play (tr₁.world smallWorld)
      [(false, .shows ⟨1010, 0⟩), (false, .works), (false, .works), (false, .works)]
      ([], smallServices.authorize (smallServices.issuer.encode (m.claims .access)) "Delete-User") =
        some (tr, .done (.ok p)) := by
    obtain ⟨tr, h, -⟩ := exists_play_authorize hv hg rfl (hd ▸ hp)
    exact ⟨tr, _, h⟩
  let S₀ := smallState smallServices tr₁ (.done (.ok (m.pair smallServices.issuer)))
  have htext : ((m.pair smallServices.issuer).token .access).text =
      smallServices.issuer.encode (m.claims .access) := by
    rw [Issuance.pair_token, Issuance.token_text]
  let r : Request := .authorize ((m.pair smallServices.issuer).token .access).text "Delete-User"
  let S : RunState (workload smallServices) :=
    ⟨tr.world S₀.world, S₀.threads ++ [⟨r, tr, .done (.ok p)⟩]⟩
  rw [← htext] at h
  have hS : S.Reachable :=
    hS₀.runs (Runs.played (W := workload smallServices) (S := S₀) (r := r) h)
  have hu : S.threads[1]? = some ⟨.authorize (smallServices.issuer.encode (m.claims .access))
      "Delete-User", tr, Outcome.action (.finished (.ok p))⟩ := by
    rw [← htext]
    rfl
  have hall := authorize_iff_role_grants smallServices_configured hS (a := 0) rfl hm hu
  obtain ⟨-, hsub, -, -, hrole⟩ := hall.1 p rfl
  exact ⟨S, _, _, m, tr, p, hS, rfl, .logIn, hm, htext, rfl, hsub, hrole⟩

end Session

end Gatehouse
