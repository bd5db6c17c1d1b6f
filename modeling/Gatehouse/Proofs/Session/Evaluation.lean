import Mathlib.Data.Nat.Find
import Gatehouse.Proofs.Session.Opening
import Gatehouse.Session.Access

/-!
# Which role decides

A permission is evaluated by looking up the roles of the record one after another, up to the first
lookup that decides: one that fails, or one that finds the permission (`Decides`). An action
`Yields` a result if, however far it has come, it has asked no other questions than these, in this
order, and ends with this result. `along_isGrantedBy_cons` is the step from one role to the next;
by induction over the roles follows what a list of roles comes to if one of them decides
(`along_isGrantedBy_decided`) and if none does (`along_isGrantedBy_undecided`).
-/

namespace Gatehouse

open Gatehouse.Action

/-- The questions of a trace, the oldest first. -/
def Trace.questions (tr : Trace) : List Question := (tr.map (·.question)).reverse

/-- Whether an action that is answered as given asks these questions, one after another, and ends
with this result. -/
def Action.Yields {α : Type} (a : Action α) (given : Trace → Observation → Prop)
    (asked : List Question) (result : Except Failure α) : Prop :=
  ∀ tr b, a.Reaches tr b → tr.All given →
    b = .done result ∧ tr.questions = asked ∨
      ∃ q, b.offer? false = some q ∧ tr.questions ++ [q.1] <+: asked

@[simp] theorem Trace.questions_cons (o : Observation) (tr : Trace) :
    Trace.questions (o :: tr) = tr.questions ++ [o.question] := by
  simp [Trace.questions]

/-- The terms of an action that asks these questions, one after another. -/
def inTurn (given : Trace → Observation → Prop) (asked : List Question) : Terms where
  rely := given
  guarantee tr q := tr.questions ++ [q] <+: asked

theorem Action.Yields.of_along {α : Type} {a : Action α} {given : Trace → Observation → Prop}
    {asked : List Question} {result : Except Failure α}
    (h : a.Along (inTurn given asked)
      (fun tr out => out = .finished result ∧ tr.questions = asked) []) :
    a.Yields given asked result := by
  intro tr b hr ht
  obtain ⟨out, rfl, rfl, hq⟩ | hasks := (hr.along h ht).1.over_or_asks
  · exact .inl ⟨rfl, hq⟩
  · exact .inr hasks

theorem Trace.length_questions (tr : Trace) : tr.questions.length = tr.length := by
  simp [Trace.questions]

/-- An action that yields a result comes to it, if every question can be answered as given. -/
theorem Action.Yields.exists_reaches {α : Type} {a : Action α} {given : Trace → Observation → Prop}
    {asked : List Question} {result : Except Failure α} (h : a.Yields given asked result)
    (hgiven : ∀ tr q, ∃ b how x after, given tr ⟨b, q, how, x, after⟩) :
    ∃ tr, a.Reaches tr (.done result) ∧ tr.All given ∧ tr.questions = asked := by
  suffices ∀ n tr b, a.Reaches tr b → tr.All given → asked.length - tr.length = n →
      ∃ tr, a.Reaches tr (.done result) ∧ tr.All given ∧ tr.questions = asked from
    this _ [] a .start trivial rfl
  intro n
  induction n with
  | zero =>
    intro tr b hr ht hn
    obtain ⟨rfl, hq⟩ | ⟨q, -, hpre⟩ := h tr b hr ht
    · exact ⟨tr, hr, ht, hq⟩
    · have hle := hpre.length_le
      rw [List.length_append, Trace.length_questions, List.length_singleton] at hle
      omega
  | succ n ih =>
    intro tr b hr ht hn
    obtain ⟨rfl, hq⟩ | ⟨⟨q, next⟩, ho, -⟩ := h tr b hr ht
    · exact ⟨tr, hr, ht, hq⟩
    · obtain ⟨b', how, x, after, hx⟩ := hgiven tr q
      refine ih _ _ (hr.step ho b' how x after) ⟨hx, ht⟩ ?_
      rw [List.length_cons]
      omega

namespace Session

variable {permission : String} {lookup : Nat → Uuid → Except Failure (List Permission)}
  {s : Uuid} {text : String}

/-- The question for the permissions of a role. -/
def lookUp (role : RoleRef) : Question := .directory (.permissionsOf role.id)

/-- How many permissions of roles were looked up. -/
def lookedUp (tr : Trace) : Nat :=
  tr.countP fun o => match o.question with
    | .directory (.permissionsOf _) => true
    | _ => false

/-- Whether the record of a session is read as a text, and each lookup is answered as listed for its
place among all lookups and for its role. -/
structure Answering (s : Uuid) (text : String)
    (lookup : Nat → Uuid → Except Failure (List Permission)) (older : Trace) (o : Observation) :
    Prop where
  record : ∀ x, o.Saw (.store (.get (storeKey s))) x → x = .ok (some text)
  permissions : ∀ role x, o.Saw (.directory (.permissionsOf role)) x →
    x = lookup (lookedUp older) role

/-- Every question can be answered like that. -/
theorem exists_answering (tr : Trace) (q : Question) :
    ∃ b how x a, Answering s text lookup tr ⟨b, q, how, x, a⟩ := by
  let w : World := ⟨⟨0, 0⟩, 0, .empty, .empty, []⟩
  suffices ∃ x : q.Answer, Answering s text lookup tr ⟨w, q, .works, x, w⟩ from
    ⟨w, .works, this.choose, w, this.choose_spec⟩
  by_cases hq : ∃ call, q = .store call ∧ call = .get (storeKey s)
  · obtain ⟨_, rfl, rfl⟩ := hq
    refine ⟨.ok (some text), fun x hx => ?_, fun _ _ hx => nomatch hx.question⟩
    exact hx.unique ⟨w, .works, w, rfl⟩
  by_cases hq' : ∃ role, q = .directory (.permissionsOf role)
  · obtain ⟨role, rfl⟩ := hq'
    refine ⟨lookup (lookedUp tr) role, fun _ hx => (nomatch hx.question), fun role' x hx => ?_⟩
    cases hx.question
    exact hx.unique ⟨w, .works, w, rfl⟩
  obtain ⟨x⟩ : Nonempty q.Answer := by
    cases q with
    | store | directory | database => exact ⟨.error default⟩
    | now => exact ⟨(⟨0, 0⟩ : Time.Instant)⟩
    | freshId => exact ⟨Uuid.nil⟩
    | freshSalt => exact ⟨Vector.replicate 16 0⟩
  exact ⟨x, fun _ hx => absurd ⟨_, hx.question, rfl⟩ hq,
    fun role _ hx => absurd ⟨role, hx.question⟩ hq'⟩

/-- Whether the answer to a lookup decides: it is a failure, or has a permission of the name. -/
def Decides (permission : String) : Except Failure (List Permission) → Prop
  | .error _ => True
  | .ok found => ∃ p ∈ found, p.name = permission

/-- What a lookup that decides makes of it: the user, or what is surfaced of the failure. -/
def decision {α : Type} (granted : α) : Except Failure (List Permission) → Except Failure α
  | .error e => .error (e.surface "Failed to resolve role permissions")
  | .ok _ => .ok granted

/-- From one role to the next. -/
theorem along_isGrantedBy_cons {asked : List Question} {ends : Trace → Outcome Bool → Prop}
    {role : RoleRef} {roles : List RoleRef} {tr : Trace}
    (hask : tr.questions ++ [lookUp role] <+: asked)
    (hdecided : ∀ o : Observation, o.question = lookUp role →
      Decides permission (lookup (lookedUp tr) role.id) →
        ends (o :: tr) (.finished (decision true (lookup (lookedUp tr) role.id))))
    (hnext : ∀ o : Observation, o.question = lookUp role →
      ¬Decides permission (lookup (lookedUp tr) role.id) →
        (isGrantedBy permission roles).Along (inTurn (Answering s text lookup) asked) ends
          (o :: tr)) :
    (isGrantedBy permission (role :: roles)).Along (inTurn (Answering s text lookup) asked) ends
      tr := by
  refine along_bind.2 ⟨hask, fun b how x a ho => ?_⟩
  obtain rfl := ho.permissions role.id x ⟨b, how, a, rfl⟩
  have hdecided := hdecided ⟨b, lookUp role, how, lookup (lookedUp tr) role.id, a⟩ rfl
  have hnext := hnext ⟨b, lookUp role, how, lookup (lookedUp tr) role.id, a⟩ rfl
  cases hx : lookup (lookedUp tr) role.id with
  | error e =>
    rw [hx] at hdecided
    exact hdecided trivial
  | ok found =>
    rw [hx] at hdecided hnext
    show Action.Along _ _ (if found.any (fun p => p.name == permission) then _ else _) _
    have hany : (found.any fun p => p.name == permission) = true ↔
        Decides permission (.ok found) := by simp [Decides]
    split
    · rename_i h
      exact hdecided (hany.1 h)
    · rename_i h
      exact hnext fun hd => h (hany.2 hd)

/-- A place among the lookups, counted from the next one. -/
theorem lookedUp_cons_add {role : RoleRef} {o : Observation} {tr : Trace}
    (h : o.question = lookUp role) (j : Nat) :
    lookedUp (o :: tr) + j = lookedUp tr + (j + 1) := by
  have hone : lookedUp (o :: tr) = lookedUp tr + 1 := by simp [lookedUp, h, lookUp]
  omega

/-- If the lookup of one of the roles decides, and none before it, the roles are looked up as far as
this one. -/
theorem along_isGrantedBy_decided {asked : List Question} {roles : List RoleRef} {role : RoleRef}
    {i : Nat} {tr : Trace} (hi : roles[i]? = some role)
    (hasked : asked = tr.questions ++ (roles.take (i + 1)).map lookUp)
    (hbefore : ∀ j earlier, j < i → roles[j]? = some earlier →
      ¬Decides permission (lookup (lookedUp tr + j) earlier.id))
    (hdecides : Decides permission (lookup (lookedUp tr + i) role.id)) :
    (isGrantedBy permission roles).Along (inTurn (Answering s text lookup) asked)
      (fun tr' out => out = .finished (decision true (lookup (lookedUp tr + i) role.id)) ∧
        tr'.questions = asked) tr := by
  induction roles generalizing i tr with
  | nil => cases hi
  | cons first roles ih =>
    have hask : tr.questions ++ [lookUp first] <+: asked := by
      rw [hasked]
      exact List.prefix_append_right_inj _ |>.2 (by simp)
    cases i with
    | zero =>
      cases hi
      refine along_isGrantedBy_cons hask (fun o ho _ => ⟨rfl, ?_⟩)
        fun o ho hno => absurd hdecides hno
      rw [hasked, Trace.questions_cons, ho]
      rfl
    | succ i =>
      refine along_isGrantedBy_cons hask (fun o ho hd => ?_) fun o ho _ => ?_
      · exact absurd hd (hbefore 0 first (Nat.succ_pos i) rfl)
      · rw [← lookedUp_cons_add ho] at hdecides ⊢
        refine ih hi ?_ (fun j earlier hj he => ?_) hdecides
        · rw [hasked, Trace.questions_cons, ho]
          simp
        · rw [lookedUp_cons_add ho]
          exact hbefore (j + 1) earlier (by omega) he

/-- If no lookup decides, all roles are looked up and none grants. -/
theorem along_isGrantedBy_undecided {asked : List Question} {roles : List RoleRef} {tr : Trace}
    (hasked : asked = tr.questions ++ roles.map lookUp)
    (hnone : ∀ j role, roles[j]? = some role →
      ¬Decides permission (lookup (lookedUp tr + j) role.id)) :
    (isGrantedBy permission roles).Along (inTurn (Answering s text lookup) asked)
      (fun tr' out => out = .finished (.ok false) ∧ tr'.questions = asked) tr := by
  induction roles generalizing tr with
  | nil => exact ⟨rfl, by simpa using hasked.symm⟩
  | cons first roles ih =>
    have hask : tr.questions ++ [lookUp first] <+: asked := by
      rw [hasked]
      exact List.prefix_append_right_inj _ |>.2 (by simp)
    refine along_isGrantedBy_cons hask (fun o ho hd => ?_) fun o ho _ => ih ?_ fun j role hj => ?_
    · exact absurd hd (hnone 0 first rfl)
    · rw [hasked, Trace.questions_cons, ho]
      simp
    · rw [lookedUp_cons_add ho]
      exact hnone (j + 1) role hj

/-- Evaluating a permission under a live record is asking its roles. -/
theorem along_evaluate_of_live {asked : List Question} {r : SessionRecord}
    {result : Except Failure Uuid} (hread : readRecord? text = some r)
    (hasked : [Question.store (.get (storeKey s))] <+: asked)
    (hroles : ∀ o : Observation, o.question = .store (.get (storeKey s)) →
      (isGrantedBy permission r.roles).Along (inTurn (Answering s text lookup) asked)
        (fun tr out => tr.questions = asked ∧ match out with
          | .finished (.ok granted) =>
            result = if granted then .ok r.subject else .error (lacksPermission permission)
          | .finished (.error e) => result = .error e
          | .crashed => False) [o]) :
    (evaluate s permission).Yields (Answering s text lookup) asked result := by
  refine .of_along (along_bind.2 (along_bind.2 (along_mapFailure.2 (along_load.2
    ⟨hasked, fun b how x a ho => ?_⟩))))
  obtain rfl := ho.record x ⟨b, how, a, rfl⟩
  have hloaded : loaded (.ok (some text)) = .ok (some r) := by simp only [loaded, hread]
  rw [hloaded]
  refine along_bind.2 ((hroles _ rfl).mono fun tr out h => ?_)
  obtain ⟨hq, hout⟩ := h
  rcases out with (e | granted) | _
  · exact ⟨by rw [hout], hq⟩
  · cases granted
    · exact ⟨by rw [hout]; rfl, hq⟩
    · exact ⟨by rw [hout]; rfl, hq⟩
  · exact hout.elim

/-- A permission under a live record is evaluated as the first lookup that decides says, and the
roles are looked up in their order as far as this one. -/
theorem evaluate_yields_decided {r : SessionRecord} {role : RoleRef} {i : Nat}
    (hread : readRecord? text = some r) (hi : r.roles[i]? = some role)
    (hbefore : ∀ j earlier, j < i → r.roles[j]? = some earlier →
      ¬Decides permission (lookup j earlier.id))
    (hdecides : Decides permission (lookup i role.id)) :
    (evaluate s permission).Yields (Answering s text lookup)
      (.store (.get (storeKey s)) :: (r.roles.take (i + 1)).map lookUp)
      (decision r.subject (lookup i role.id)) := by
  refine along_evaluate_of_live hread (by simp) fun o ho => ?_
  have hnone : lookedUp [o] = 0 := by simp [lookedUp, ho]
  refine (along_isGrantedBy_decided hi (by simp [ho]; rfl) ?_ ?_).mono fun tr out h => ?_
  · simpa [hnone] using hbefore
  · simpa [hnone] using hdecides
  · obtain ⟨rfl, hq⟩ := h
    refine ⟨hq, ?_⟩
    rw [hnone, Nat.zero_add]
    cases lookup i role.id <;> rfl

/-- If no lookup decides, all roles are looked up and the permission is lacking. -/
theorem evaluate_yields_undecided {r : SessionRecord} (hread : readRecord? text = some r)
    (hnone : ∀ j role, r.roles[j]? = some role → ¬Decides permission (lookup j role.id)) :
    (evaluate s permission).Yields (Answering s text lookup)
      (.store (.get (storeKey s)) :: r.roles.map lookUp)
      (.error (lacksPermission permission)) := by
  refine along_evaluate_of_live hread (by simp) fun o ho => ?_
  have hzero : lookedUp [o] = 0 := by simp [lookedUp, ho]
  refine (along_isGrantedBy_undecided (by simp [ho]; rfl) ?_).mono fun tr out h => ?_
  · simpa [hzero] using hnone
  · obtain ⟨rfl, hq⟩ := h
    exact ⟨hq, rfl⟩

/-- Of the lookups that decide, if any does, one is the first. -/
theorem exists_first_decisive (lookup : Nat → Uuid → Except Failure (List Permission))
    {roles : List RoleRef}
    (h : ∃ i role, roles[i]? = some role ∧ Decides permission (lookup i role.id)) :
    ∃ i role, roles[i]? = some role ∧ Decides permission (lookup i role.id) ∧
      ∀ j earlier, j < i → roles[j]? = some earlier →
        ¬Decides permission (lookup j earlier.id) := by
  classical
  obtain ⟨role, hi, hd⟩ := Nat.find_spec h
  exact ⟨Nat.find h, role, hi, hd, fun j earlier hj he hde => Nat.find_min h hj ⟨earlier, he, hde⟩⟩

/-- If no lookup fails and one of the roles grants the permission, the user has it. -/
theorem evaluate_yields_of_granted {r : SessionRecord} (hread : readRecord? text = some r)
    {granted : Uuid → List Permission}
    (h : ∃ role ∈ r.roles, ∃ p ∈ granted role.id, p.name = permission) :
    ∃ asked, (evaluate s permission).Yields
      (Answering s text fun _ role => .ok (granted role)) asked (.ok r.subject) := by
  obtain ⟨role, hm, hgrants⟩ := h
  obtain ⟨i, hi⟩ := List.mem_iff_getElem?.1 hm
  obtain ⟨i, role, hi, hd, hbefore⟩ := exists_first_decisive
    (fun _ role => .ok (granted role)) ⟨i, role, hi, hgrants⟩
  exact ⟨_, evaluate_yields_decided hread hi hbefore hd⟩

/-- The first lookup that decides, decides the evaluation: if it finds the permission, the user has
it, and if it fails, the evaluation fails, whatever later roles would grant. The store is read once,
then the roles are looked up in their order, once each, as far as this lookup, or all of them if
none decides. If no lookup fails, the order of the roles does not matter. -/
theorem first_decisive_role_decides (s : Uuid) (permission : String)
    (lookup : Nat → Uuid → Except Failure (List Permission)) {text : String} {r : SessionRecord}
    (hread : readRecord? text = some r) :
    (∀ i role, r.roles[i]? = some role →
      (∀ j earlier, j < i → r.roles[j]? = some earlier →
        ¬Decides permission (lookup j earlier.id)) →
      (∀ found, lookup i role.id = .ok found → (∃ p ∈ found, p.name = permission) →
        (evaluate s permission).Yields (Answering s text lookup)
          (.store (.get (storeKey s)) :: (r.roles.take (i + 1)).map lookUp) (.ok r.subject)) ∧
      ∀ e, lookup i role.id = .error e →
        (evaluate s permission).Yields (Answering s text lookup)
          (.store (.get (storeKey s)) :: (r.roles.take (i + 1)).map lookUp)
          (.error (if e.kind.isServerSide then
            .internal "Failed to resolve role permissions" else e))) ∧
    ((∀ j role, r.roles[j]? = some role → ¬Decides permission (lookup j role.id)) →
      (evaluate s permission).Yields (Answering s text lookup)
        (.store (.get (storeKey s)) :: r.roles.map lookUp)
        (.error (lacksPermission permission))) ∧
    ∀ granted : Uuid → List Permission, ∃ result,
      (result = .ok r.subject ∨ result = .error (lacksPermission permission)) ∧
      ∀ text' r', readRecord? text' = some r' → r'.subject = r.subject → r'.roles.Perm r.roles →
        ∃ asked, (evaluate s permission).Yields
          (Answering s text' fun _ role => .ok (granted role)) asked result := by
  refine ⟨fun i role hi hbefore => ⟨fun found hfound hgrants => ?_, fun e he => ?_⟩,
    evaluate_yields_undecided hread, fun granted => ?_⟩
  · have h := evaluate_yields_decided (s := s) hread hi hbefore (by rw [hfound]; exact hgrants)
    rwa [hfound] at h
  · have h := evaluate_yields_decided (s := s) hread hi hbefore (by rw [he]; exact trivial)
    rwa [he] at h
  · by_cases h : ∃ role ∈ r.roles, ∃ p ∈ granted role.id, p.name = permission
    · refine ⟨.ok r.subject, .inl rfl, fun text' r' hread' hsubject hperm => hsubject ▸ ?_⟩
      obtain ⟨role, hm, hgrants⟩ := h
      exact evaluate_yields_of_granted hread' ⟨role, hperm.mem_iff.2 hm, hgrants⟩
    · refine ⟨_, .inr rfl, fun text' r' hread' _ hperm => ⟨_, evaluate_yields_undecided hread' ?_⟩⟩
      intro j role hj hgrants
      exact h ⟨role, hperm.mem_iff.1 (List.mem_of_getElem? hj), hgrants⟩

/-- A record with a role that it has twice. -/
def repeatedRole : SessionRecord :=
  ⟨.ofNat 1, [⟨.ofNat 2, "Admin"⟩, ⟨.ofNat 3, "Editor"⟩, ⟨.ofNat 2, "Admin"⟩], .empty, none⟩

/-- The first lookup finds nothing, the second fails, and any later one would grant. -/
def failingLookup (n : Nat) (_ : Uuid) : Except Failure (List Permission) :=
  if n = 0 then .ok [] else if n = 1 then .error (.database "gone") else .ok [⟨.ofNat 5, "Read"⟩]

theorem first_decisive_role_decides_failing :
    ∃ tr, (evaluate (.ofNat 7) "Read").Reaches tr
        (.done (.error (.internal "Failed to resolve role permissions"))) ∧
      tr.All (Answering (.ofNat 7) (recordText repeatedRole) failingLookup) ∧
      tr.questions = [.store (.get (storeKey (.ofNat 7))), .directory (.permissionsOf (.ofNat 2)),
        .directory (.permissionsOf (.ofNat 3))] := by
  obtain ⟨h, -, -⟩ := first_decisive_role_decides (.ofNat 7) "Read" failingLookup
    (readRecord?_recordText repeatedRole)
  obtain ⟨-, hfails⟩ := h 1 ⟨.ofNat 3, "Editor"⟩ rfl fun j earlier hj he hd => by
    obtain rfl : j = 0 := by omega
    obtain ⟨p, hp, -⟩ := hd
    cases hp
  exact (hfails (.database "gone") rfl).exists_reaches exists_answering

end Session

end Gatehouse
