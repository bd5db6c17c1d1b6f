import Gatehouse.Proofs.Run.State

/-!
# Actions that run alone

A trace is `Trace.Alone w` if its observations follow one another from the world `w` on, with
nothing in between: no other action, no edit of the directory, and no passing of time. What is live
after it is what its last call about a key left there (`Trace.live?_cons`). `Action.play` computes
such a trace from the reactions of the world (`Action.reaches_of_play`). A trace is
`Trace.Solitary w` if time may pass before each observation.
-/

namespace Gatehouse

/-- Whether nothing happens from one world to another but that time passes. -/
structure World.Waits (w w' : World) : Prop where
  store : w'.store = w.store
  directory : w'.directory = w.directory
  drawn : w'.drawn = w.drawn
  moment : w.moment ≤ w'.moment

theorem World.waits_refl (w : World) : w.Waits w := ⟨rfl, rfl, rfl, Nat.le_refl _⟩

namespace Trace

/-- The world after a trace that starts in a world. -/
def world (w : World) : Trace → World
  | [] => w
  | o :: _ => o.after

/-- Whether the observations follow one another, from a world on. -/
def Alone (w : World) (tr : Trace) : Prop :=
  tr.All fun older o => o.before = older.world w ∧ o.Truthful

/-- Whether the observations follow one another, from a world on, with nothing in between but the
passing of time. -/
def Solitary (w : World) (tr : Trace) : Prop :=
  tr.All fun older o => (older.world w).Waits o.before ∧ o.Truthful

/-- The entry of a key that is live after a trace. -/
def live? (w : World) (tr : Trace) (key : String) : Option Store.Entry :=
  (tr.world w).store.live? w.moment key

end Trace

namespace Observation

/-- What an observation leaves under a key, if it changes that. -/
def leaves (o : Observation) (key : String) : Option (Option Store.Entry) :=
  match o.how, o.question with
  | .works, .store call => Store.Memory.leaves o.before.moment key call
  | .unseen _, .store call => Store.Memory.leaves o.before.moment key call
  | _, _ => none

variable {o : Observation} {key : String}

theorem Truthful.live? (h : o.Truthful) :
    o.after.store.live? o.before.moment key =
      (o.leaves key).getD (o.before.store.live? o.before.moment key) := by
  obtain ⟨b, q, how, x, a⟩ := o
  cases q with
  | store call =>
    obtain ⟨rfl, -, rfl⟩ | ⟨e, rfl, -, rfl⟩ | ⟨e, rfl, -, rfl⟩ := h.store
    · exact Store.Memory.live?_answer call
    · rfl
    · exact Store.Memory.live?_answer call
  | _ =>
    obtain hs | ⟨call, hq, -⟩ := h.store_eq
    · dsimp only at hs ⊢
      rw [hs]
      cases how <;> rfl
    · cases hq

theorem leaves_of_not_writes (h : ¬o.question.Writes) : o.leaves key = none := by
  obtain ⟨b, q, how, x, a⟩ := o
  cases q with
  | store call =>
    cases call with
    | set k value ttl => exact absurd trivial h
    | delete k => exact absurd trivial h
    | _ => cases how <;> rfl
  | _ => cases how <;> rfl

theorem leaves_of_key_ne {call : Store.Call} (hq : o.question = .store call) (h : call.key ≠ key) :
    o.leaves key = none := by
  obtain ⟨b, q, how, x, a⟩ := o
  cases hq
  cases call with
  | set k value ttl =>
    have hk : k ≠ key := h
    cases how <;> simp [leaves, Store.Memory.leaves, hk]
  | delete k =>
    have hk : k ≠ key := h
    cases how <;> simp [leaves, Store.Memory.leaves, hk]
  | _ => cases how <;> rfl

theorem leaves_of_set {value : String} {ttl : Time.Duration} (h : o.Truthful)
    (ho : o.Saw (.store (.set key value ttl)) (.ok ())) :
    o.leaves key = some (some ⟨key, value, o.before.moment + ttl.nanos⟩) := by
  obtain ⟨b, how, a, rfl⟩ := ho
  obtain ⟨rfl, hx, -⟩ | ⟨e, -, hx, -⟩ | ⟨e, -, hx, -⟩ := h.store
  · have h0 : ttl.nanos ≠ 0 := by
      intro h0
      simp [Store.Memory.answer, h0] at hx
    simp [leaves, Store.Memory.leaves, h0]
  · cases hx
  · cases hx

theorem leaves_of_delete (h : o.Truthful) (ho : o.Saw (.store (.delete key)) (.ok ())) :
    o.leaves key = some none := by
  obtain ⟨b, how, a, rfl⟩ := ho
  obtain ⟨rfl, -, -⟩ | ⟨e, -, hx, -⟩ | ⟨e, -, hx, -⟩ := h.store
  · simp [leaves, Store.Memory.leaves]
  · cases hx
  · cases hx

/-- A call that is reported to have failed, and did not take effect unseen, left everything as it
was. -/
theorem leaves_of_error {call : Store.Call} {e : Failure} (h : o.Truthful)
    (ho : o.Saw (.store call) (.error e)) (hd : ∀ e, o.how ≠ .unseen e) : o.leaves key = none := by
  obtain ⟨b, how, a, rfl⟩ := ho
  obtain ⟨rfl, hx, -⟩ | ⟨e', rfl, -, -⟩ | ⟨e', rfl, -, -⟩ := h.store
  · cases call with
    | set k value ttl =>
      by_cases h0 : ttl.nanos = 0
      · simp [leaves, Store.Memory.leaves, h0]
      · simp [Store.Memory.answer, h0] at hx
    | delete k => cases hx
    | _ => rfl
  · rfl
  · exact absurd rfl (hd e')

end Observation

namespace Trace

variable {w : World} {tr older : Trace} {o : Observation} {key : String}

/-! ### With time passing -/

theorem Alone.solitary (h : tr.Alone w) : tr.Solitary w := by
  induction tr with
  | nil => trivial
  | cons o tr ih => exact ⟨⟨h.1.1 ▸ World.waits_refl _, h.1.2⟩, ih h.2⟩

theorem Solitary.truthful (h : tr.Solitary w) {o : Observation} (ho : o ∈ tr) : o.Truthful := by
  obtain ⟨older, ht⟩ := h.exists_of_mem ho
  exact ht.2

theorem Solitary.of_append {newer : Trace} (h : Solitary w (newer ++ older)) :
    older.Solitary w := by
  induction newer with
  | nil => exact h
  | cons o newer ih => exact ih h.2

/-- Older observations were not made at a later moment. -/
theorem Solitary.moment_le_of_mem (h : Solitary w (o :: older)) {o' : Observation}
    (ho : o' ∈ older) : o'.before.moment ≤ o.before.moment := by
  induction older generalizing o with
  | nil => cases ho
  | cons x older ih =>
    have hx : x.before.moment ≤ o.before.moment := h.2.1.2.moment_eq ▸ h.1.1.moment
    rcases List.mem_cons.1 ho with rfl | ho
    · exact hx
    · exact Nat.le_trans (ih h.2 ho) hx

theorem Solitary.drawn_subset (h : tr.Solitary w) : w.drawn ⊆ (tr.world w).drawn := by
  induction tr with
  | nil => exact List.Subset.refl _
  | cons o tr ih =>
    have ho := h.1.2.drawn_subset
    rw [h.1.1.drawn] at ho
    exact List.Subset.trans (ih h.2) ho

/-! ### With nothing in between -/

theorem Alone.truthful (h : tr.Alone w) : ∀ o ∈ tr, o.Truthful :=
  fun _ ho => h.solitary.truthful ho

theorem Alone.of_append {newer : Trace} (h : Alone w (newer ++ older)) : older.Alone w := by
  induction newer with
  | nil => exact h
  | cons o newer ih => exact ih h.2

theorem Alone.moment_eq (h : tr.Alone w) : (tr.world w).moment = w.moment := by
  induction tr with
  | nil => rfl
  | cons o tr ih =>
    show o.after.moment = w.moment
    rw [h.1.2.moment_eq, h.1.1, ih h.2]

theorem Alone.drawn_subset (h : tr.Alone w) : w.drawn ⊆ (tr.world w).drawn :=
  h.solitary.drawn_subset

theorem live?_cons (h : Alone w (o :: older)) :
    live? w (o :: older) key = (o.leaves key).getD (live? w older key) := by
  have hb := h.1.1
  have hm := Alone.moment_eq h.2
  show o.after.store.live? w.moment key = (o.leaves key).getD ((older.world w).store.live? _ key)
  rw [← hm, ← hb, h.1.2.live?]

theorem live?_append_of_leaves {newer : Trace} (h : Alone w (newer ++ older))
    (hn : ∀ o ∈ newer, o.leaves key = none) : live? w (newer ++ older) key = live? w older key := by
  induction newer with
  | nil => rfl
  | cons o newer ih =>
    have hc : live? w (o :: (newer ++ older)) key = _ := live?_cons h
    rw [List.cons_append, hc, hn o List.mem_cons_self, Option.getD_none]
    exact ih h.2 fun o ho => hn o (List.mem_cons_of_mem _ ho)

/-- A trace that writes nothing leaves everything as it was. -/
theorem live?_of_writeless (h : tr.Alone w) (hw : tr.Writeless) :
    live? w tr key = w.store.live? w.moment key := by
  have happ : Alone w (tr ++ []) := by rwa [List.append_nil]
  have hn : ∀ o ∈ tr, o.leaves key = none := fun o ho =>
    Observation.leaves_of_not_writes (hw o ho)
  have h₀ := live?_append_of_leaves happ hn
  rwa [List.append_nil] at h₀

/-- An identifier that is drawn was not in use at the start. -/
theorem Alone.not_mem_drawn (h : tr.Alone w) {id : Uuid} (hd : tr.Draws id older) :
    id ∉ w.drawn := by
  obtain ⟨o, ⟨b, how, a, rfl⟩, hs⟩ := hd
  obtain ⟨newer, rfl⟩ := hs
  obtain ⟨⟨hb, ht⟩, hold⟩ := h.of_append
  intro hid
  refine ht.freshId.1 ?_
  dsimp only at hb
  rw [hb]
  exact Alone.drawn_subset hold hid

end Trace

/-! ## Playing -/

namespace Action

variable {α : Type} {a b b' : Action α} {w : World} {tr tr' : Trace}

/-- The next observation of an action, and what the action comes to by it, if the world reacts like
that. -/
def next? (w : World) (p : Trace × Action α) (r : Bool × Reaction) : Option (Trace × Action α) :=
  match p.2.offer? r.1 with
  | none => none
  | some ⟨q, next⟩ =>
    match (p.1.world w).answer? r.2 q with
    | none => none
    | some (x, after) => some (⟨p.1.world w, q, r.2, x, after⟩ :: p.1, next x)

theorem next?_eq {second : Bool} {how : Reaction} {q : Question} {next : q.Answer → Action α}
    {x : q.Answer} {after : World} (ho : a.offer? second = some ⟨q, next⟩)
    (hx : (tr.world w).answer? how q = some (x, after)) :
    next? w (tr, a) (second, how) = some (⟨tr.world w, q, how, x, after⟩ :: tr, next x) := by
  simp only [next?, ho, hx]

/-- All observations of an action, and what it comes to, if the world reacts like that. -/
def play (w : World) : List (Bool × Reaction) → Trace × Action α → Option (Trace × Action α)
  | [], p => some p
  | r :: rs, p => (next? w p r).bind (play w rs)

theorem reaches_of_next? {r : Bool × Reaction} (h : next? w (tr, b) r = some (tr', b'))
    (hr : a.Reaches tr b) (ha : tr.Alone w) : a.Reaches tr' b' ∧ tr'.Alone w := by
  unfold next? at h
  split at h
  · cases h
  · rename_i q next ho
    split at h
    · cases h
    · rename_i x after hx
      cases h
      exact ⟨hr.step ho _ _ x after, ⟨rfl, hx⟩, ha⟩

theorem reaches_of_play {rs : List (Bool × Reaction)} (h : play w rs (tr, b) = some (tr', b'))
    (hr : a.Reaches tr b) (ha : tr.Alone w) : a.Reaches tr' b' ∧ tr'.Alone w := by
  induction rs generalizing tr b with
  | nil =>
    cases h
    exact ⟨hr, ha⟩
  | cons r rs ih =>
    obtain ⟨⟨tr₁, b₁⟩, h₁, h₂⟩ := Option.bind_eq_some_iff.1 h
    obtain ⟨hr₁, ha₁⟩ := reaches_of_next? h₁ hr ha
    exact ih h₂ hr₁ ha₁

/-- The reactions that are told are the ones that are observed. -/
theorem exists_mem_of_play {rs : List (Bool × Reaction)}
    (h : play w rs (tr, b) = some (tr', b')) {o : Observation} (ho : o ∈ tr') :
    o ∈ tr ∨ ∃ r ∈ rs, o.how = r.2 := by
  induction rs generalizing tr b with
  | nil =>
    cases h
    exact .inl ho
  | cons r rs ih =>
    obtain ⟨⟨tr₁, b₁⟩, h₁, h₂⟩ := Option.bind_eq_some_iff.1 h
    obtain ho | ⟨r', hr', he⟩ := ih h₂
    · unfold next? at h₁
      split at h₁
      · cases h₁
      · split at h₁
        · cases h₁
        · cases h₁
          rcases List.mem_cons.1 ho with rfl | ho
          · exact .inr ⟨r, List.mem_cons_self, rfl⟩
          · exact .inl ho
    · exact .inr ⟨r', List.mem_cons_of_mem _ hr', he⟩

/-- What a clock shows while an action is played is among the reactions. -/
theorem shows_of_play {rs : List (Bool × Reaction)} (h : play w rs ([], a) = some (tr, b))
    {o : Observation} (ho : o ∈ tr) {now : Time.Instant} (hs : o.Saw .now now) :
    ∃ second, (second, .shows now) ∈ rs := by
  have ha : tr.Alone w := (reaches_of_play h .start trivial).2
  have htruth := ha.truthful o ho
  obtain hmem | ⟨⟨second, how⟩, hr, he⟩ := exists_mem_of_play h ho
  · cases hmem
  obtain ⟨b, how', c, rfl⟩ := hs
  obtain ⟨rfl, -⟩ := htruth.now
  obtain rfl : Reaction.shows now = how := he
  exact ⟨second, hr⟩

theorem moment_of_play {x y : Action α} {rs : List (Bool × Reaction)}
    (h : play w rs ([], x) = some (tr, y)) {o : Observation} (ho : o ∈ tr) :
    o.before.moment = w.moment := by
  have ha : tr.Alone w := (reaches_of_play h .start trivial).2
  obtain ⟨newer, older, rfl⟩ := List.append_of_mem ho
  have hb := ha.of_append.1.1
  rw [hb, Trace.Alone.moment_eq ha.of_append.2]

theorem works_of_play {x y : Action α} {rs : List (Bool × Reaction)}
    (h : play w rs ([], x) = some (tr, y))
    (hrs : ∀ r ∈ rs, ∀ e, r.2 ≠ .fails e ∧ r.2 ≠ .unseen e) {o : Observation} (ho : o ∈ tr) :
    ¬o.Fails := by
  rintro ⟨e, he⟩
  obtain hmem | ⟨r, hr, hhow⟩ := exists_mem_of_play h ho
  · cases hmem
  obtain ⟨h₁, h₂⟩ := hrs r hr e
  rcases he with he | he
  · exact h₁ (hhow ▸ he)
  · exact h₂ (hhow ▸ he)

end Action

end Gatehouse
