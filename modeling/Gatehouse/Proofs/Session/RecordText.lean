import Gatehouse.Proofs.Json.RoundTrip
import Gatehouse.Session.Store

/-!
# Stored records read back

`readRecord?_recordText`: the text that is kept for a session reads back as its record, whatever
characters its role names and attributes have. So distinct records have distinct texts
(`recordText_injective`).
-/

namespace Gatehouse

namespace Json

variable {p : String → Prop}

theorem itemsText_iff {js : List Json} : ItemsText p js ↔ ∀ j ∈ js, AllText p j := by
  induction js with
  | nil => simp [ItemsText]
  | cons j js ih => simp [ItemsText, ih]

theorem allText_record {ms : List (String × Json)} (h : ∀ m ∈ ms, p m.1 ∧ AllText p m.2) :
    AllText p (.record ms) := by
  rw [record, AllText]
  induction ms with
  | nil => trivial
  | cons m ms ih =>
    have hm := h m List.mem_cons_self
    exact ⟨⟨m.1, rfl, hm.1⟩, hm.2, ih fun x hx => h x (List.mem_cons_of_mem _ hx)⟩

theorem mapM_some_map {α β γ : Type} (f : α → β) (g : β → Option γ) (k : α → γ) {xs : List α}
    (h : ∀ x ∈ xs, g (f x) = some (k x)) : (xs.map f).mapM g = some (xs.map k) := by
  induction xs with
  | nil => rfl
  | cons x xs ih =>
    have hx := h x List.mem_cons_self
    have hxs := ih fun y hy => h y (List.mem_cons_of_mem _ hy)
    simp [List.mapM_cons, hx, hxs]

theorem known_map {names : List String} {ms : List (String × Json)} (hk : ∀ m ∈ ms, m.1 ∈ names) :
    known names (ms.map fun (k, v) => (some k, v)) = ms := by
  induction ms with
  | nil => rfl
  | cons m ms ih =>
    have hm := hk m List.mem_cons_self
    have hms := ih fun x hx => hk x (List.mem_cons_of_mem _ hx)
    rw [known] at hms ⊢
    rw [List.map_cons, List.filterMap_cons, hms]
    simp [hm]

/-- The fields of a record whose keys are known and come once are its members. -/
theorem fields?_record {names : List String} {ms : List (String × Json)}
    (hk : ∀ m ∈ ms, m.1 ∈ names) (hn : (ms.map (·.1)).Nodup) :
    (record ms).fields? names = some ms := by
  have hkeys : keys? (ms.map fun (k, v) => (some k, v)) = some (ms.map (·.1)) :=
    mapM_some_map _ _ _ fun _ _ => rfl
  rw [record, fields?, hkeys, known_map hk]
  simp [hn]

@[simp] theorem uuid?_toJson (u : Uuid) : uuid? u.toJson = some u := by
  simp [uuid?, Uuid.toJson, text?]

end Json

/-! ## Roles -/

theorem RoleRef.ofJson?_toJson (r : RoleRef) : ofJson? r.toJson = some r := by
  rw [ofJson?, toJson, Json.fields?_record (by simp) (by simp)]
  simp [Json.required, Json.text?, List.lookup_cons]

theorem RoleRef.allText_toJson (r : RoleRef) : r.toJson.AllText fun _ => True :=
  Json.allText_record (by simp [Uuid.toJson, Json.AllText])

/-! ## Attributes -/

namespace Attributes

/-- A key after all others is placed at the end. -/
theorem place_of_lt {k v : String} {es : List (String × String)} (h : ∀ e ∈ es, e.1 < k) :
    place k v es = es ++ [(k, v)] := by
  induction es with
  | nil => rfl
  | cons e es ih =>
    have he := h e List.mem_cons_self
    have hlt : ¬k < e.1 := fun hk => String.lt_irrefl _ (String.lt_trans he hk)
    have hne : k ≠ e.1 := fun hk => String.lt_irrefl _ (hk ▸ he)
    rw [place, if_neg hlt, if_neg hne, ih fun x hx => h x (List.mem_cons_of_mem _ hx)]
    rfl

theorem entries_foldl_insert (es : List (String × String)) (a : Attributes)
    (h : (a.entries ++ es).Pairwise fun x y => x.1 < y.1) :
    (es.foldl (fun a e => a.insert e.1 e.2) a).entries = a.entries ++ es := by
  induction es generalizing a with
  | nil => simp
  | cons e es ih =>
    have hlt : ∀ x ∈ a.entries, x.1 < e.1 := fun x hx =>
      (List.pairwise_append.1 h).2.2 x hx e List.mem_cons_self
    have he : (a.insert e.1 e.2).entries = a.entries ++ [e] := place_of_lt hlt
    have hnext := ih (a.insert e.1 e.2) (by rw [he, List.append_assoc]; exact h)
    rw [List.foldl_cons, hnext, he, List.append_assoc]
    rfl

theorem ofList_entries (a : Attributes) : ofList a.entries = a := by
  have h := entries_foldl_insert a.entries empty (by simpa [empty] using a.ordered)
  have he : (ofList a.entries).entries = a.entries := h
  cases ho : ofList a.entries
  cases a
  simp_all

theorem ofJson?_toJson (a : Attributes) : ofJson? a.toJson = some a := by
  have h : a.toJson = .obj (a.entries.map fun e => (some e.1, Json.str e.2)) := by
    simp [toJson, Json.record]
  rw [h, ofJson?, Json.mapM_some_map _ _ id fun e _ => by simp [Json.text?]]
  simp [ofList_entries]

theorem allText_toJson (a : Attributes) : a.toJson.AllText fun _ => True := by
  refine Json.allText_record fun m hm => ?_
  obtain ⟨e, -, rfl⟩ := List.mem_map.1 hm
  exact ⟨trivial, trivial⟩

end Attributes

/-! ## Records -/

namespace SessionRecord

theorem ofJson?_toJson (r : SessionRecord) : ofJson? r.toJson = some r := by
  have hroles : Json.list? RoleRef.ofJson? (.arr (r.roles.map RoleRef.toJson)) = some r.roles := by
    rw [Json.list?, Json.mapM_some_map _ _ id fun x _ => RoleRef.ofJson?_toJson x, List.map_id]
  have hpaired : ∀ s : Uuid, Json.option? Json.uuid? s.toJson = some (some s) := by
    intro s
    rw [Uuid.toJson, Json.option?]
    · rw [← Uuid.toJson, Json.uuid?_toJson, Option.map_some]
    · exact Json.noConfusion
  obtain ⟨subject, roles, extra, paired⟩ := r
  cases paired with
  | none =>
    rw [ofJson?, toJson, Json.fields?_record (by simp) (by simp)]
    simp [Json.required, Json.withDefault, List.lookup_cons, hroles, Attributes.ofJson?_toJson]
  | some s =>
    rw [ofJson?, toJson, Json.fields?_record (by simp) (by simp)]
    simp [Json.required, Json.withDefault, List.lookup_cons, hroles, hpaired,
      Attributes.ofJson?_toJson]

theorem allText_toJson (r : SessionRecord) : r.toJson.AllText fun _ => True := by
  have hroles : Json.AllText (fun _ => True) (.arr (r.roles.map RoleRef.toJson)) := by
    rw [Json.AllText, Json.itemsText_iff]
    intro j hj
    obtain ⟨x, -, rfl⟩ := List.mem_map.1 hj
    exact x.allText_toJson
  refine Json.allText_record fun m hm => ⟨trivial, ?_⟩
  rcases List.mem_append.1 hm with hm | hm
  · simp only [List.mem_cons, List.not_mem_nil, or_false] at hm
    rcases hm with rfl | rfl | rfl
    · trivial
    · exact hroles
    · exact r.extra.allText_toJson
  · cases hp : r.pairedWith with
    | none => simp [hp] at hm
    | some s =>
      simp only [hp, List.mem_singleton] at hm
      subst hm
      trivial

end SessionRecord

namespace Session

/-- The text that is kept for a session reads back as its record. -/
theorem readRecord?_recordText (r : SessionRecord) : readRecord? (recordText r) = some r := by
  rw [readRecord?, recordText, Json.parse?_compact r.allText_toJson]
  exact r.ofJson?_toJson

theorem recordText_injective {r s : SessionRecord} (h : recordText r = recordText s) : r = s := by
  have hr := readRecord?_recordText r
  rw [h, readRecord?_recordText] at hr
  exact (Option.some.inj hr).symm

end Session

end Gatehouse
