import Gatehouse.Json.Shape

/-!
# Attributes of a session

Free-form pairs of key and value, one value for a key, in the order of the keys. The order is part
of the type, so two sets of the same pairs are equal.
-/

namespace Gatehouse

/-- Keys with values, in strict order of the keys. -/
structure Attributes where
  entries : List (String × String)
  ordered : entries.Pairwise fun a b => a.1 < b.1
  deriving DecidableEq, Repr

namespace Attributes

/-- No attributes. -/
def empty : Attributes := ⟨[], .nil⟩

instance : Inhabited Attributes := ⟨empty⟩

/-- The pairs with one more, in place of one with the same key. -/
def place (k v : String) : List (String × String) → List (String × String)
  | [] => [(k, v)]
  | e :: es =>
    if k < e.1 then (k, v) :: e :: es
    else if k = e.1 then (k, v) :: es
    else e :: place k v es

theorem mem_place {k v : String} {es : List (String × String)} {x : String × String}
    (h : x ∈ place k v es) : x = (k, v) ∨ x ∈ es := by
  induction es with
  | nil => simp_all [place]
  | cons e es ih =>
    unfold place at h
    split at h
    · simpa using h
    · split at h
      · rcases List.mem_cons.1 h with h | h
        · exact .inl h
        · exact .inr (List.mem_cons_of_mem _ h)
      · rcases List.mem_cons.1 h with h | h
        · exact .inr (h ▸ List.mem_cons_self)
        · exact (ih h).imp id (List.mem_cons_of_mem _)

theorem ordered_place (k v : String) {es : List (String × String)}
    (h : es.Pairwise fun a b => a.1 < b.1) : (place k v es).Pairwise fun a b => a.1 < b.1 := by
  induction es with
  | nil => simp [place]
  | cons e es ih =>
    have he := List.pairwise_cons.1 h
    unfold place
    split
    · rename_i hlt
      refine List.pairwise_cons.2 ⟨fun x hx => ?_, h⟩
      rcases List.mem_cons.1 hx with rfl | hx
      · exact hlt
      · exact String.lt_trans hlt (he.1 x hx)
    · split
      · rename_i heq
        exact List.pairwise_cons.2 ⟨fun x hx => heq ▸ he.1 x hx, he.2⟩
      · rename_i hlt hne
        refine List.pairwise_cons.2 ⟨fun x hx => ?_, ih he.2⟩
        rcases mem_place hx with rfl | hx
        · exact Decidable.byContradiction fun hn =>
            hne (String.le_antisymm (String.not_lt.1 hn) (String.not_lt.1 hlt))
        · exact he.1 x hx

/-- The attributes with a value for a key. -/
def insert (a : Attributes) (k v : String) : Attributes :=
  ⟨place k v a.entries, ordered_place k v a.ordered⟩

/-- The attributes of a list of pairs; of pairs with the same key the last one counts. -/
def ofList (es : List (String × String)) : Attributes :=
  es.foldl (fun a e => a.insert e.1 e.2) empty

/-- The JSON form. -/
def toJson (a : Attributes) : Json :=
  .record (a.entries.map fun (k, v) => (k, .str v))

/-- Reads the JSON form. -/
def ofJson? : Json → Option Attributes
  | .obj members => do
    let es ← members.mapM fun (k, j) => do
      let k ← k
      let v ← j.text?
      return (k, v)
    return ofList es
  | _ => none

end Attributes

end Gatehouse
