import Gatehouse.Base64
import Gatehouse.Proofs.Text.Ascii

/-!
# Base64 reads back

`decodeOctets_encodeOctets`: in a usable alphabet (`Usable`) the text of a byte string is read as
that byte string. Both alphabets in use are usable.
-/

namespace Gatehouse.Base64

/-- Every value below 64 has a symbol of its own, an ASCII character other than the padding. -/
structure Usable (a : Alphabet) : Prop where
  value?_symbol : ∀ v < 64, a.value? (a.symbol v) = some v
  symbol_ne_pad : ∀ v < 64, a.symbol v ≠ pad
  symbol_lt : ∀ v < 64, (a.symbol v).toNat < 128

theorem usable_standard : Usable standard := by
  constructor <;> decide

theorem usable_urlSafe : Usable urlSafe := by
  constructor <;> decide

variable {a : Alphabet}

/-! ## The last group -/

theorem lastGroup_symbols (ha : Usable a) (start : Nat) (vs : List Nat) (hv : ∀ v ∈ vs, v < 64)
    (place : Nat) (symbols : List (UInt8 × Nat)) (rest : Bytes) :
    lastGroup a start place symbols 0 (vs.map a.symbol ++ rest) =
      lastGroup a start (place + vs.length) (symbols ++ vs.map fun v => (a.symbol v, v)) 0
        rest := by
  induction vs generalizing place symbols with
  | nil => simp
  | cons v vs ih =>
    have hlt := hv v List.mem_cons_self
    have hne := ha.symbol_ne_pad v hlt
    have hval := ha.value?_symbol v hlt
    rw [List.map_cons, List.cons_append, lastGroup, if_neg hne, if_neg (Nat.lt_irrefl 0), hval]
    simp only
    rw [ih (fun x hx => hv x (List.mem_cons_of_mem _ hx))]
    simp [Nat.add_comm, Nat.add_left_comm]

theorem lastGroup_pads (start place pads n : Nat) (symbols : List (UInt8 × Nat))
    (hp : 2 ≤ place) :
    lastGroup a start place symbols pads (List.replicate n pad) = .ok (symbols, pads + n) := by
  induction n generalizing place pads with
  | zero => rfl
  | succ n ih =>
    rw [List.replicate_succ, lastGroup, if_pos rfl, if_neg (by omega), ih _ _ (by omega)]
    simp [Nat.add_comm, Nat.add_left_comm]

/-- A last group of at least two symbols and then padding is read as these. -/
theorem lastGroup_group (ha : Usable a) (start : Nat) (vs : List Nat) (hv : ∀ v ∈ vs, v < 64)
    (h2 : 2 ≤ vs.length) (n : Nat) :
    lastGroup a start 0 [] 0 (vs.map a.symbol ++ List.replicate n pad) =
      .ok (vs.map fun v => (a.symbol v, v), n) := by
  rw [lastGroup_symbols ha start vs hv, lastGroup_pads _ _ _ _ _ (by omega)]
  simp

/-! ## Groups -/

theorem valueAt_symbol (ha : Usable a) (offset : Nat) {v : Nat} (hv : v < 64) :
    valueAt a offset (a.symbol v) = .ok v := by
  rw [valueAt, ha.value?_symbol v hv]

theorem joinQuad_octets (x y z : UInt8) :
    joinQuad (x.toNat / 4) (x.toNat % 4 * 16 + y.toNat / 16) (y.toNat % 16 * 4 + z.toNat / 64)
      (z.toNat % 64) = [x, y, z] := by
  have hx := x.toNat_lt
  have hy := y.toNat_lt
  have hz := z.toNat_lt
  have h1 : x.toNat / 4 * 4 + (x.toNat % 4 * 16 + y.toNat / 16) / 16 = x.toNat := by omega
  have h2 : (x.toNat % 4 * 16 + y.toNat / 16) % 16 * 16 +
      (y.toNat % 16 * 4 + z.toNat / 64) / 4 = y.toNat := by omega
  have h3 : (y.toNat % 16 * 4 + z.toNat / 64) % 4 * 64 + z.toNat % 64 = z.toNat := by omega
  rw [joinQuad, h1, h2, h3]
  simp

theorem encodeOctets_ne_nil {b : Bytes} (h : b ≠ []) : encodeOctets a b ≠ [] := by
  match b, h with
  | [_], _ => simp [encodeOctets]
  | [_, _], _ => simp [encodeOctets]
  | _ :: _ :: _ :: _, _ => simp [encodeOctets]

theorem decodeGroups_one (ha : Usable a) (start : Nat) (x : UInt8) :
    decodeGroups a start (encodeOctets a [x]) = .ok [x] := by
  have hx := x.toNat_lt
  have h1 : x.toNat / 4 * 4 + x.toNat % 4 * 16 / 16 = x.toNat := by omega
  have hl := lastGroup_group ha start [x.toNat / 4, x.toNat % 4 * 16]
    (by simp only [List.mem_cons, List.not_mem_nil, or_false]; omega) (by simp)
    (if a.padded then 2 else 0)
  cases hp : a.padded <;>
    simp_all [encodeOctets, decodeGroups, finish, bind, Except.bind, List.replicate_succ]

theorem decodeGroups_two (ha : Usable a) (start : Nat) (x y : UInt8) :
    decodeGroups a start (encodeOctets a [x, y]) = .ok [x, y] := by
  have hx := x.toNat_lt
  have hy := y.toNat_lt
  have h1 : x.toNat / 4 * 4 + (x.toNat % 4 * 16 + y.toNat / 16) / 16 = x.toNat := by omega
  have h2 : (x.toNat % 4 * 16 + y.toNat / 16) % 16 * 16 + y.toNat % 16 * 4 / 4 = y.toNat := by
    omega
  have hl := lastGroup_group ha start
    [x.toNat / 4, x.toNat % 4 * 16 + y.toNat / 16, y.toNat % 16 * 4]
    (by simp only [List.mem_cons, List.not_mem_nil, or_false]; omega) (by simp)
    (if a.padded then 1 else 0)
  cases hp : a.padded <;>
    simp_all [encodeOctets, decodeGroups, finish, bind, Except.bind, List.replicate_succ]

theorem decodeGroups_encodeOctets (ha : Usable a) : ∀ (b : Bytes) (start : Nat),
    decodeGroups a start (encodeOctets a b) = .ok b
  | [], _ => rfl
  | [x], start => decodeGroups_one ha start x
  | [x, y], start => decodeGroups_two ha start x y
  | x :: y :: z :: rest, start => by
    have hx := x.toNat_lt
    have hy := y.toNat_lt
    have hz := z.toNat_lt
    have hr := decodeGroups_encodeOctets ha rest (start + 4)
    cases rest with
    | nil =>
      have hl := lastGroup_group ha start [x.toNat / 4, x.toNat % 4 * 16 + y.toNat / 16,
        y.toNat % 16 * 4 + z.toNat / 64, z.toNat % 64]
        (by simp only [List.mem_cons, List.not_mem_nil, or_false]; omega) (by simp) 0
      have hj := joinQuad_octets x y z
      cases hp : a.padded <;>
        simp_all [encodeOctets, decodeGroups, finish, bind, Except.bind]
    | cons w rest =>
      cases he : encodeOctets a (w :: rest) with
      | nil => exact absurd he (encodeOctets_ne_nil (by simp))
      | cons o os =>
        rw [he] at hr
        rw [encodeOctets, he, decodeGroups, valueAt_symbol ha _ (by omega),
          valueAt_symbol ha _ (by omega), valueAt_symbol ha _ (by omega),
          valueAt_symbol ha _ (by omega), hr]
        simp only [bind, Except.bind, pure, Except.pure, joinQuad_octets]
        rfl

theorem length_encodeOctets_mod : ∀ b : Bytes, (encodeOctets a b).length % 4 ≠ 1
  | [] => by simp [encodeOctets]
  | [x] => by cases hp : a.padded <;> simp [encodeOctets, hp]
  | [x, y] => by cases hp : a.padded <;> simp [encodeOctets, hp]
  | x :: y :: z :: rest => by
    have := length_encodeOctets_mod rest
    simp only [encodeOctets, List.length_cons]
    omega

/-- The text of a byte string is read as that byte string. -/
theorem decodeOctets_encodeOctets (ha : Usable a) (b : Bytes) :
    decodeOctets a (encodeOctets a b) = .ok b := by
  have hg := decodeGroups_encodeOctets ha b 0
  have hm := length_encodeOctets_mod (a := a) b
  cases hl : (encodeOctets a b).getLast? with
  | none =>
    rw [List.getLast?_eq_none_iff] at hl
    rw [hl] at hg
    rw [decodeOctets, hl]
    exact hg
  | some last =>
    rw [decodeOctets, hl]
    simp only [hm, false_and, if_false]
    exact hg

/-- Every octet of a text is a symbol or padding. -/
theorem pad_or_symbol_of_mem : ∀ {b : Bytes} {o : UInt8}, o ∈ encodeOctets a b →
    (o = pad ∧ a.padded = true) ∨ ∃ v < 64, o = a.symbol v
  | [], o, h => by simp [encodeOctets] at h
  | [x], o, h => by
    have hx := x.toNat_lt
    simp only [encodeOctets, List.mem_append, List.mem_cons, List.not_mem_nil, or_false,
      List.mem_ite_nil_right] at h
    rcases h with (rfl | rfl) | ⟨hp, h⟩
    · exact .inr ⟨_, by omega, rfl⟩
    · exact .inr ⟨_, by omega, rfl⟩
    · exact .inl ⟨h.elim id id, hp⟩
  | [x, y], o, h => by
    have hx := x.toNat_lt
    have hy := y.toNat_lt
    simp only [encodeOctets, List.mem_append, List.mem_cons, List.not_mem_nil, or_false,
      List.mem_ite_nil_right] at h
    rcases h with (rfl | rfl | rfl) | ⟨hp, rfl⟩
    · exact .inr ⟨_, by omega, rfl⟩
    · exact .inr ⟨_, by omega, rfl⟩
    · exact .inr ⟨_, by omega, rfl⟩
    · exact .inl ⟨rfl, hp⟩
  | x :: y :: z :: rest, o, h => by
    have hx := x.toNat_lt
    have hy := y.toNat_lt
    have hz := z.toNat_lt
    rw [encodeOctets] at h
    simp only [List.mem_cons] at h
    rcases h with rfl | rfl | rfl | rfl | h
    · exact .inr ⟨_, by omega, rfl⟩
    · exact .inr ⟨_, by omega, rfl⟩
    · exact .inr ⟨_, by omega, rfl⟩
    · exact .inr ⟨_, by omega, rfl⟩
    · exact pad_or_symbol_of_mem h

/-- Without padding, every octet of a text is a symbol. -/
theorem exists_symbol_of_mem (hp : a.padded = false) {b : Bytes} {o : UInt8}
    (h : o ∈ encodeOctets a b) : ∃ v < 64, o = a.symbol v :=
  (pad_or_symbol_of_mem h).resolve_left fun hpad => by simp [hp] at hpad

theorem ofString_encode (ha : Usable a) (b : Bytes) :
    Bytes.ofString (encode a b) = encodeOctets a b := by
  refine Bytes.ofString_octetText fun o ho => ?_
  obtain ⟨rfl, -⟩ | ⟨v, hv, rfl⟩ := pad_or_symbol_of_mem ho
  · decide
  · exact ha.symbol_lt v hv

end Gatehouse.Base64
