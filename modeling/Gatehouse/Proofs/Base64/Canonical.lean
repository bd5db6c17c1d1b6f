import Gatehouse.Proofs.Base64.RoundTrip
import Gatehouse.Proofs.Result

/-!
# Each byte string has one text in Base64

`decodeOctets_eq_ok_iff`: in an alphabet whose symbols have one value each (`Exact`), a text is read
as a byte string only if it is the text of that byte string. So two texts that are read as the same
octets are the same, the unused bits of the last symbol and the padding included.
-/

namespace Gatehouse.Base64

/-- An octet with a value is the symbol of that value. -/
structure Exact (a : Alphabet) : Prop where
  lt_of_value? : ∀ o v, a.value? o = some v → v < 64
  symbol_of_value? : ∀ o v, a.value? o = some v → a.symbol v = o

variable {a : Alphabet}

theorem exact_of_all
    (h : ∀ n < 256, ((a.value? (UInt8.ofNat n)).all fun v =>
      v < 64 && a.symbol v == UInt8.ofNat n) = true) : Exact a := by
  have read : ∀ o v, a.value? o = some v → v < 64 ∧ a.symbol v = o := by
    intro o v hv
    have ho := h o.toNat o.toNat_lt
    rw [UInt8.ofNat_toNat, hv] at ho
    simpa using ho
  exact ⟨fun o v hv => (read o v hv).1, fun o v hv => (read o v hv).2⟩

theorem exact_standard : Exact standard := exact_of_all (by decide +kernel)

theorem exact_urlSafe : Exact urlSafe := exact_of_all (by decide +kernel)

/-! ## The last group -/

/-- Whether every octet of a group stands beside its value. -/
def Valued (a : Alphabet) (symbols : List (UInt8 × Nat)) : Prop :=
  ∀ p ∈ symbols, a.value? p.1 = some p.2

theorem Valued.tail {p : UInt8 × Nat} {symbols : List (UInt8 × Nat)}
    (h : Valued a (p :: symbols)) : Valued a symbols :=
  fun q hq => h q (List.mem_cons_of_mem _ hq)

theorem Valued.symbol_eq (ha : Exact a) {o : UInt8} {v : Nat} {symbols : List (UInt8 × Nat)}
    (h : Valued a ((o, v) :: symbols)) : a.symbol v = o ∧ v < 64 :=
  have hv := h (o, v) List.mem_cons_self
  ⟨ha.symbol_of_value? o v hv, ha.lt_of_value? o v hv⟩

/-- The last group is its symbols and then its padding. -/
theorem eq_of_lastGroup {start place pads n : Nat} {symbols read : List (UInt8 × Nat)}
    {text : Bytes} (h : lastGroup a start place symbols pads text = .ok (read, n)) :
    ∃ new m, read = symbols ++ new ∧ n = pads + m ∧ (0 < pads → new = []) ∧ Valued a new ∧
      text = new.map Prod.fst ++ List.replicate m pad := by
  induction text generalizing place symbols pads with
  | nil =>
    cases h
    exact ⟨[], 0, by simp, rfl, fun _ => rfl, by simp [Valued], rfl⟩
  | cons o rest ih =>
    rw [lastGroup] at h
    split at h
    · rename_i ho
      split at h
      · cases h
      · obtain ⟨new, m, rfl, rfl, hnew, hv, rfl⟩ := ih h
        obtain rfl := hnew (by omega)
        exact ⟨[], m + 1, rfl, by omega, fun _ => rfl, hv, by simp [ho, List.replicate_succ]⟩
    · split at h
      · cases h
      · rename_i hp
        split at h
        · cases h
        · rename_i v hv
          obtain ⟨new, m, rfl, rfl, -, hnew, rfl⟩ := ih h
          refine ⟨(o, v) :: new, m, by simp, by omega, fun h0 => absurd h0 hp, ?_, by simp⟩
          intro p hm
          rcases List.mem_cons.1 hm with rfl | hm
          · exact hv
          · exact hnew p hm

theorem toNat_ofNat_octet {n : Nat} (h : n < 256) : (UInt8.ofNat n).toNat = n :=
  UInt8.toNat_ofNat_of_lt' h

/-- The text of the three octets of four values is the four symbols. -/
theorem encodeOctets_joinQuad {s t u v : Nat} (hs : s < 64) (ht : t < 64) (hu : u < 64)
    (hv : v < 64) (rest : Bytes) :
    encodeOctets a (joinQuad s t u v ++ rest) =
      a.symbol s :: a.symbol t :: a.symbol u :: a.symbol v :: encodeOctets a rest := by
  rw [joinQuad, List.cons_append, List.cons_append, List.cons_append, List.nil_append,
    encodeOctets, toNat_ofNat_octet (by omega), toNat_ofNat_octet (by omega),
    toNat_ofNat_octet (by omega)]
  rw [show (s * 4 + t / 16) / 4 = s by omega,
    show (s * 4 + t / 16) % 4 * 16 + (t % 16 * 16 + u / 4) / 16 = t by omega,
    show (t % 16 * 16 + u / 4) % 16 * 4 + (u % 4 * 64 + v) / 64 = u by omega,
    show (u % 4 * 64 + v) % 64 = v by omega]

/-- A last group that is accepted is the text of its octets. -/
theorem eq_of_finish (ha : Exact a) {start pads : Nat} {symbols : List (UInt8 × Nat)} {b : Bytes}
    (hs : Valued a symbols) (h : finish a start symbols pads = .ok b) :
    symbols.map Prod.fst ++ List.replicate pads pad = encodeOctets a b := by
  unfold finish at h
  by_cases h2 : symbols.length < 2
  · rw [if_pos h2] at h
    cases h
  rw [if_neg h2] at h
  by_cases hpad : if a.padded = true then symbols.length + pads ≠ 4 else pads ≠ 0
  · rw [if_pos hpad] at h
    cases h
  rw [if_neg hpad] at h
  have hpads : pads = if a.padded then 4 - symbols.length else 0 := by
    by_cases hp : a.padded = true
    · rw [if_pos hp] at hpad ⊢
      omega
    · rw [if_neg hp] at hpad ⊢
      omega
  split at h
  · rename_i o₁ s o₂ t
    split at h
    · cases h
    rename_i hbits
    cases h
    obtain ⟨rfl, hs₁⟩ := hs.symbol_eq ha
    obtain ⟨rfl, hs₂⟩ := hs.tail.symbol_eq ha
    rw [encodeOctets, toNat_ofNat_octet (by omega), show (s * 4 + t / 16) / 4 = s by omega,
      show (s * 4 + t / 16) % 4 * 16 = t by omega, hpads]
    cases a.padded <;> rfl
  · rename_i o₁ s o₂ t o₃ u
    split at h
    · cases h
    rename_i hbits
    cases h
    obtain ⟨rfl, hs₁⟩ := hs.symbol_eq ha
    obtain ⟨rfl, hs₂⟩ := hs.tail.symbol_eq ha
    obtain ⟨rfl, hs₃⟩ := hs.tail.tail.symbol_eq ha
    rw [encodeOctets, toNat_ofNat_octet (by omega), toNat_ofNat_octet (by omega),
      show (s * 4 + t / 16) / 4 = s by omega,
      show (s * 4 + t / 16) % 4 * 16 + (t % 16 * 16 + u / 4) / 16 = t by omega,
      show (t % 16 * 16 + u / 4) % 16 * 4 = u by omega, hpads]
    cases a.padded <;> rfl
  · rename_i o₁ s o₂ t o₃ u o₄ v
    cases h
    obtain ⟨rfl, hs₁⟩ := hs.symbol_eq ha
    obtain ⟨rfl, hs₂⟩ := hs.tail.symbol_eq ha
    obtain ⟨rfl, hs₃⟩ := hs.tail.tail.symbol_eq ha
    obtain ⟨rfl, hs₄⟩ := hs.tail.tail.tail.symbol_eq ha
    have hj := encodeOctets_joinQuad (a := a) hs₁ hs₂ hs₃ hs₄ []
    rw [List.append_nil] at hj
    rw [hj, hpads]
    cases a.padded <;> rfl
  · cases h

/-! ## Whole texts -/

theorem value?_of_valueAt {offset : Nat} {o : UInt8} {v : Nat} (h : valueAt a offset o = .ok v) :
    a.value? o = some v := by
  unfold valueAt at h
  split at h
  · cases h
    assumption
  · cases h

theorem eq_of_decodeGroups (ha : Exact a) {start : Nat} {text b : Bytes}
    (h : decodeGroups a start text = .ok b) : text = encodeOctets a b := by
  fun_induction decodeGroups a start text generalizing b with
  | case1 start =>
    cases h
    rfl
  | case2 start o₀ o₁ o₂ o₃ o₄ rest ih =>
    obtain ⟨s, hs, h⟩ := exists_of_bind_eq_ok h
    obtain ⟨t, ht, h⟩ := exists_of_bind_eq_ok h
    obtain ⟨u, hu, h⟩ := exists_of_bind_eq_ok h
    obtain ⟨v, hv, h⟩ := exists_of_bind_eq_ok h
    obtain ⟨others, ho, h⟩ := exists_of_bind_eq_ok h
    cases h
    have hs := value?_of_valueAt hs
    have ht := value?_of_valueAt ht
    have hu := value?_of_valueAt hu
    have hv := value?_of_valueAt hv
    rw [encodeOctets_joinQuad (ha.lt_of_value? _ _ hs) (ha.lt_of_value? _ _ ht)
      (ha.lt_of_value? _ _ hu) (ha.lt_of_value? _ _ hv), ha.symbol_of_value? _ _ hs,
      ha.symbol_of_value? _ _ ht, ha.symbol_of_value? _ _ hu, ha.symbol_of_value? _ _ hv, ← ih ho]
  | case3 start last _ _ =>
    obtain ⟨⟨symbols, pads⟩, hl, hf⟩ := exists_of_bind_eq_ok h
    obtain ⟨new, m, rfl, rfl, -, hv, rfl⟩ := eq_of_lastGroup hl
    rw [Nat.zero_add] at hf
    exact eq_of_finish ha hv hf

/-- A text is read as a byte string if and only if it is the text of that byte string. -/
theorem decodeOctets_eq_ok_iff (hu : Usable a) (ha : Exact a) {text b : Bytes} :
    decodeOctets a text = .ok b ↔ text = encodeOctets a b := by
  constructor
  · intro h
    unfold decodeOctets at h
    split at h
    · rename_i hl
      cases h
      exact List.getLast?_eq_none_iff.1 hl
    · split at h
      · cases h
      · exact eq_of_decodeGroups ha h
  · rintro rfl
    exact decodeOctets_encodeOctets hu b

/-- So is a text that is given as characters. -/
theorem decode_eq_ok_iff (hu : Usable a) (ha : Exact a) {text : String} {b : Bytes} :
    decode a text = .ok b ↔ text = encode a b := by
  rw [decode, decodeOctets_eq_ok_iff hu ha, ← ofString_encode hu]
  exact ⟨Bytes.ofString_injective, congrArg Bytes.ofString⟩

end Gatehouse.Base64
