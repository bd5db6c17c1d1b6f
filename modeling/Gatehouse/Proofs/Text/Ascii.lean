import Gatehouse.Text.Bytes

/-!
# Octets of ASCII texts

The octets of a text of ASCII characters are the numbers of its characters
(`ofString_of_isAscii`), so text and octets are read off each other (`chars_ofString`,
`ofString_octetText`).
-/

namespace Gatehouse

/-- A text of ASCII characters only. -/
def IsAscii (s : String) : Prop := ∀ c ∈ s.toList, c.toNat < 128

theorem lt_of_all {cs : List Char} (h : (cs.all fun c => decide (c.toNat < 128)) = true) {c : Char}
    (hc : c ∈ cs) : c.toNat < 128 :=
  of_decide_eq_true (List.all_eq_true.1 h c hc)

/-- A fixed text is ASCII when going through it finds so. -/
theorem isAscii_of_all {s : String} (h : (s.toList.all fun c => decide (c.toNat < 128)) = true) :
    IsAscii s := fun _ => lt_of_all h

namespace Bytes

/-- The octets as characters of the same numbers. -/
def chars (octets : Bytes) : List Char := octets.map fun o => Char.ofNat o.toNat

theorem ofString_eq_flatMap (s : String) : ofString s = s.toList.flatMap String.utf8EncodeChar := by
  have h : s.toByteArray = (s.toList.flatMap String.utf8EncodeChar).toByteArray := by
    rw [← String.utf8Encode_toList, List.utf8Encode]
  rw [ofString, String.toUTF8_eq_toByteArray, h]
  simp

theorem utf8EncodeChar_of_lt {c : Char} (h : c.toNat < 128) :
    String.utf8EncodeChar c = [UInt8.ofNat c.toNat] := by
  have hle : ¬127 < c.toNat := by omega
  simp [String.utf8EncodeChar, hle]

theorem flatMap_utf8EncodeChar {cs : List Char} (h : ∀ c ∈ cs, c.toNat < 128) :
    cs.flatMap String.utf8EncodeChar = cs.map fun c => UInt8.ofNat c.toNat := by
  induction cs with
  | nil => rfl
  | cons c cs ih =>
    rw [List.flatMap_cons, utf8EncodeChar_of_lt (h c List.mem_cons_self),
      ih fun x hx => h x (List.mem_cons_of_mem _ hx)]
    rfl

theorem ofString_of_isAscii {s : String} (h : IsAscii s) :
    ofString s = s.toList.map fun c => UInt8.ofNat c.toNat := by
  rw [ofString_eq_flatMap, flatMap_utf8EncodeChar h]

theorem toNat_ofNat_of_lt {n : Nat} (h : n < 128) : (Char.ofNat n).toNat = n := by
  have hv : n.isValidChar := .inl (by omega)
  rw [Char.ofNat, dif_pos hv]
  rfl

theorem chars_ofString {s : String} (h : IsAscii s) : chars (ofString s) = s.toList := by
  rw [ofString_of_isAscii h, chars, List.map_map]
  refine (List.map_congr_left fun c hc => ?_).trans (List.map_id _)
  have := h c hc
  simp only [Function.comp_apply, UInt8.toNat_ofNat', id_eq]
  rw [Nat.mod_eq_of_lt (by omega), Char.ofNat_toNat]

theorem isAscii_octetText {octets : Bytes} (h : ∀ o ∈ octets, o.toNat < 128) :
    IsAscii (String.ofList (chars octets)) := by
  intro c hc
  rw [String.toList_ofList, chars] at hc
  obtain ⟨o, ho, rfl⟩ := List.mem_map.1 hc
  rw [toNat_ofNat_of_lt (h o ho)]
  exact h o ho

theorem ofString_octetText {octets : Bytes} (h : ∀ o ∈ octets, o.toNat < 128) :
    ofString (String.ofList (chars octets)) = octets := by
  rw [ofString_of_isAscii (isAscii_octetText h), String.toList_ofList, chars, List.map_map]
  refine (List.map_congr_left fun o ho => ?_).trans (List.map_id _)
  simp only [Function.comp_apply, toNat_ofNat_of_lt (h o ho), id_eq]
  exact UInt8.ofNat_toNat

end Bytes

end Gatehouse
