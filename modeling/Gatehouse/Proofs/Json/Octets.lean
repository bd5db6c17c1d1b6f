import Gatehouse.Proofs.Json.RoundTrip
import Gatehouse.Proofs.Text.Ascii

/-!
# Reading octets

`parseOctets?_compact`: a value whose strings are ASCII is also read back from the octets of its
compact form.
-/

namespace Gatehouse.Json

theorem toList_toString (c : Char) : c.toString.toList = [c] := by
  simp [Char.toString]

theorem octetText_pieces {s : String} (h : IsAscii s) :
    octetText (s.toList.map pieceOf).reverse = .ok s := by
  have hj : ∀ c ∈ s.toList, joined (fun c => [UInt8.ofNat c.toNat])
      (fun c => Bytes.ofString c.toString) c = [UInt8.ofNat c.toNat] := by
    intro c hc
    rw [joined]
    split
    · rw [Bytes.ofString_eq_flatMap, toList_toString]
      simp [Bytes.utf8EncodeChar_of_lt (h c hc)]
    · rfl
  have hf : (s.toList.map (joined (fun c => [UInt8.ofNat c.toNat])
      (fun c => Bytes.ofString c.toString))).flatten = Bytes.ofString s := by
    rw [List.map_congr_left hj, Bytes.ofString_of_isAscii h, ← List.flatMap_def,
      List.map_eq_flatMap]
  rw [octetText, ← List.map_reverse, joinPieces_pieceOf]
  simp only [List.map_reverse, List.reverse_reverse, List.append_nil, Option.bind_some, hf,
    Bytes.toString?_ofString]

/-! ## Octets of what is written -/

theorem lt_of_mem_escapeChar {c d : Char} (hc : c.toNat < 128) (hd : d ∈ escapeChar c) :
    d.toNat < 128 := by
  have hex : ∀ n : Fin 16, (Ascii.hexDigit n).toNat < 128 := by decide
  unfold escapeChar at hd
  split at hd
  · exact lt_of_all rfl hd
  split at hd
  · exact lt_of_all rfl hd
  split at hd
  · exact lt_of_all rfl hd
  split at hd
  · exact lt_of_all rfl hd
  split at hd
  · exact lt_of_all rfl hd
  split at hd
  · exact lt_of_all rfl hd
  split at hd
  · exact lt_of_all rfl hd
  split at hd
  · simp only [List.mem_cons, List.not_mem_nil, or_false] at hd
    rcases hd with rfl | rfl | rfl | rfl | rfl | rfl
    · decide
    · decide
    · decide
    · decide
    · exact hex _
    · exact hex _
  · rw [List.mem_singleton.1 hd]
    exact hc

theorem lt_of_mem_quote {s : String} (h : IsAscii s) {c : Char} (hc : c ∈ quote s) :
    c.toNat < 128 := by
  simp only [quote, List.cons_append, List.mem_cons, List.mem_append, List.mem_flatMap,
    List.not_mem_nil, or_false] at hc
  rcases hc with rfl | ⟨d, hd, hc⟩ | rfl
  · decide
  · exact lt_of_mem_escapeChar (h d hd) hc
  · decide

theorem lt_of_isDigit {c : Char} (h : Ascii.isDigit c = true) : c.toNat < 128 := by
  simp only [Ascii.isDigit, Bool.and_eq_true, decide_eq_true_eq] at h
  have h9 : c.toNat ≤ 57 := h.2
  omega

theorem lt_of_mem_renderNumber {n : Number} {c : Char} (hc : c ∈ n.render) : c.toNat < 128 := by
  have hr := render_number n []
  rw [List.append_nil] at hr
  rw [hr] at hc
  simp only [List.append_nil, List.mem_append] at hc
  rcases hc with hc | hc | hc | hc
  · split at hc
    · rw [List.mem_singleton.1 hc]; decide
    · cases hc
  · exact lt_of_isDigit (isDigit_of_mem_toDigits hc)
  · rw [fractionText] at hc
    split at hc
    · cases hc
    · rcases List.mem_cons.1 hc with rfl | hc
      · decide
      · obtain ⟨d, -, rfl⟩ := List.mem_map.1 hc
        exact lt_of_isDigit (isDigit_decimalDigit d)
  · cases he : n.exponent with
    | none => rw [he] at hc; cases hc
    | some e =>
      rw [he, exponentText] at hc
      simp only [List.mem_cons] at hc
      rcases hc with rfl | rfl | hc
      · decide
      · split <;> decide
      · exact lt_of_isDigit (isDigit_of_mem_toDigits hc)

mutual

theorem lt_of_mem_render : ∀ (j : Json), AllText IsAscii j → ∀ c ∈ j.render, c.toNat < 128
  | .null, _, c, hc => lt_of_all (by decide) hc
  | .bool true, _, c, hc => lt_of_all (by decide) hc
  | .bool false, _, c, hc => lt_of_all (by decide) hc
  | .num n, _, c, hc => lt_of_mem_renderNumber (by rwa [render] at hc)
  | .str s, h, c, hc => lt_of_mem_quote h (by rwa [render] at hc)
  | .garbled _, h, _, _ => h.elim
  | .cut, h, _, _ => h.elim
  | .arr items, h, c, hc => by
    simp only [render, List.cons_append, List.mem_cons, List.mem_append, List.not_mem_nil,
      or_false] at hc
    rcases hc with rfl | hc | rfl
    · decide
    · exact lt_of_mem_renderItems items h c hc
    · decide
  | .obj members, h, c, hc => by
    simp only [render, List.cons_append, List.mem_cons, List.mem_append, List.not_mem_nil,
      or_false] at hc
    rcases hc with rfl | hc | rfl
    · decide
    · exact lt_of_mem_renderMembers members h c hc
    · decide

theorem lt_of_mem_renderItems : ∀ (js : List Json), ItemsText IsAscii js →
    ∀ c ∈ renderItems js, c.toNat < 128
  | [], _, c, hc => by cases hc
  | [j], h, c, hc => lt_of_mem_render j h.1 c (by rwa [renderItems] at hc)
  | j :: k :: js, h, c, hc => by
    simp only [renderItems, List.mem_append, List.mem_cons] at hc
    rcases hc with hc | rfl | hc
    · exact lt_of_mem_render j h.1 c hc
    · decide
    · exact lt_of_mem_renderItems (k :: js) h.2 c hc

theorem lt_of_mem_renderMembers : ∀ (ms : List (Option String × Json)), MembersText IsAscii ms →
    ∀ c ∈ renderMembers ms, c.toNat < 128
  | [], _, c, hc => by cases hc
  | [(k, j)], h, c, hc => by
    obtain ⟨⟨s, rfl, hs⟩, hj, -⟩ := h
    simp only [renderMembers, Option.getD_some, List.mem_append, List.mem_cons] at hc
    rcases hc with hc | rfl | hc
    · exact lt_of_mem_quote hs hc
    · decide
    · exact lt_of_mem_render j hj c hc
  | (k, j) :: m :: ms, h, c, hc => by
    obtain ⟨⟨s, rfl, hs⟩, hj, hms⟩ := h
    simp only [renderMembers, Option.getD_some, List.mem_append, List.mem_cons, List.append_assoc,
      List.cons_append] at hc
    rcases hc with hc | rfl | hc | rfl | hc
    · exact lt_of_mem_quote hs hc
    · decide
    · exact lt_of_mem_render j hj c hc
    · decide
    · exact lt_of_mem_renderMembers (m :: ms) hms c hc

end

theorem isAscii_compact {j : Json} (h : AllText IsAscii j) : IsAscii j.compact := by
  intro c hc
  rw [compact, String.toList_ofList] at hc
  exact lt_of_mem_render j h c hc

/-- A value whose strings are ASCII is read back from the octets of its compact form. -/
theorem parseOctets?_compact {j : Json} (h : AllText IsAscii j) :
    parseOctets? (Bytes.ofString j.compact) = some j := by
  have hc : (Bytes.ofString j.compact).map (fun o => Char.ofNat o.toNat) = j.render := by
    have := Bytes.chars_ofString (isAscii_compact h)
    rwa [compact, String.toList_ofList] at this
  rw [parseOctets?, hc]
  exact parseBy?_render (fun s hs => octetText_pieces hs) h

end Gatehouse.Json
