import Gatehouse.Proofs.Json.Literal

/-!
# A written value reads back

`parse?_compact`: a value that holds neither mark of reading is what its compact form is read as.

The reader is given how to make the text of a string from its parts. `scanValue_render` is about
any such way under which the strings of the value (`AllText`) read back, so it also covers reading
from octets (`parseBy?_render`). The induction is on the value; two units of fuel for each character
that is written are enough.
-/

namespace Gatehouse.Json

mutual

/-- Nothing inside is cut or garbled, and every string and key has a property. -/
def AllText (p : String → Prop) : Json → Prop
  | .str s => p s
  | .arr items => ItemsText p items
  | .obj members => MembersText p members
  | .garbled _ | .cut => False
  | .null | .bool _ | .num _ => True

/-- `AllText` of every item. -/
def ItemsText (p : String → Prop) : List Json → Prop
  | [] => True
  | j :: js => AllText p j ∧ ItemsText p js

/-- `AllText` of every member, which has a key with the property. -/
def MembersText (p : String → Prop) : List (Option String × Json) → Prop
  | [] => True
  | (k, j) :: ms => (∃ s, k = some s ∧ p s) ∧ AllText p j ∧ MembersText p ms

end

/-! ## Blanks -/

theorem skipSpace_cons {c : Char} (h : isSpace c = false) (cs : List Char) :
    skipSpace (c :: cs) = c :: cs := by
  simp [skipSpace, h]

theorem isSpace_of_isDigit {c : Char} (h : Ascii.isDigit c = true) : isSpace c = false := by
  simp only [Ascii.isDigit, Bool.and_eq_true, decide_eq_true_eq, Char.le_def] at h
  simp only [isSpace, Bool.or_eq_false_iff, beq_eq_false_iff_ne]
  refine ⟨⟨⟨?_, ?_⟩, ?_⟩, ?_⟩ <;> (rintro rfl; revert h; decide)

/-- What a value may begin with. -/
def startsValue (c : Char) : Bool :=
  c ∈ ['n', 't', 'f', '"', '[', '{', '-'] || Ascii.isDigit c

theorem isSpace_of_startsValue {c : Char} (h : startsValue c = true) : isSpace c = false := by
  simp only [startsValue, Bool.or_eq_true, decide_eq_true_eq] at h
  rcases h with h | h
  · simp only [List.mem_cons, List.not_mem_nil, or_false] at h
    rcases h with rfl | rfl | rfl | rfl | rfl | rfl | rfl <;> decide
  · exact isSpace_of_isDigit h

theorem ne_of_startsValue {c d : Char} (h : startsValue c = true) (hd : startsValue d = false) :
    c ≠ d := by
  rintro rfl
  rw [h] at hd
  cases hd

theorem head_quote (s : String) : ∃ cs, quote s = '"' :: cs := ⟨_, rfl⟩

/-- A written value begins with what a value may begin with. -/
theorem head_render {p : String → Prop} {j : Json} (h : AllText p j) (rest : List Char) :
    ∃ c cs, j.render ++ rest = c :: cs ∧ startsValue c = true := by
  cases j with
  | null => exact ⟨_, _, rfl, by decide⟩
  | bool b => cases b <;> exact ⟨_, _, rfl, by decide⟩
  | num n =>
    obtain ⟨c, cs, hc, hs⟩ := head?_render_number n rest
    refine ⟨c, cs, by rw [render, hc], ?_⟩
    rcases hs with rfl | hs
    · decide
    · simp [startsValue, hs]
  | str s =>
    obtain ⟨cs, hq⟩ := head_quote s
    exact ⟨'"', cs ++ rest, by rw [render, hq]; rfl, by decide⟩
  | garbled f => exact h.elim
  | arr items => exact ⟨'[', _, by rw [render]; rfl, by decide⟩
  | obj members => exact ⟨'{', _, by rw [render]; rfl, by decide⟩
  | cut => exact h.elim

theorem renderItems_cons (j : Json) {js : List Json} (h : js ≠ []) :
    renderItems (j :: js) = j.render ++ ',' :: renderItems js := by
  cases js with
  | nil => exact absurd rfl h
  | cons k js => rw [renderItems]

theorem renderMembers_cons (k : String) (j : Json) {ms : List (Option String × Json)}
    (h : ms ≠ []) :
    renderMembers ((some k, j) :: ms) =
      quote k ++ (':' :: (j.render ++ ',' :: renderMembers ms)) := by
  cases ms with
  | nil => exact absurd rfl h
  | cons m ms => simp [renderMembers]

theorem head_renderItems {p : String → Prop} {j : Json} (js : List Json) (h : AllText p j)
    (rest : List Char) :
    ∃ c cs, renderItems (j :: js) ++ rest = c :: cs ∧ startsValue c = true := by
  cases js with
  | nil => exact head_render h rest
  | cons k js =>
    obtain ⟨c, cs, hc, hs⟩ := head_render h (',' :: (renderItems (k :: js) ++ rest))
    exact ⟨c, cs, by rw [renderItems, List.append_assoc, List.cons_append, hc], hs⟩

theorem head_renderMembers (k : String) (j : Json) (ms : List (Option String × Json))
    (rest : List Char) : ∃ cs, renderMembers ((some k, j) :: ms) ++ rest = '"' :: cs := by
  obtain ⟨cs, hq⟩ := head_quote k
  cases ms <;> simp [renderMembers, hq]

/-! ## Reading what was written -/

section

variable {text : List Piece → Except Fault String} {p : String → Prop}

/-- A number does not begin like any other value. -/
theorem scanValue_number (n : Number) (fuel : Nat) {rest : List Char} (hr : EndsNumber rest) :
    scanValue text (fuel + 1) (n.render ++ rest) = (.num n, rest) := by
  have hn := scanNumber?_render n hr
  obtain ⟨c, cs, hc, hs⟩ := head?_render_number n rest
  have hsp : isSpace c = false := by
    rcases hs with rfl | hs
    · decide
    · exact isSpace_of_isDigit hs
  have hne : ∀ d, Ascii.isDigit d = false → d ≠ '-' → c ≠ d := by
    rintro d hd hm rfl
    rcases hs with rfl | hs
    · exact hm rfl
    · rw [hs] at hd; cases hd
  have h1 := hne 'n' (by decide) (by decide)
  have h2 := hne 't' (by decide) (by decide)
  have h3 := hne 'f' (by decide) (by decide)
  have h4 := hne '"' (by decide) (by decide)
  have h5 := hne '[' (by decide) (by decide)
  have h6 := hne '{' (by decide) (by decide)
  rw [hc] at hn ⊢
  rw [scanValue, skipSpace_cons hsp]
  split <;> first | (rename_i heq; exact absurd (List.cons.inj heq).1 ‹_›) | rw [hn]

theorem scanValue_string (hp : ∀ s, p s → text (s.toList.map pieceOf).reverse = .ok s)
    {s : String} (hs : p s) (fuel : Nat) (rest : List Char) :
    scanValue text (fuel + 1) (quote s ++ rest) = (.str s, rest) := by
  obtain ⟨body, hb, hscan⟩ := scanPieces_quote s rest
  rw [hb, scanValue, skipSpace_cons (by decide)]
  simp only [hscan, hp s hs]

mutual

theorem scanValue_render (hp : ∀ s, p s → text (s.toList.map pieceOf).reverse = .ok s) :
    ∀ (j : Json) (fuel : Nat) (rest : List Char), AllText p j → 2 * j.render.length ≤ fuel →
      EndsNumber rest → scanValue text fuel (j.render ++ rest) = (j, rest)
  | j, 0, rest, h, hf, _ => by
    obtain ⟨c, cs, hc, -⟩ := head_render h []
    rw [List.append_nil] at hc
    rw [hc] at hf
    simp at hf
  | .null, fuel + 1, rest, _, _, _ => rfl
  | .bool true, fuel + 1, rest, _, _, _ => rfl
  | .bool false, fuel + 1, rest, _, _, _ => rfl
  | .num n, fuel + 1, rest, _, _, hr => by
    rw [render]
    exact scanValue_number n fuel hr
  | .str s, fuel + 1, rest, h, _, _ => by
    rw [render]
    exact scanValue_string hp h fuel rest
  | .garbled _, _, _, h, _, _ => h.elim
  | .cut, _, _, h, _, _ => h.elim
  | .arr [], fuel + 1, rest, _, _, _ => by
    simp [render, renderItems, scanValue, skipSpace_cons, isSpace]
  | .arr (j :: js), fuel + 1, rest, h, hf, _ => by
    have hi := scanItems_render hp j js fuel rest h.1 h.2 (by
      simp only [render, List.length_cons, List.length_append] at hf
      simp only [List.length_nil] at hf
      omega)
    obtain ⟨c, cs, hc, hs⟩ := head_renderItems js h.1 (']' :: rest)
    have hb : c ≠ ']' := ne_of_startsValue hs (by decide)
    rw [hc] at hi
    simp only [render, List.cons_append, List.append_assoc, List.nil_append]
    rw [hc, scanValue, skipSpace_cons (by decide)]
    simp only [skipSpace_cons (isSpace_of_startsValue hs)]
    split
    · rename_i heq
      exact absurd (List.cons.inj heq).1 hb
    · rw [hi]
  | .obj [], fuel + 1, rest, _, _, _ => by
    simp [render, renderMembers, scanValue, skipSpace_cons, isSpace]
  | .obj ((k, j) :: ms), fuel + 1, rest, h, hf, _ => by
    obtain ⟨⟨s, rfl, hs⟩, hj, hms⟩ := h
    have hm := scanMembers_render hp s j ms fuel rest hs hj hms (by
      simp only [render, List.length_cons, List.length_append] at hf
      simp only [List.length_nil] at hf
      omega)
    obtain ⟨cs, hc⟩ := head_renderMembers s j ms ('}' :: rest)
    rw [hc] at hm
    simp only [render, List.cons_append, List.append_assoc, List.nil_append]
    rw [hc, scanValue, skipSpace_cons (by decide)]
    simp only [skipSpace_cons (show isSpace '"' = false by decide)]
    split
    · rename_i heq
      exact absurd (List.cons.inj heq).1 (by decide)
    · rw [hm]

theorem scanItems_render (hp : ∀ s, p s → text (s.toList.map pieceOf).reverse = .ok s) :
    ∀ (j : Json) (js : List Json) (fuel : Nat) (rest : List Char), AllText p j →
      ItemsText p js → 2 * (renderItems (j :: js)).length + 1 ≤ fuel →
      scanItems text fuel (renderItems (j :: js) ++ ']' :: rest) = (j :: js, rest)
  | _, _, 0, _, _, _, hf => by omega
  | j, [], fuel + 1, rest, hj, _, hf => by
    have hv := scanValue_render hp j fuel (']' :: rest) hj
      (by simp only [renderItems] at hf; omega)
      (by intro c hc; cases hc; decide)
    simp only [renderItems, scanItems]
    rw [hv]
    simp [skipSpace, isSpace]
  | j, k :: js, fuel + 1, rest, hj, hjs, hf => by
    rw [renderItems_cons j (by simp)] at hf ⊢
    simp only [List.length_append, List.length_cons] at hf
    have hv := scanValue_render hp j fuel (',' :: (renderItems (k :: js) ++ ']' :: rest)) hj
      (by omega) (by intro c hc; cases hc; decide)
    have hi := scanItems_render hp k js fuel rest hjs.1 hjs.2 (by omega)
    rw [List.append_assoc, List.cons_append, scanItems, hv]
    simp only [skipSpace_cons (show isSpace ',' = false by decide)]
    rw [hi]

theorem scanMembers_render (hp : ∀ s, p s → text (s.toList.map pieceOf).reverse = .ok s) :
    ∀ (k : String) (j : Json) (ms : List (Option String × Json)) (fuel : Nat) (rest : List Char),
      p k → AllText p j → MembersText p ms →
      2 * (renderMembers ((some k, j) :: ms)).length + 1 ≤ fuel →
      scanMembers text fuel (renderMembers ((some k, j) :: ms) ++ '}' :: rest) =
        ((some k, j) :: ms, rest)
  | _, _, _, 0, _, _, _, _, hf => by omega
  | k, j, [], fuel + 1, rest, hk, hj, _, hf => by
    have hv := scanValue_render hp j fuel ('}' :: rest) hj
      (by simp only [renderMembers, List.length_append, List.length_cons] at hf; omega)
      (by intro c hc; cases hc; decide)
    obtain ⟨body, hb, hscan⟩ := scanPieces_quote k (':' :: (j.render ++ '}' :: rest))
    have hq : renderMembers [(some k, j)] ++ '}' :: rest = '"' :: body := by
      rw [← hb]
      simp [renderMembers]
    rw [hq, scanMembers, skipSpace_cons (by decide)]
    simp only [hscan, hp k hk, skipSpace_cons (show isSpace ':' = false by decide)]
    rw [hv]
    simp [skipSpace, isSpace, Except.toOption]
  | k, j, (key, i) :: ms, fuel + 1, rest, hk, hj, hms, hf => by
    obtain ⟨⟨s, rfl, hs⟩, hi, hms⟩ := hms
    rw [renderMembers_cons k j (by simp)] at hf ⊢
    simp only [List.length_append, List.length_cons] at hf
    have hv := scanValue_render hp j fuel
      (',' :: (renderMembers ((some s, i) :: ms) ++ '}' :: rest)) hj (by omega)
      (by intro c hc; cases hc; decide)
    have hm := scanMembers_render hp s i ms fuel rest hs hi hms (by omega)
    obtain ⟨body, hb, hscan⟩ := scanPieces_quote k
      (':' :: (j.render ++ ',' :: (renderMembers ((some s, i) :: ms) ++ '}' :: rest)))
    have hq : quote k ++ (':' :: (j.render ++ ',' :: renderMembers ((some s, i) :: ms))) ++
        '}' :: rest = '"' :: body := by
      rw [← hb]
      simp
    rw [hq, scanMembers, skipSpace_cons (by decide)]
    simp only [hscan, hp k hk, skipSpace_cons (show isSpace ':' = false by decide)]
    rw [hv]
    simp only [skipSpace_cons (show isSpace ',' = false by decide)]
    rw [hm]
    rfl

end

mutual

theorem isWhole_of_allText : ∀ j : Json, AllText p j → j.isWhole = true
  | .null, _ | .bool _, _ | .num _, _ | .str _, _ => rfl
  | .garbled _, _ => rfl
  | .cut, h => h.elim
  | .arr items, h => by rw [isWhole]; exact itemsWhole_of_itemsText items h
  | .obj members, h => by rw [isWhole]; exact membersWhole_of_membersText members h

theorem itemsWhole_of_itemsText : ∀ js : List Json, ItemsText p js → itemsWhole js = true
  | [], _ => rfl
  | j :: js, h => by
    rw [itemsWhole, isWhole_of_allText j h.1, itemsWhole_of_itemsText js h.2, Bool.and_self]

theorem membersWhole_of_membersText :
    ∀ ms : List (Option String × Json), MembersText p ms → membersWhole ms = true
  | [], _ => rfl
  | (_, j) :: ms, h => by
    rw [membersWhole, isWhole_of_allText j h.2.1, membersWhole_of_membersText ms h.2.2,
      Bool.and_self]

end

theorem parseBy?_render (hp : ∀ s, p s → text (s.toList.map pieceOf).reverse = .ok s) {j : Json}
    (h : AllText p j) : parseBy? text j.render = some j := by
  have hv := scanValue_render hp j (2 * j.render.length + 2) [] h (by omega) endsNumber_nil
  rw [List.append_nil] at hv
  rw [parseBy?, hv]
  simp [isWhole_of_allText j h, skipSpace]

end

/-- A value without marks of reading is read back from its compact form. -/
theorem parse?_compact {j : Json} (h : AllText (fun _ => True) j) : parse? j.compact = some j := by
  rw [parse?, compact, String.toList_ofList]
  exact parseBy?_render (fun s _ => charText_pieces s) h

end Gatehouse.Json
