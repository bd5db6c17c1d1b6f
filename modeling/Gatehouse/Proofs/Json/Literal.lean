import Gatehouse.Json.Printer
import Gatehouse.Json.Reader

/-!
# Literals read back

What the printer writes for a string or a number, the reader reads as that string or number, and it
leaves the text after it alone.

* `scanPieces_quote`: the parts of a quoted string are those of its characters (`pieceOf`).
* `charText_pieces`: these parts spell the string, whatever characters it has.
* `scanNumber?_render`: the spelling of a number, unless what follows could belong to it
  (`EndsNumber`).
-/

namespace Gatehouse.Json

/-! ## Strings -/

/-- The characters with an escape of two letters. -/
def shortEscapes : List Char := ['"', '\\', '\x08', '\x0c', '\n', '\r', '\t']

/-- The part of a literal that a character is written as. -/
def pieceOf (c : Char) : Piece :=
  if c.toNat < 32 ∧ c ∉ shortEscapes then .unit c.toNat else .char c

theorem hexUnit?_control {n : Nat} (h : n < 32) :
    hexUnit? '0' '0' (Ascii.hexDigit (Ascii.nibble (n / 16))) (Ascii.hexDigit (Ascii.nibble n)) =
      some n := by
  have h0 : Ascii.hexValue? '0' = some 0 := by decide
  simp only [hexUnit?, h0, Ascii.hexValue?_hexDigit, Option.bind_eq_bind, Option.bind_some,
    Ascii.nibble, Fin.ofNat, Option.pure_def, Option.some.injEq]
  omega

theorem scanPieces_short (c e : Char) (h : unescape? e = some c) (seen : List Piece)
    (rest : List Char) :
    scanPieces seen ('\\' :: e :: rest) = scanPieces (.char c :: seen) rest := by
  have hu : e ≠ 'u' := by rintro rfl; simp [unescape?] at h
  rw [scanPieces.eq_def]
  split <;> grind

theorem scanPieces_plain (c : Char) (hq : c ≠ '"') (hb : c ≠ '\\') (h : ¬c.toNat < 32)
    (seen : List Piece) (rest : List Char) :
    scanPieces seen (c :: rest) = scanPieces (.char c :: seen) rest := by
  rw [scanPieces.eq_def]
  split <;> grind

theorem scanPieces_escapeChar (c : Char) (seen : List Piece) (rest : List Char) :
    scanPieces seen (escapeChar c ++ rest) = scanPieces (pieceOf c :: seen) rest := by
  by_cases hs : c ∈ shortEscapes
  · have hp : pieceOf c = .char c := by simp [pieceOf, hs]
    rw [hp]
    simp only [shortEscapes, List.mem_cons, List.not_mem_nil, or_false] at hs
    rcases hs with rfl | rfl | rfl | rfl | rfl | rfl | rfl
    all_goals exact scanPieces_short _ _ rfl seen rest
  · have hne : c ≠ '"' ∧ c ≠ '\\' ∧ c ≠ '\x08' ∧ c ≠ '\x0c' ∧ c ≠ '\n' ∧ c ≠ '\r' ∧ c ≠ '\t' := by
      simpa [shortEscapes] using hs
    obtain ⟨h1, h2, h3, h4, h5, h6, h7⟩ := hne
    by_cases hc : c.toNat < 32
    · simp only [escapeChar, h1, h2, h3, h4, h5, h6, h7, hc, if_true, if_false, List.cons_append,
        List.nil_append, pieceOf, hs, not_false_eq_true, and_self]
      rw [scanPieces, hexUnit?_control hc]
    · simp only [escapeChar, h1, h2, h3, h4, h5, h6, h7, hc, if_false, List.cons_append,
        List.nil_append, pieceOf, false_and]
      exact scanPieces_plain c h1 h2 hc seen rest

theorem scanPieces_flatMap (cs : List Char) (seen : List Piece) (rest : List Char) :
    scanPieces seen (cs.flatMap escapeChar ++ '"' :: rest) =
      some ((cs.map pieceOf).reverse ++ seen, rest) := by
  induction cs generalizing seen with
  | nil => simp [scanPieces]
  | cons c cs ih =>
    rw [List.flatMap_cons, List.append_assoc, scanPieces_escapeChar, ih]
    simp

/-- The parts of a quoted string, latest first, after its opening quote. -/
theorem scanPieces_quote (s : String) (rest : List Char) :
    ∃ body, quote s ++ rest = '"' :: body ∧
      scanPieces [] body = some ((s.toList.map pieceOf).reverse, rest) :=
  ⟨s.toList.flatMap escapeChar ++ '"' :: rest, by simp [quote], by
    rw [scanPieces_flatMap, List.append_nil]⟩

/-- What a character becomes when the parts of a literal are joined. -/
def joined {β : Type} (raw coded : Char → β) (c : Char) : β :=
  if c.toNat < 32 ∧ c ∉ shortEscapes then coded c else raw c

theorem not_surrogate {n : Nat} (h : n < 32) :
    isLowSurrogate n = false ∧ isHighSurrogate n = false := by
  simp only [isLowSurrogate, isHighSurrogate, Bool.and_eq_false_iff, decide_eq_false_iff_not]
  omega

theorem joinPieces_pieceOf {β : Type} (raw coded : Char → β) (cs : List Char) (after : List β) :
    joinPieces raw coded after (cs.map pieceOf) =
      some ((cs.map (joined raw coded)).reverse ++ after) := by
  induction cs generalizing after with
  | nil => simp [joinPieces]
  | cons c cs ih =>
    rw [List.map_cons, List.map_cons, List.reverse_cons, List.append_assoc]
    by_cases h : c.toNat < 32 ∧ c ∉ shortEscapes
    · have hp : pieceOf c = .unit c.toNat := if_pos h
      have hj : joined raw coded c = coded c := if_pos h
      obtain ⟨hl, hh⟩ := not_surrogate h.1
      have hc : Char.ofNat c.toNat = c := Char.ofNat_toNat c
      have ih := ih (coded c :: after)
      rw [hp, hj, joinPieces.eq_def]
      -- A unit that is no surrogate is taken alone, whatever stands before it.
      split <;> grind
    · have hp : pieceOf c = .char c := if_neg h
      have hj : joined raw coded c = raw c := if_neg h
      rw [hp, hj, joinPieces, ih]
      rfl

theorem charText_pieces (s : String) : charText (s.toList.map pieceOf).reverse = .ok s := by
  have hj : joined (id : Char → Char) id = id := by funext c; simp [joined]
  rw [charText, ← List.map_reverse, joinPieces_pieceOf, hj]
  simp

/-! ## Numbers -/

/-- A text that cannot continue a number. -/
def EndsNumber (rest : List Char) : Prop :=
  ∀ c ∈ rest.head?, Ascii.isDigit c = false ∧ c ≠ '.' ∧ c ≠ 'e' ∧ c ≠ 'E'

theorem endsNumber_nil : EndsNumber [] := by
  intro c h
  cases h

theorem isDigit_of_mem_toDigits {n : Nat} {c : Char} (h : c ∈ Nat.toDigits 10 n) :
    Ascii.isDigit c = true := by
  have := Nat.isDigit_of_mem_toDigits (by decide) (by decide) h
  simpa [Ascii.isDigit, Char.isDigit, Char.le_def] using this

theorem takeDigits_append {ds rest : List Char} (hd : ∀ c ∈ ds, Ascii.isDigit c = true)
    (hr : ∀ c ∈ rest.head?, Ascii.isDigit c = false) : takeDigits (ds ++ rest) = (ds, rest) := by
  have ht : rest.takeWhile Ascii.isDigit = [] := by
    cases rest with
    | nil => rfl
    | cons c cs => simp [hr c rfl]
  have hw : rest.dropWhile Ascii.isDigit = rest := by
    cases rest with
    | nil => rfl
    | cons c cs => simp [hr c rfl]
  rw [takeDigits, List.takeWhile_append_of_pos hd, List.dropWhile_append_of_pos hd, ht, hw,
    List.append_nil]

theorem toDigits_ne_zero_cons {n : Nat} (h : n ≠ 0) (cs : List Char) :
    Nat.toDigits 10 n ≠ '0' :: cs := by
  induction n using Nat.strongRecOn generalizing cs with
  | _ n ih =>
    rw [Nat.toDigits_eq_if (by decide)]
    split
    · rename_i hlt
      simp [h]
    · rename_i hlt
      have hd : n / 10 ≠ 0 := by omega
      intro he
      cases hr : Nat.toDigits 10 (n / 10) with
      | nil => exact Nat.toDigits_ne_nil hr
      | cons d ds =>
        rw [hr, List.cons_append, List.cons.injEq] at he
        exact ih (n / 10) (by omega) hd ds (hr.trans (by rw [he.1]))

theorem scanWhole?_toDigits (n : Nat) {rest : List Char}
    (hr : ∀ c ∈ rest.head?, Ascii.isDigit c = false) :
    scanWhole? (Nat.toDigits 10 n ++ rest) = some (n, rest) := by
  have hv : Ascii.decimalValue (Nat.toDigits 10 n) = n := Nat.ofDigitChars_ten_toDigits
  rw [scanWhole?, takeDigits_append (fun c => isDigit_of_mem_toDigits) hr]
  split
  · rename_i h
    simp at h
  · rename_i d ds rest' h
    by_cases hn : n = 0
    · subst hn; simp at h
    · exact absurd (Prod.mk.inj h).1 (toDigits_ne_zero_cons hn _)
  · rename_i h
    obtain ⟨rfl, rfl⟩ := Prod.mk.inj h
    rw [hv]

theorem digit?_decimalDigit (d : Fin 10) : digit? (decimalDigit d) = some d := by
  revert d; decide

theorem isDigit_decimalDigit (d : Fin 10) : Ascii.isDigit (decimalDigit d) = true := by
  revert d; decide

/-- The point and the digits after it, as they are written. -/
def fractionText (ds : List (Fin 10)) : List Char :=
  if ds = [] then [] else '.' :: ds.map decimalDigit

/-- The power of ten, as it is written. -/
def exponentText : Option Int → List Char
  | none => []
  | some e => 'e' :: (if e < 0 then '-' else '+') :: Nat.toDigits 10 e.natAbs

theorem scanFraction?_fractionText (ds : List (Fin 10)) {rest : List Char}
    (hr : ∀ c ∈ rest.head?, Ascii.isDigit c = false ∧ c ≠ '.') :
    scanFraction? (fractionText ds ++ rest) = some (ds, rest) := by
  by_cases h : ds = []
  · subst h
    simp only [fractionText, if_true, List.nil_append]
    rw [scanFraction?.eq_def]
    split
    · rename_i cs
      exact absurd rfl (hr '.' rfl).2
    · rfl
  · have hd : ∀ c ∈ ds.map decimalDigit, Ascii.isDigit c = true := by
      intro c hc
      obtain ⟨d, -, rfl⟩ := List.mem_map.1 hc
      exact isDigit_decimalDigit d
    have hread : digit? ∘ decimalDigit = some := funext digit?_decimalDigit
    have hf : (ds.map decimalDigit).filterMap digit? = ds := by
      rw [List.filterMap_map, hread, List.filterMap_some]
    simp only [fractionText, h, if_false, List.cons_append]
    rw [scanFraction?, takeDigits_append hd fun c hc => (hr c hc).1]
    split
    · rename_i heq
      simp [h] at heq
    · rename_i heq
      obtain ⟨rfl, rfl⟩ := Prod.mk.inj heq
      rw [hf]

theorem scanPower?_toDigits (negative : Bool) (n : Nat) {rest : List Char}
    (hr : ∀ c ∈ rest.head?, Ascii.isDigit c = false) :
    scanPower? negative (Nat.toDigits 10 n ++ rest) =
      some (some (if negative then -(n : Int) else n), rest) := by
  have hv : Ascii.decimalValue (Nat.toDigits 10 n) = n := Nat.ofDigitChars_ten_toDigits
  rw [scanPower?, takeDigits_append (fun c => isDigit_of_mem_toDigits) hr]
  split
  · rename_i h
    simp at h
  · rename_i h
    obtain ⟨rfl, rfl⟩ := Prod.mk.inj h
    rw [hv]

theorem scanExponent?_exponentText (e : Option Int) {rest : List Char} (hr : EndsNumber rest) :
    scanExponent? (exponentText e ++ rest) = some (e, rest) := by
  cases e with
  | none =>
    cases rest with
    | nil => rfl
    | cons c cs =>
      obtain ⟨-, -, he, hE⟩ := hr c rfl
      simp [exponentText, scanExponent?, he, hE]
  | some e =>
    by_cases h : e < 0
    · have hi : -(e.natAbs : Int) = e := by omega
      simp only [exponentText, h, if_true, List.cons_append, scanExponent?, true_or]
      rw [scanPower?_toDigits true _ fun c hc => (hr c hc).1, if_pos rfl, hi]
    · have hi : (e.natAbs : Int) = e := by omega
      simp only [exponentText, h, if_false, List.cons_append, scanExponent?, true_or, if_true]
      rw [scanPower?_toDigits false _ fun c hc => (hr c hc).1, if_neg (by decide), hi]

theorem head?_exponentText (e : Option Int) {rest : List Char} (hr : EndsNumber rest) :
    ∀ c ∈ (exponentText e ++ rest).head?, Ascii.isDigit c = false ∧ c ≠ '.' := by
  intro c hc
  cases e with
  | none => exact ⟨(hr c hc).1, (hr c hc).2.1⟩
  | some e =>
    simp only [exponentText, List.cons_append, List.head?_cons, Option.mem_some_iff] at hc
    subst hc
    decide

theorem head?_fractionText (ds : List (Fin 10)) (e : Option Int) {rest : List Char}
    (hr : EndsNumber rest) :
    ∀ c ∈ (fractionText ds ++ (exponentText e ++ rest)).head?, Ascii.isDigit c = false := by
  intro c hc
  by_cases h : ds = []
  · exact (head?_exponentText e hr c (by simpa [fractionText, h] using hc)).1
  · simp only [fractionText, h, if_false, List.cons_append, List.head?_cons,
      Option.mem_some_iff] at hc
    subst hc
    decide

theorem scanUnsigned?_text (n : Number) {rest : List Char} (hr : EndsNumber rest) :
    scanUnsigned? n.negative
      (Nat.toDigits 10 n.whole ++ (fractionText n.fraction ++ (exponentText n.exponent ++ rest))) =
      some (n, rest) := by
  rw [scanUnsigned?, scanWhole?_toDigits _ (head?_fractionText n.fraction n.exponent hr)]
  simp only [Option.bind_eq_bind, Option.bind_some]
  rw [scanFraction?_fractionText _ (head?_exponentText n.exponent hr)]
  simp only [Option.bind_some]
  rw [scanExponent?_exponentText _ hr]
  rfl

theorem render_number (n : Number) (rest : List Char) :
    n.render ++ rest = (if n.negative then ['-'] else []) ++ (Nat.toDigits 10 n.whole ++
      (fractionText n.fraction ++ (exponentText n.exponent ++ rest))) := by
  cases he : n.exponent <;> simp [Number.render, fractionText, exponentText, he]

theorem scanNumber?_render (n : Number) {rest : List Char} (hr : EndsNumber rest) :
    scanNumber? (n.render ++ rest) = some (n, rest) := by
  rw [render_number]
  cases hs : n.negative with
  | true =>
    simp only [if_true, List.cons_append, List.nil_append, scanNumber?]
    rw [← hs]
    exact scanUnsigned?_text n hr
  | false =>
    rw [if_neg (by decide), List.nil_append, ← scanUnsigned?_text n hr, hs]
    cases hd : Nat.toDigits 10 n.whole with
    | nil => exact absurd hd Nat.toDigits_ne_nil
    | cons d ds =>
      have hdig : Ascii.isDigit d = true := isDigit_of_mem_toDigits (hd ▸ List.mem_cons_self)
      rw [List.cons_append, scanNumber?.eq_def]
      split
      · rename_i heq
        rw [(List.cons.inj heq).1] at hdig
        exact absurd hdig (by decide)
      · rfl

/-- The first character of a number: a minus sign or a digit. -/
theorem head?_render_number (n : Number) (rest : List Char) :
    ∃ c cs, n.render ++ rest = c :: cs ∧ (c = '-' ∨ Ascii.isDigit c = true) := by
  rw [render_number]
  cases hs : n.negative with
  | true => exact ⟨_, _, rfl, .inl rfl⟩
  | false =>
    cases hd : Nat.toDigits 10 n.whole with
    | nil => exact absurd hd Nat.toDigits_ne_nil
    | cons d ds =>
      exact ⟨d, _, rfl, .inr (isDigit_of_mem_toDigits (hd ▸ List.mem_cons_self))⟩

end Gatehouse.Json
