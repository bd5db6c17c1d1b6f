import Gatehouse.Settings.Variables

/-!
# What the text of a variable becomes

The text of a variable is turned into a leaf (`Value.ofText`), and a leaf into the text of the
setting that it is for (`Value.text?`). This gives back the text of the variable if that is neither
one of a few words nor made of the characters of decimal numbers alone (`ofText_eq_text`).
-/

namespace Gatehouse.Settings

open Decimal (takeSign readInt64?)

/-- A character of a decimal number. -/
def isNumberChar (c : Char) : Bool :=
  Ascii.isDigit c || c == '+' || c == '-' || c == '.' || c == 'e' || c == 'E'

theorem isNumberChar_of_isDigit {c : Char} (h : Ascii.isDigit c = true) :
    isNumberChar c = true := by
  simp [isNumberChar, h]

/-- The words that are read as a truth value or a number, in small letters. -/
def valueWords : List String :=
  ["true", "false", "nan", "+nan", "-nan", "inf", "+inf", "-inf", "infinity", "+infinity",
    "-infinity"]

/-! ## Numbers in digits -/

/-- A sign is taken off the front of a text. -/
theorem eq_of_takeSign (cs : List Char) :
    ∃ sign, cs = sign ++ (takeSign cs).2 ∧ (sign = [] ∨ sign = ['+'] ∨ sign = ['-']) := by
  unfold takeSign
  split
  · exact ⟨['+'], rfl, .inr (.inl rfl)⟩
  · exact ⟨['-'], rfl, .inr (.inr rfl)⟩
  · exact ⟨[], rfl, .inl rfl⟩

/-- What remains after the sign decides whether all characters are those of a number. -/
theorem all_of_takeSign {cs : List Char} (h : (takeSign cs).2.all isNumberChar = true) :
    cs.all isNumberChar = true := by
  obtain ⟨sign, he, hs⟩ := eq_of_takeSign cs
  rw [he, List.all_append, h, Bool.and_true]
  rcases hs with rfl | rfl | rfl <;> rfl

theorem all_of_digits {cs : List Char} (h : cs.all Ascii.isDigit = true) :
    cs.all isNumberChar = true :=
  List.all_eq_true.2 fun c hc => isNumberChar_of_isDigit (List.all_eq_true.1 h c hc)

theorem all_of_readInt64? {cs : List Char} {i : Int} (h : readInt64? cs = some i) :
    cs.all isNumberChar = true := by
  simp only [readInt64?, Option.ite_none_right_eq_some] at h
  exact all_of_takeSign (all_of_digits h.1.2.1)

theorem all_of_readPower? {cs : List Char} {i : Int} (h : readPower? cs = some i) :
    cs.all isNumberChar = true := by
  cases cs with
  | nil => rfl
  | cons c cs =>
    simp only [readPower?, Option.ite_none_right_eq_some] at h
    obtain ⟨hc, -, hd⟩ := h.1
    rw [List.all_cons, all_of_takeSign (all_of_digits hd)]
    rcases hc with rfl | rfl <;> rfl

/-- A text that is read as a number is spelled by a word or by the characters of numbers. -/
theorem word_or_all_of_readReal? {cs : List Char} {x : Decimal.Binary64}
    (h : readReal? cs = some x) :
    String.ofList ((takeSign cs).2.map Ascii.lower) ∈ ["nan", "inf", "infinity"] ∨
      cs.all isNumberChar = true := by
  unfold readReal? at h
  dsimp only at h
  split at h
  · rename_i hw
    exact .inl (by simp [hw])
  · rename_i hw
    exact .inl (by simp [hw])
  · rename_i hw
    exact .inl (by simp [hw])
  refine .inr (all_of_takeSign ?_)
  generalize (takeSign cs).2 = ds at h ⊢
  have hwhole := List.prefix_iff_eq_append.1 (List.takeWhile_prefix (l := ds) Ascii.isDigit)
  rw [← hwhole, List.all_append, all_of_digits List.all_takeWhile, Bool.true_and]
  generalize ds.drop (ds.takeWhile Ascii.isDigit).length = rest at h ⊢
  split at h <;> split at h
  · cases h
  · -- a point, more digits, and the power
    rename_i after _
    obtain ⟨power, hp, -⟩ := Option.map_eq_some_iff.1 h
    rw [← List.takeWhile_append_dropWhile (p := Ascii.isDigit) (l := after), List.all_cons,
      List.all_append, all_of_digits List.all_takeWhile, all_of_readPower? hp]
    rfl
  · cases h
  · obtain ⟨power, hp, -⟩ := Option.map_eq_some_iff.1 h
    exact all_of_readPower? hp

/-- A word behind a sign is one of the words. -/
theorem mem_valueWords {s : String}
    (h : String.ofList ((takeSign s.toList).2.map Ascii.lower) ∈ ["nan", "inf", "infinity"]) :
    Ascii.lowerString s ∈ valueWords := by
  obtain ⟨sign, he, hs⟩ := eq_of_takeSign s.toList
  rw [Ascii.lowerString, he, List.map_append, String.ofList_append]
  simp only [List.mem_cons, List.not_mem_nil, or_false] at h
  rcases h with h | h | h <;> rw [h] <;> rcases hs with rfl | rfl | rfl <;> decide

/-! ## What a text becomes -/

/-- A text that is no word and has a character that no number has stays as it is. -/
theorem ofText_eq_text {s : String} (hw : Ascii.lowerString s ∉ valueWords)
    (hc : s.toList.all isNumberChar = false) : Value.ofText s = .text s := by
  unfold Value.ofText
  split
  · rename_i he
    exact absurd (he ▸ by decide) hw
  · rename_i he
    exact absurd (he ▸ by decide) hw
  · cases hi : readInt64? s.toList with
    | some i =>
      rw [all_of_readInt64? hi] at hc
      cases hc
    | none =>
      cases hr : readReal? s.toList with
      | none => rfl
      | some x =>
        obtain hword | hall := word_or_all_of_readReal? hr
        · exact absurd (mem_valueWords hword) hw
        · rw [hall] at hc
          cases hc

end Gatehouse.Settings
