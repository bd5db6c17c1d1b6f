import Gatehouse.Text.Split

/-!
# Punycode

A label of any characters as ASCII: its ASCII characters, a hyphen, and numbers that say which other
characters stand where. The numbers are differences of code points and places, in digits of falling
weight whose thresholds follow the size of the numbers so far.
-/

namespace Gatehouse.Email.Punycode

/-! ## Digits and thresholds -/

/-- The digit of a value below 36: letters, then digits. -/
def digit (v : Nat) : Char :=
  Char.ofNat (if v < 26 then 97 + v else 22 + v)

/-- The value of a digit. -/
def value? (c : Char) : Option Nat :=
  let n := c.toNat
  if 97 ≤ n ∧ n ≤ 122 then some (n - 97)
  else if 48 ≤ n ∧ n ≤ 57 then some (n - 22)
  else none

/-- The bias of numbers around `delta`: each full set of digits that they need adds 36. -/
def scale (delta sets : Nat) : Nat :=
  if 455 < delta then scale (delta / 35) (sets + 36) else sets + 36 * delta / (delta + 38)
termination_by delta

/-- The bias for the next number: it follows the size of the numbers so far. -/
def adapt (delta count : Nat) (first : Bool) : Nat :=
  let delta := if first then delta / 700 else delta / 2
  scale (delta + delta / count) 0

/-- The threshold of the digit at a place. -/
def threshold (bias k : Nat) : Nat :=
  if k ≤ bias then 1 else min 26 (k - bias)

/-- The bias of the first number. -/
def initialBias : Nat := 72

/-- The first code point that is not ASCII. -/
def firstCode : Nat := 128

/-! ## Writing -/

/-- A number in digits of falling weight. -/
def number (bias k q : Nat) : List Char :=
  let t := threshold bias k
  if q < t then [digit q]
  else digit (t + (q - t) % (36 - t)) :: number bias (k + 36) ((q - t) / (36 - t))
termination_by q
decreasing_by
  have h : 1 ≤ threshold bias k := by unfold threshold; split <;> omega
  have := Nat.div_le_self (q - threshold bias k) (36 - threshold bias k)
  omega

/-- What has been written of a label. -/
structure State where
  /-- The steps since the last character written. -/
  delta : Nat
  /-- The bias of the next number. -/
  bias : Nat
  written : Nat
  /-- Whether no number has been written. -/
  first : Bool
  digits : List Char

/-- Goes over the label once for the character of code `n`. -/
def pass (n : Nat) (label : List Char) (s : State) : State :=
  label.foldl (fun s c =>
    if c.toNat < n then { s with delta := s.delta + 1 }
    else if c.toNat = n then
      { delta := 0, bias := adapt s.delta (s.written + 1) s.first, written := s.written + 1,
        first := false, digits := s.digits ++ number s.bias 36 s.delta }
    else s) s

/-- Writes the characters of the given codes, in rising order, after the code `last`. -/
def writeCodes (label : List Char) : (codes : List Nat) → (last : Nat) → State → State
  | [], _, s => s
  | n :: codes, last, s =>
    let s := { s with delta := s.delta + (n - last) * (s.written + 1) }
    let s := pass n label s
    writeCodes label codes (n + 1) { s with delta := s.delta + 1 }

/-- The Punycode form of a label. -/
def encode (label : List Char) : List Char :=
  let basic := label.filter (·.toNat < firstCode)
  let codes := ((label.filter (firstCode ≤ ·.toNat)).map (·.toNat)).mergeSort.eraseDups
  let s := writeCodes label codes firstCode ⟨0, initialBias, basic.length, true, []⟩
  (if basic = [] then [] else basic ++ ['-']) ++ s.digits

/-! ## Reading -/

/-- A number in digits of falling weight, and the text after it: the digit of weight `w` at a place
comes next. -/
def readNumber? (bias : Nat) : (k w : Nat) → List Char → Option (Nat × List Char)
  | _, _, [] => none
  | k, w, c :: cs => do
    let v ← value? c
    let t := threshold bias k
    if v < t then return (v * w, cs)
    else
      let (n, rest) ← readNumber? bias (k + 36) (w * (36 - t)) cs
      return (v * w + n, rest)

theorem length_readNumber? {bias k w : Nat} {cs rest : List Char} {n : Nat}
    (h : readNumber? bias k w cs = some (n, rest)) : rest.length < cs.length := by
  induction cs generalizing k w n rest with
  | nil => simp [readNumber?] at h
  | cons c cs ih =>
    simp only [readNumber?, Option.pure_def, Option.bind_eq_bind,
      Option.bind_eq_some_iff] at h
    obtain ⟨v, -, h⟩ := h
    split at h
    · simp only [Option.some.injEq, Prod.mk.injEq] at h
      simp [← h.2]
    · obtain ⟨⟨m, r⟩, hr, h⟩ := Option.bind_eq_some_iff.1 h
      simp only [Option.some.injEq, Prod.mk.injEq] at h
      have := ih hr
      simp only [List.length_cons, ← h.2]
      omega

/-- Puts the characters that the numbers tell into a label, the next one at place `i` or later with
a code of at least `n`. -/
def insertCodes? (label : List Char) (n i bias : Nat) (first : Bool) (digits : List Char) :
    Option (List Char) :=
  match digits with
  | [] => some label
  | d :: ds =>
    match h : readNumber? bias 36 1 (d :: ds) with
    | none => none
    | some (delta, rest) =>
      let count := label.length + 1
      let code := n + (i + delta) / count
      let place := (i + delta) % count
      if code.isValidChar then
        insertCodes? (label.insertIdx place (Char.ofNat code)) code (place + 1)
          (adapt delta count first) false rest
      else none
termination_by digits.length
decreasing_by simpa using length_readNumber? h

/-- The label of a Punycode form. -/
def decode? (form : List Char) : Option (List Char) :=
  match Text.lastPosition? '-' form with
  | some (n + 1) =>
    insertCodes? (form.take (n + 1)) firstCode 0 initialBias true (form.drop (n + 2))
  | some 0 | none => insertCodes? [] firstCode 0 initialBias true form

end Gatehouse.Email.Punycode
