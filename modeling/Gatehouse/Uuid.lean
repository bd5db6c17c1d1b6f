import Gatehouse.Text.Ascii

/-!
# Universally unique identifiers

An identifier is its 32 hexadecimal digits. `Uuid.text` writes them in five groups joined by
hyphens; `Uuid.parse?` also reads the 32 digits alone, the braced form and the URN form. Main
statements: `parse?_text`, so that distinct identifiers have distinct texts (`text_injective`), and
`length_text`.
-/

namespace Gatehouse

/-- A universally unique identifier: 32 hexadecimal digits, most significant first. -/
structure Uuid where
  digits : List (Fin 16)
  length_digits : digits.length = 32
  deriving DecidableEq, Repr

namespace Uuid

/-- The identifier of 32 zeros. -/
def nil : Uuid := ⟨List.replicate 32 (Ascii.nibble 0), rfl⟩

instance : Inhabited Uuid := ⟨nil⟩

/-- The sizes of the groups of digits in the hyphenated form. -/
def groupSizes : List Nat := [8, 4, 4, 4, 12]

/-- The number of digits in groups of the given sizes. -/
def digitCount : List Nat → Nat
  | [] => 0
  | n :: ns => n + digitCount ns

@[simp] theorem digitCount_nil : digitCount [] = 0 := rfl

@[simp] theorem digitCount_cons (n : Nat) (ns : List Nat) :
    digitCount (n :: ns) = n + digitCount ns := rfl

/-- Digits in groups of the given sizes, joined by hyphens. -/
def writeGroups : List Nat → List (Fin 16) → List Char
  | [], _ => []
  | [n], ds => (ds.take n).map Ascii.hexDigit
  | n :: m :: ns, ds => (ds.take n).map Ascii.hexDigit ++ '-' :: writeGroups (m :: ns) (ds.drop n)

/-- Reads groups of digits of exactly the given sizes, joined by hyphens. -/
def readGroups : List Nat → List Char → Option (List (Fin 16))
  | [], cs => if cs = [] then some [] else none
  | [n], cs => if cs.length = n then cs.mapM Ascii.hexValue? else none
  | n :: m :: ns, cs =>
    match cs.drop n with
    | '-' :: rest => do
      let first ← (cs.take n).mapM Ascii.hexValue?
      let others ← readGroups (m :: ns) rest
      return first ++ others
    | _ => none

/-- The hyphenated form, as characters. -/
def chars (u : Uuid) : List Char :=
  writeGroups groupSizes u.digits

/-- The hyphenated form in small letters. -/
def text (u : Uuid) : String :=
  String.ofList u.chars

/-- An identifier from digits, if there are 32. -/
def ofDigits? (ds : List (Fin 16)) : Option Uuid :=
  if h : ds.length = 32 then some ⟨ds, h⟩ else none

/-- The identifier whose digits spell a number, of which only the last 32 digits count. -/
def ofNat (n : Nat) : Uuid where
  digits := (List.range 32).map fun i => Ascii.nibble (n >>> (4 * (31 - i)))
  length_digits := by simp

/-- Reads the hyphenated form. -/
def hyphenated? (cs : List Char) : Option Uuid :=
  readGroups groupSizes cs >>= ofDigits?

/-- Reads 32 digits without hyphens. -/
def simple? (cs : List Char) : Option Uuid :=
  if cs.length = 32 then cs.mapM Ascii.hexValue? >>= ofDigits? else none

/-- Reads an identifier: hyphenated (36 characters), 32 digits alone, hyphenated in braces, or
hyphenated after `urn:uuid:` in any case. -/
def ofChars? (cs : List Char) : Option Uuid :=
  match cs.length with
  | 36 => hyphenated? cs
  | 32 => simple? cs
  | 38 =>
    if cs.head? = some '{' ∧ cs.getLast? = some '}' then hyphenated? (cs.drop 1).dropLast else none
  | 45 =>
    if (cs.take 9).map Ascii.lower = "urn:uuid:".toList then hyphenated? (cs.drop 9) else none
  | _ => none

/-- Reads an identifier from a text. -/
def parse? (s : String) : Option Uuid :=
  ofChars? s.toList

/-- The version digit, the thirteenth. -/
def version (u : Uuid) : Fin 16 :=
  (u.digits.drop 12).headD (Ascii.nibble 0)

/-- The random identifier (version 4) on the given digits: the thirteenth digit becomes 4, the top
bits of the seventeenth become `10`. -/
def random (u : Uuid) : Uuid where
  digits := (u.digits.set 12 (Ascii.nibble 4)).set 16
    (Ascii.nibble (8 + ((u.digits.drop 16).headD (Ascii.nibble 0)).val % 4))
  length_digits := by simp [u.length_digits]

theorem version_random (u : Uuid) : u.random.version = Ascii.nibble 4 := by
  have h16 : 12 < u.digits.length := by simp [u.length_digits]
  simp [version, random, List.headD_eq_head?_getD, List.head?_drop, h16]

/-! ## The hyphenated form reads back -/

theorem mapM_hexValue?_hexDigit (ds : List (Fin 16)) :
    (ds.map Ascii.hexDigit).mapM Ascii.hexValue? = some ds := by
  induction ds with
  | nil => rfl
  | cons d ds ih => simp [ih]

theorem readGroups_writeGroups (ns : List Nat) (ds : List (Fin 16))
    (h : ds.length = digitCount ns) :
    readGroups ns (writeGroups ns ds) = some ds := by
  induction ns generalizing ds with
  | nil => simp_all [readGroups, writeGroups]
  | cons n ns ih =>
    cases ns with
    | nil =>
      have hn : ds.length = n := by simpa using h
      have hall : (ds.take n) = ds := List.take_of_length_le (by omega)
      rw [readGroups, writeGroups, hall, mapM_hexValue?_hexDigit, if_pos (by simpa using hn)]
    | cons m ns =>
      have hle : n ≤ ds.length := by simp [h]
      have hlen : ((ds.take n).map Ascii.hexDigit).length = n := by simp [hle]
      have hrest := ih (ds.drop n) (by simp [h])
      have hdrop : (writeGroups (n :: m :: ns) ds).drop n =
          '-' :: writeGroups (m :: ns) (ds.drop n) := List.drop_left' hlen
      have htake : (writeGroups (n :: m :: ns) ds).take n =
          (ds.take n).map Ascii.hexDigit := List.take_left' hlen
      rw [readGroups, hdrop, htake]
      simp only [hrest, mapM_hexValue?_hexDigit]
      simp

theorem length_writeGroups (ns : List Nat) (ds : List (Fin 16)) (h : ds.length = digitCount ns) :
    (writeGroups ns ds).length = digitCount ns + (ns.length - 1) := by
  induction ns generalizing ds with
  | nil => simp [writeGroups]
  | cons n ns ih =>
    cases ns with
    | nil => simp_all [writeGroups]
    | cons m ns =>
      have hle : n ≤ ds.length := by simp [h]
      have hrest := ih (ds.drop n) (by simp [h])
      simp [writeGroups, hrest, hle]
      omega

@[simp] theorem length_chars (u : Uuid) : u.chars.length = 36 :=
  length_writeGroups groupSizes u.digits (by simp [u.length_digits, groupSizes])

@[simp] theorem ofChars?_chars (u : Uuid) : ofChars? u.chars = some u := by
  have h : readGroups groupSizes u.chars = some u.digits :=
    readGroups_writeGroups groupSizes u.digits (by simp [u.length_digits, groupSizes])
  simp [ofChars?, hyphenated?, h, ofDigits?, u.length_digits]

@[simp] theorem parse?_text (u : Uuid) : parse? u.text = some u := by
  simp [parse?, text]

theorem text_injective {u v : Uuid} (h : u.text = v.text) : u = v := by
  have := parse?_text u
  rw [h, parse?_text] at this
  exact (Option.some.inj this).symm

end Uuid

end Gatehouse
