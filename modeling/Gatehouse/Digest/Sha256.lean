import Gatehouse.Text.Bytes

/-!
# SHA-256

The digest of FIPS 180-4 with 256 bits. `sha256` takes a byte string of any length to 32 octets;
the width is in its type.
-/

namespace Gatehouse.Digest

namespace Sha256

/-- The round constants: the first 32 bits of the fractional parts of the cube roots of the first 64
primes. -/
def roundConstants : Array UInt32 := #[
  0x428a2f98, 0x71374491, 0xb5c0fbcf, 0xe9b5dba5, 0x3956c25b, 0x59f111f1, 0x923f82a4, 0xab1c5ed5,
  0xd807aa98, 0x12835b01, 0x243185be, 0x550c7dc3, 0x72be5d74, 0x80deb1fe, 0x9bdc06a7, 0xc19bf174,
  0xe49b69c1, 0xefbe4786, 0x0fc19dc6, 0x240ca1cc, 0x2de92c6f, 0x4a7484aa, 0x5cb0a9dc, 0x76f988da,
  0x983e5152, 0xa831c66d, 0xb00327c8, 0xbf597fc7, 0xc6e00bf3, 0xd5a79147, 0x06ca6351, 0x14292967,
  0x27b70a85, 0x2e1b2138, 0x4d2c6dfc, 0x53380d13, 0x650a7354, 0x766a0abb, 0x81c2c92e, 0x92722c85,
  0xa2bfe8a1, 0xa81a664b, 0xc24b8b70, 0xc76c51a3, 0xd192e819, 0xd6990624, 0xf40e3585, 0x106aa070,
  0x19a4c116, 0x1e376c08, 0x2748774c, 0x34b0bcb5, 0x391c0cb3, 0x4ed8aa4a, 0x5b9cca4f, 0x682e6ff3,
  0x748f82ee, 0x78a5636f, 0x84c87814, 0x8cc70208, 0x90befffa, 0xa4506ceb, 0xbef9a3f7, 0xc67178f2]

/-- The chaining value: eight words. -/
structure State where
  a : UInt32
  b : UInt32
  c : UInt32
  d : UInt32
  e : UInt32
  f : UInt32
  g : UInt32
  h : UInt32

/-- The initial value: the first 32 bits of the fractional parts of the square roots of the first
eight primes. -/
def initial : State :=
  ⟨0x6a09e667, 0xbb67ae85, 0x3c6ef372, 0xa54ff53a, 0x510e527f, 0x9b05688c, 0x1f83d9ab, 0x5be0cd19⟩

/-- Rotation to the right. -/
def rotateRight (x : UInt32) (n : UInt32) : UInt32 :=
  (x >>> n) ||| (x <<< (32 - n))

/-- The small sigma that mixes the word fifteen back. -/
def smallSigma0 (x : UInt32) : UInt32 :=
  rotateRight x 7 ^^^ rotateRight x 18 ^^^ (x >>> 3)

/-- The small sigma that mixes the word two back. -/
def smallSigma1 (x : UInt32) : UInt32 :=
  rotateRight x 17 ^^^ rotateRight x 19 ^^^ (x >>> 10)

/-- The big sigma of the first word. -/
def bigSigma0 (x : UInt32) : UInt32 :=
  rotateRight x 2 ^^^ rotateRight x 13 ^^^ rotateRight x 22

/-- The big sigma of the fifth word. -/
def bigSigma1 (x : UInt32) : UInt32 :=
  rotateRight x 6 ^^^ rotateRight x 11 ^^^ rotateRight x 25

/-- The big-endian word at an offset. -/
def wordAt (data : ByteArray) (i : Nat) : UInt32 :=
  ((data[i]?.getD 0).toUInt32 <<< 24) ||| ((data[i + 1]?.getD 0).toUInt32 <<< 16) |||
    ((data[i + 2]?.getD 0).toUInt32 <<< 8) ||| (data[i + 3]?.getD 0).toUInt32

/-- The message schedule of the block at an offset: its sixteen words and 48 more, each from four
before it. -/
def schedule (data : ByteArray) (start : Nat) : Array UInt32 :=
  (List.range 64).foldl (fun w t =>
    if t < 16 then w.push (wordAt data (start + 4 * t))
    else
      w.push (smallSigma1 (w[t - 2]?.getD 0) + w[t - 7]?.getD 0 + smallSigma0 (w[t - 15]?.getD 0) +
        w[t - 16]?.getD 0)) (Array.emptyWithCapacity 64)

/-- One round. -/
def round (s : State) (k w : UInt32) : State :=
  let choice := (s.e &&& s.f) ^^^ ((s.e ^^^ 0xffffffff) &&& s.g)
  let majority := (s.a &&& s.b) ^^^ (s.a &&& s.c) ^^^ (s.b &&& s.c)
  let t₁ := s.h + bigSigma1 s.e + choice + k + w
  let t₂ := bigSigma0 s.a + majority
  ⟨t₁ + t₂, s.a, s.b, s.c, s.d + t₁, s.e, s.f, s.g⟩

/-- Absorbs the block at an offset. -/
def compress (data : ByteArray) (start : Nat) (s : State) : State :=
  let w := schedule data start
  let r := (List.range 64).foldl
    (fun r t => round r (roundConstants[t]?.getD 0) (w[t]?.getD 0)) s
  ⟨s.a + r.a, s.b + r.b, s.c + r.c, s.d + r.d, s.e + r.e, s.f + r.f, s.g + r.g, s.h + r.h⟩

/-- The octets of a number, most significant first. -/
def bigEndian (width n : Nat) : Bytes :=
  (List.range width).map fun i => UInt8.ofNat (n >>> (8 * (width - 1 - i)))

/-- The message with one bit, zeros, and its length in bits, up to a multiple of 64 octets. -/
def padMessage (message : Bytes) : Bytes :=
  message ++ 0x80 :: List.replicate ((119 - message.length % 64) % 64) 0 ++
    bigEndian 8 (8 * message.length)

/-- The octets of a word, most significant first. -/
def wordOctets (w : UInt32) : List UInt8 :=
  [(w >>> 24).toUInt8, (w >>> 16).toUInt8, (w >>> 8).toUInt8, w.toUInt8]

end Sha256

open Sha256 in
/-- The SHA-256 digest of a byte string, 32 octets. -/
def sha256 (message : Bytes) : Vector UInt8 32 :=
  let data : ByteArray := ⟨(padMessage message).toArray⟩
  let s := (List.range (data.size / 64)).foldl (fun s i => compress data (64 * i) s) initial
  ⟨(wordOctets s.a ++ wordOctets s.b ++ wordOctets s.c ++ wordOctets s.d ++ wordOctets s.e ++
    wordOctets s.f ++ wordOctets s.g ++ wordOctets s.h).toArray, by simp [wordOctets]⟩

end Gatehouse.Digest
