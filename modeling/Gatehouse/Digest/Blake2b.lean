import Gatehouse.Text.Bytes

/-!
# BLAKE2b

The digest of RFC 7693 on words of 64 bits, without a key, of any length up to 64 octets.
-/

namespace Gatehouse.Digest

namespace Blake2b

/-- The initial value, that of SHA-512. -/
def initial : Array UInt64 := #[
  0x6a09e667f3bcc908, 0xbb67ae8584caa73b, 0x3c6ef372fe94f82b, 0xa54ff53a5f1d36f1,
  0x510e527fade682d1, 0x9b05688c2b3e6c1f, 0x1f83d9abfb41bd6b, 0x5be0cd19137e2179]

/-- The order of the message words in each of ten rounds. -/
def sigma : Array (Array Nat) := #[
  #[0, 1, 2, 3, 4, 5, 6, 7, 8, 9, 10, 11, 12, 13, 14, 15],
  #[14, 10, 4, 8, 9, 15, 13, 6, 1, 12, 0, 2, 11, 7, 5, 3],
  #[11, 8, 12, 0, 5, 2, 15, 13, 10, 14, 3, 6, 7, 1, 9, 4],
  #[7, 9, 3, 1, 13, 12, 11, 14, 2, 6, 5, 10, 4, 0, 15, 8],
  #[9, 0, 5, 7, 2, 4, 10, 15, 14, 1, 11, 12, 6, 8, 3, 13],
  #[2, 12, 6, 10, 0, 11, 8, 3, 4, 13, 7, 5, 15, 14, 1, 9],
  #[12, 5, 1, 15, 14, 13, 4, 10, 0, 7, 6, 3, 9, 2, 8, 11],
  #[13, 11, 7, 14, 12, 1, 3, 9, 5, 0, 15, 4, 8, 6, 2, 10],
  #[6, 15, 14, 9, 11, 3, 0, 8, 12, 2, 13, 7, 1, 4, 10, 5],
  #[10, 2, 8, 4, 7, 6, 1, 5, 15, 11, 9, 14, 3, 12, 13, 0]]

/-- Rotation to the right. -/
@[inline] def rotateRight (x : UInt64) (n : UInt64) : UInt64 :=
  (x >>> n) ||| (x <<< (64 - n))

/-- Mixes two message words into the words at four places. -/
def mix (v : Array UInt64) (i j k l : Nat) (x y : UInt64) : Array UInt64 :=
  let a := v[i]?.getD 0 + v[j]?.getD 0 + x
  let d := rotateRight (v[l]?.getD 0 ^^^ a) 32
  let c := v[k]?.getD 0 + d
  let b := rotateRight (v[j]?.getD 0 ^^^ c) 24
  let a := a + b + y
  let d := rotateRight (d ^^^ a) 16
  let c := c + d
  let b := rotateRight (b ^^^ c) 63
  (((v.setIfInBounds i a).setIfInBounds j b).setIfInBounds k c).setIfInBounds l d

/-- One round: four columns, then four diagonals. -/
def round (m : Array UInt64) (v : Array UInt64) (order : Array Nat) : Array UInt64 :=
  let w := fun i => m[order[i]?.getD 0]?.getD 0
  let v := mix v 0 4 8 12 (w 0) (w 1)
  let v := mix v 1 5 9 13 (w 2) (w 3)
  let v := mix v 2 6 10 14 (w 4) (w 5)
  let v := mix v 3 7 11 15 (w 6) (w 7)
  let v := mix v 0 5 10 15 (w 8) (w 9)
  let v := mix v 1 6 11 12 (w 10) (w 11)
  let v := mix v 2 7 8 13 (w 12) (w 13)
  mix v 3 4 9 14 (w 14) (w 15)

/-- The little-endian word at an offset. -/
def wordAt (data : ByteArray) (start : Nat) : UInt64 :=
  (List.range 8).foldr (fun i w => (w <<< 8) ||| (data[start + i]?.getD 0).toUInt64) 0

/-- The octets of a word, least significant first. -/
def wordOctets (w : UInt64) : List UInt8 :=
  [w.toUInt8, (w >>> 8).toUInt8, (w >>> 16).toUInt8, (w >>> 24).toUInt8, (w >>> 32).toUInt8,
    (w >>> 40).toUInt8, (w >>> 48).toUInt8, (w >>> 56).toUInt8]

/-- Absorbs the block at an offset; `counter` octets have been absorbed with it. -/
def compress (data : ByteArray) (start counter : Nat) (last : Bool) (h : Array UInt64) :
    Array UInt64 :=
  let m := (List.range 16).foldl (fun m i => m.push (wordAt data (start + 8 * i)))
    (Array.emptyWithCapacity 16)
  let v := h ++ initial
  let v := v.modify 12 (· ^^^ UInt64.ofNat counter)
  let v := v.modify 13 (· ^^^ UInt64.ofNat (counter >>> 64))
  let v := if last then v.modify 14 (· ^^^ 0xffffffffffffffff) else v
  let v := sigma.foldl (round m) v
  let v := round m v (sigma[0]?.getD #[])
  let v := round m v (sigma[1]?.getD #[])
  (Array.range 8).map fun i => h[i]?.getD 0 ^^^ v[i]?.getD 0 ^^^ v[i + 8]?.getD 0

end Blake2b

open Blake2b in
/-- The BLAKE2b digest of a byte string, of the given length up to 64. -/
def blake2b (length : Nat) (message : Bytes) : Bytes :=
  let size := message.length
  let blocks := max 1 ((size + 127) / 128)
  let data : ByteArray := ⟨message.toArray⟩
  let h := initial.modify 0 (· ^^^ UInt64.ofNat (0x01010000 + length))
  let h := (List.range blocks).foldl
    (fun h i => compress data (128 * i) (min size (128 * (i + 1))) (i + 1 == blocks) h) h
  (h.toList.flatMap wordOctets).take length

end Gatehouse.Digest
