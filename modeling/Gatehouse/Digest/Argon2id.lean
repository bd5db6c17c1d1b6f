import Gatehouse.Digest.Blake2b

/-!
# Argon2id

The memory-hard function of RFC 9106, version 0x13, with a secret and without associated data. A
memory of blocks of 1024 octets in `lanes` rows is filled in passes of four slices each; a block
mixes the one before it with one chosen by the passes' own pseudo-random order (the first half of
the first pass) or by the contents of the memory.
-/

namespace Gatehouse.Digest

/-- The cost of a derivation. -/
structure Argon2Cost where
  /-- The memory in blocks of 1024 octets. -/
  memory : Nat
  passes : Nat
  lanes : Nat
  deriving DecidableEq, Repr

namespace Argon2id

/-- A block: 128 words. -/
abbrev Block := Array UInt64

/-- The block of zeros. -/
def zeroBlock : Block := Array.replicate 128 0

/-- The octets of a number below 2^32, least significant first. -/
def littleEndian32 (n : Nat) : Bytes :=
  [UInt8.ofNat n, UInt8.ofNat (n / 256), UInt8.ofNat (n / 65536), UInt8.ofNat (n / 16777216)]

/-- A byte string with its length in front. -/
def counted (b : Bytes) : Bytes :=
  littleEndian32 b.length ++ b

/-- A digest of any length: short ones directly, longer ones from the front halves of a chain of
digests. -/
def longDigest (length : Nat) (message : Bytes) : Bytes :=
  if length ≤ 64 then blake2b length (littleEndian32 length ++ message)
  else
    let links := (length + 31) / 32 - 2
    let first := blake2b 64 (littleEndian32 length ++ message)
    let (out, v) := (List.range (links - 1)).foldl
      (fun (out, v) _ => let next := blake2b 64 v; (out ++ next.take 32, next))
      (first.take 32, first)
    out ++ blake2b (length - 32 * links) v

/-- The sum of two words and twice the product of their lower halves. -/
@[inline] def mulAdd (a b : UInt64) : UInt64 :=
  a + b + 2 * (a &&& 0xffffffff) * (b &&& 0xffffffff)

/-- Mixes the words at four places. -/
@[inline] def mix (v : Block) (i j k l : Nat) : Block :=
  let b := v[j]?.getD 0
  let a := mulAdd (v[i]?.getD 0) b
  let d := Blake2b.rotateRight (v[l]?.getD 0 ^^^ a) 32
  let c := mulAdd (v[k]?.getD 0) d
  let b := Blake2b.rotateRight (b ^^^ c) 24
  let a := mulAdd a b
  let d := Blake2b.rotateRight (d ^^^ a) 16
  let c := mulAdd c d
  let b := Blake2b.rotateRight (b ^^^ c) 63
  (((v.setIfInBounds i a).setIfInBounds j b).setIfInBounds k c).setIfInBounds l d

/-- Permutes sixteen words of a block: those at `start + pair * step` and the one after, for eight
pairs. -/
def permute (v : Block) (start step : Nat) : Block :=
  let place := fun i => start + i / 2 * step + i % 2
  let v := mix v (place 0) (place 4) (place 8) (place 12)
  let v := mix v (place 1) (place 5) (place 9) (place 13)
  let v := mix v (place 2) (place 6) (place 10) (place 14)
  let v := mix v (place 3) (place 7) (place 11) (place 15)
  let v := mix v (place 0) (place 5) (place 10) (place 15)
  let v := mix v (place 1) (place 6) (place 11) (place 12)
  let v := mix v (place 2) (place 7) (place 8) (place 13)
  mix v (place 3) (place 4) (place 9) (place 14)

/-- Word by word exclusive or. -/
def xor (x y : Block) : Block :=
  Array.zipWith (· ^^^ ·) x y

/-- Compresses two blocks: their exclusive or, permuted by rows and then by columns, and added once
more. -/
def compress (x y : Block) : Block :=
  let r := xor x y
  let z := (List.range 8).foldl (fun v i => permute v (16 * i) 2) r
  let z := (List.range 8).foldl (fun v i => permute v (2 * i) 16) z
  xor r z

/-- The words of 1024 octets. -/
def blockOf (b : Bytes) : Block :=
  let data : ByteArray := ⟨b.toArray⟩
  (Array.range 128).map fun i => Blake2b.wordAt data (8 * i)

/-- The octets of a block. -/
def octets (v : Block) : Bytes :=
  v.toList.flatMap Blake2b.wordOctets

/-- The shape of the memory: lanes, blocks of a lane, and passes. -/
structure Shape where
  lanes : Nat
  /-- The number of blocks of a lane. -/
  columns : Nat
  passes : Nat

/-- The blocks of a lane in one slice. -/
def Shape.segment (g : Shape) : Nat := g.columns / 4

/-- Where a block is made: pass, slice, lane and place within the slice. -/
structure Place where
  pass : Nat
  /-- The slice of the pass, 0 to 3. -/
  slice : Nat
  lane : Nat
  index : Nat

/-- The pseudo-random words for 128 places of a slice. -/
def addresses (g : Shape) (p : Place) (counter : Nat) : Block :=
  let z := [p.pass, p.lane, p.slice, g.lanes * g.columns, g.passes, 2, counter].map UInt64.ofNat
  let input : Block := (z ++ List.replicate 121 0).toArray
  compress zeroBlock (compress zeroBlock input)

/-- The lane and column of the block to mix in, chosen by a pseudo-random word. -/
def reference (g : Shape) (p : Place) (word : UInt64) : Nat × Nat :=
  let low := (word &&& 0xffffffff).toNat
  let high := (word >>> 32).toNat
  let lane := if p.pass = 0 ∧ p.slice = 0 then p.lane else high % g.lanes
  let finished := if p.pass = 0 then p.slice * g.segment else g.columns - g.segment
  let area :=
    if lane = p.lane then finished + p.index - 1
    else finished - (if p.index = 0 then 1 else 0)
  let fraction := (area * ((low * low) >>> 32)) >>> 32
  let start := if p.pass = 0 ∨ p.slice = 3 then 0 else (p.slice + 1) * g.segment
  (lane, (start + (area - 1 - fraction)) % g.columns)

/-- Fills one place of the memory; `known` holds the pseudo-random words if the order does not
depend on the memory. -/
def fillPlace (g : Shape) (p : Place) (known : Option Block) (memory : Array Block) :
    Array Block :=
  let column := p.slice * g.segment + p.index
  let row := p.lane * g.columns
  let before := memory[row + (column + g.columns - 1) % g.columns]?.getD zeroBlock
  let word := match known with
    | some words => words[p.index % 128]?.getD 0
    | none => before[0]?.getD 0
  let (lane, chosen) := reference g p word
  let made := compress before (memory[lane * g.columns + chosen]?.getD zeroBlock)
  let made := if p.pass = 0 then made else xor made (memory[row + column]?.getD zeroBlock)
  memory.setIfInBounds (row + column) made

/-- Fills the slice of a lane. The first two blocks of a lane are there before the first pass. -/
def fillSegment (g : Shape) (pass slice lane : Nat) (memory : Array Block) : Array Block :=
  let independent := pass = 0 ∧ slice < 2
  let first := if pass = 0 ∧ slice = 0 then 2 else 0
  let (_, memory) := (List.range g.segment).foldl (fun (words, memory) index =>
      if index < first then (words, memory)
      else
        let p : Place := ⟨pass, slice, lane, index⟩
        let words :=
          if independent ∧ (index % 128 = 0 ∨ index = first) then
            some (addresses g p (index / 128 + 1))
          else words
        (words, fillPlace g p words memory)) ((none : Option Block), memory)
  memory

/-- The first digest: the parameters and all inputs, each with its length. -/
def seed (cost : Argon2Cost) (length : Nat) (secret password salt : Bytes) : Bytes :=
  blake2b 64 (littleEndian32 cost.lanes ++ littleEndian32 length ++ littleEndian32 cost.memory ++
    littleEndian32 cost.passes ++ littleEndian32 0x13 ++ littleEndian32 2 ++ counted password ++
    counted salt ++ counted secret ++ counted [])

/-- The memory after all passes. -/
def fill (cost : Argon2Cost) (g : Shape) (h : Bytes) : Array Block :=
  let memory := (List.range g.lanes).foldl (fun memory lane =>
      let start := fun column =>
        blockOf (longDigest 1024 (h ++ littleEndian32 column ++ littleEndian32 lane))
      (memory.setIfInBounds (lane * g.columns) (start 0)).setIfInBounds (lane * g.columns + 1)
        (start 1))
    (Array.replicate (g.lanes * g.columns) zeroBlock)
  (List.range cost.passes).foldl (fun memory pass =>
    (List.range 4).foldl (fun memory slice =>
      (List.range g.lanes).foldl (fun memory lane => fillSegment g pass slice lane memory) memory)
      memory) memory

end Argon2id

open Argon2id in
/-- The octets derived from a password and a salt under a secret, of the given length. -/
def argon2id (cost : Argon2Cost) (length : Nat) (secret password salt : Bytes) : Bytes :=
  let columns := cost.memory / (4 * cost.lanes) * 4
  let g : Shape := ⟨cost.lanes, columns, cost.passes⟩
  let memory := fill cost g (seed cost length secret password salt)
  let last := (List.range g.lanes).foldl (fun x lane =>
    xor x (memory[lane * columns + columns - 1]?.getD zeroBlock)) zeroBlock
  longDigest length (octets last)

end Gatehouse.Digest
