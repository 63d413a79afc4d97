import CodeGraph.Text.Quoted

/-!
# SHA-256

The digest that names contents and derives identifiers.

## Main definitions

* `Digest.sha256`: the eight result words for a sequence of bytes.
* `Digest.ofText`: the digest of a text's UTF-8 bytes in hexadecimal, 64 digits.
-/

namespace CodeGraph.Digest

/-- The round constants: fractional bits of the cube roots of the first 64 primes. -/
def roundConstants : Array UInt32 :=
  #[0x428a2f98, 0x71374491, 0xb5c0fbcf, 0xe9b5dba5, 0x3956c25b, 0x59f111f1, 0x923f82a4, 0xab1c5ed5,
    0xd807aa98, 0x12835b01, 0x243185be, 0x550c7dc3, 0x72be5d74, 0x80deb1fe, 0x9bdc06a7, 0xc19bf174,
    0xe49b69c1, 0xefbe4786, 0x0fc19dc6, 0x240ca1cc, 0x2de92c6f, 0x4a7484aa, 0x5cb0a9dc, 0x76f988da,
    0x983e5152, 0xa831c66d, 0xb00327c8, 0xbf597fc7, 0xc6e00bf3, 0xd5a79147, 0x06ca6351, 0x14292967,
    0x27b70a85, 0x2e1b2138, 0x4d2c6dfc, 0x53380d13, 0x650a7354, 0x766a0abb, 0x81c2c92e, 0x92722c85,
    0xa2bfe8a1, 0xa81a664b, 0xc24b8b70, 0xc76c51a3, 0xd192e819, 0xd6990624, 0xf40e3585, 0x106aa070,
    0x19a4c116, 0x1e376c08, 0x2748774c, 0x34b0bcb5, 0x391c0cb3, 0x4ed8aa4a, 0x5b9cca4f, 0x682e6ff3,
    0x748f82ee, 0x78a5636f, 0x84c87814, 0x8cc70208, 0x90befffa, 0xa4506ceb, 0xbef9a3f7, 0xc67178f2]

/-- The eight chaining words. -/
structure Words where
  a : UInt32
  b : UInt32
  c : UInt32
  d : UInt32
  e : UInt32
  f : UInt32
  g : UInt32
  h : UInt32

/-- The initial words: fractional bits of the square roots of the first eight primes. -/
def Words.initial : Words :=
  ⟨0x6a09e667, 0xbb67ae85, 0x3c6ef372, 0xa54ff53a, 0x510e527f, 0x9b05688c, 0x1f83d9ab, 0x5be0cd19⟩

/-- Word by word sum. -/
def Words.add (x y : Words) : Words :=
  ⟨x.a + y.a, x.b + y.b, x.c + y.c, x.d + y.d, x.e + y.e, x.f + y.f, x.g + y.g, x.h + y.h⟩

/-- The words in order. -/
def Words.toList (w : Words) : List UInt32 :=
  [w.a, w.b, w.c, w.d, w.e, w.f, w.g, w.h]

/-- Rotation to the right. -/
def rotate (x : UInt32) (n : UInt32) : UInt32 :=
  (x >>> n) ||| (x <<< (32 - n))

/-- The byte at a position, zero past the end. -/
def byteAt (bytes : ByteArray) (i : Nat) : UInt32 :=
  if h : i < bytes.size then bytes[i].toUInt32 else 0

/-- The 16 words of a block of 64 bytes that starts at an offset, big end first. -/
def blockWords (bytes : ByteArray) (offset : Nat) : Array UInt32 :=
  Array.ofFn fun i : Fin 16 =>
    let byte := fun k : Nat => byteAt bytes (offset + 4 * i.val + k)
    (byte 0 <<< 24) ||| (byte 1 <<< 16) ||| (byte 2 <<< 8) ||| byte 3

/-- Append the next word of the message schedule. -/
def extendSchedule (w : Array UInt32) : Array UInt32 :=
  let back := fun k : Nat => w.getD (w.size - k) 0
  let s0 := rotate (back 15) 7 ^^^ rotate (back 15) 18 ^^^ (back 15 >>> 3)
  let s1 := rotate (back 2) 17 ^^^ rotate (back 2) 19 ^^^ (back 2 >>> 10)
  w.push (back 16 + s0 + back 7 + s1)

/-- The 64 words of the message schedule of a block. -/
def schedule (bytes : ByteArray) (offset : Nat) : Array UInt32 :=
  (List.range 48).foldl (fun w _ => extendSchedule w) (blockWords bytes offset)

/-- One round of the compression function. -/
def round (constant word : UInt32) (s : Words) : Words :=
  let s1 := rotate s.e 6 ^^^ rotate s.e 11 ^^^ rotate s.e 25
  let choice := (s.e &&& s.f) ^^^ (~~~s.e &&& s.g)
  let t1 := s.h + s1 + choice + constant + word
  let s0 := rotate s.a 2 ^^^ rotate s.a 13 ^^^ rotate s.a 22
  let majority := (s.a &&& s.b) ^^^ (s.a &&& s.c) ^^^ (s.b &&& s.c)
  ⟨t1 + (s0 + majority), s.a, s.b, s.c, s.d + t1, s.e, s.f, s.g⟩

/-- Absorb one block. -/
def compress (s : Words) (bytes : ByteArray) (offset : Nat) : Words :=
  let w := schedule bytes offset
  let final := (List.range 64).foldl
    (fun r i => round (roundConstants.getD i 0) (w.getD i 0) r) s
  s.add final

/-- The message followed by a one bit, zeros, and its length in bits as 64 bits. -/
def pad (message : ByteArray) : ByteArray :=
  let zeros := (119 - message.size % 64) % 64
  let length := message.size * 8
  let filled := (List.range zeros).foldl (fun b _ => b.push 0) (message.push 0x80)
  (List.range 8).foldl (fun b i => b.push (length >>> (56 - 8 * i)).toUInt8) filled

/-- The SHA-256 digest of a sequence of bytes. -/
def sha256 (message : ByteArray) : Words :=
  let padded := pad message
  (List.range (padded.size / 64)).foldl (fun s i => compress s padded (64 * i)) Words.initial

/-- The digest of a text in hexadecimal. -/
def ofText (text : String) : String :=
  String.join ((sha256 text.toUTF8).toList.map fun w => Text.hexPadded 8 w.toNat)

end CodeGraph.Digest
