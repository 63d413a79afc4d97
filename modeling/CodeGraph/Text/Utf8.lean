/-!
# UTF-8

Bytes of a text, and the forgiving way back: each maximal part of a byte sequence that cannot
begin or continue a code point becomes one replacement character.

## Main definitions

* `Utf8.decode`: bytes to text, replacing what is invalid.
* `Utf8.decode?`: bytes to text, if all of them are valid.
* `Utf8.size`: number of bytes of a text.
-/

namespace CodeGraph.Utf8

/-- Stands for a maximal invalid part. -/
def replacement : Char := Char.ofNat 0xFFFD

/-- Number of bytes that encode a text. -/
def size (s : String) : Nat :=
  s.utf8ByteSize

/-- Number of continuation bytes after a lead byte, with the range of the first one. -/
def lead? (b : UInt8) : Option (Nat × Nat × Nat) :=
  let n := b.toNat
  if 0xC2 ≤ n && n ≤ 0xDF then some (1, 0x80, 0xBF)
  else if n = 0xE0 then some (2, 0xA0, 0xBF)
  else if n = 0xED then some (2, 0x80, 0x9F)
  else if 0xE1 ≤ n && n ≤ 0xEF then some (2, 0x80, 0xBF)
  else if n = 0xF0 then some (3, 0x90, 0xBF)
  else if 0xF1 ≤ n && n ≤ 0xF3 then some (3, 0x80, 0xBF)
  else if n = 0xF4 then some (3, 0x80, 0x8F)
  else none

/-- The payload bits of a lead byte with the given number of continuation bytes. -/
def leadBits (b : UInt8) (continuations : Nat) : Nat :=
  b.toNat % Nat.pow 2 (6 - continuations)

/--
State of the decoder: the code points so far in reverse, and the code point under way as its bits,
the number of missing bytes and the range that the next one has to lie in.
-/
structure State where
  done : List Char := []
  valid : Bool := true
  bits : Nat := 0
  missing : Nat := 0
  low : Nat := 0x80
  high : Nat := 0xBF

/-- Give up the code point under way, if there is one. -/
def State.abandon (s : State) : State :=
  if s.missing = 0 then s
  else { done := replacement :: s.done, valid := false }

/-- Read a byte at the start of a code point. -/
def State.start (s : State) (b : UInt8) : State :=
  if b.toNat < 0x80 then { s with done := Char.ofNat b.toNat :: s.done }
  else match lead? b with
    | some (continuations, low, high) =>
      { s with bits := leadBits b continuations, missing := continuations, low, high }
    | none => { s with done := replacement :: s.done, valid := false }

/-- Read one byte. -/
def State.step (s : State) (b : UInt8) : State :=
  if s.missing = 0 then s.start b
  else if s.low ≤ b.toNat && b.toNat ≤ s.high then
    let bits := s.bits * 64 + b.toNat % 64
    if s.missing = 1 then { s with done := Char.ofNat bits :: s.done, missing := 0 }
    else { s with bits, missing := s.missing - 1, low := 0x80, high := 0xBF }
  else s.abandon.start b

/-- The decoder after a sequence of bytes. -/
def run (bytes : List UInt8) : State :=
  (bytes.foldl State.step {}).abandon

/-- The text that bytes encode, each maximal invalid part replaced. -/
def decode (bytes : ByteArray) : String :=
  String.ofList (run bytes.data.toList).done.reverse

/-- The text that bytes encode, if all of them are valid. -/
def decode? (bytes : ByteArray) : Option String :=
  let final := run bytes.data.toList
  if final.valid then some (String.ofList final.done.reverse) else none

end CodeGraph.Utf8
