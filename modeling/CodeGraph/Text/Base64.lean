/-!
# Bytes written in 64 letters

Each letter stands for six bits; the bits that fill whole bytes are kept. Padding and line breaks
count for nothing.
-/

namespace CodeGraph.Base64

/-- The six bits of a letter. -/
def value? (c : Char) : Option Nat :=
  if c.isUpper then some (c.toNat - 65)
  else if c.isLower then some (c.toNat - 97 + 26)
  else if c.isDigit then some (c.toNat - 48 + 52)
  else if c = '+' then some 62
  else if c = '/' then some 63
  else none

/-- The bytes of a list of letter values. -/
def bytesOf : List Nat → List UInt8
  | a :: b :: c :: d :: rest =>
    let n := a * 262144 + b * 4096 + c * 64 + d
    UInt8.ofNat (n / 65536) :: UInt8.ofNat (n / 256 % 256) :: UInt8.ofNat (n % 256) :: bytesOf rest
  | [a, b, c] =>
    let n := a * 262144 + b * 4096 + c * 64
    [UInt8.ofNat (n / 65536), UInt8.ofNat (n / 256 % 256)]
  | [a, b] => [UInt8.ofNat ((a * 262144 + b * 4096) / 65536)]
  | _ => []

/-- The bytes of a text. -/
def decode (s : String) : ByteArray :=
  ⟨(bytesOf (s.toList.filterMap value?)).toArray⟩

end CodeGraph.Base64
