import CodeGraph.Json.Fault
import CodeGraph.Number.Double
import CodeGraph.Text.CodeText

/-!
# Strings and numbers of JSON documents

## Main definitions

* `Json.readString`: a string, with its escapes.
* `Json.Numeral`, `Json.readNumeral?`: a number as it is written.
-/

namespace CodeGraph.Json

/-! ### Strings -/

/-- Value of a hexadecimal digit. -/
def hexValue? (c : Char) : Option Nat :=
  if '0' ≤ c && c ≤ '9' then some (c.toNat - 48)
  else if 'a' ≤ c && c ≤ 'f' then some (c.toNat - 87)
  else if 'A' ≤ c && c ≤ 'F' then some (c.toNat - 55)
  else none

/-- The number written by four hexadecimal digits at the front, which something must follow. -/
def fourHex? : List Char → Option (Nat × List Char)
  | a :: b :: c :: d :: e :: rest => do
    let a ← hexValue? a
    let b ← hexValue? b
    let c ← hexValue? c
    let d ← hexValue? d
    some (((a * 16 + b) * 16 + c) * 16 + d, e :: rest)
  | _ => none

/-- The code point of a one-letter escape. -/
def shortEscape? : Char → Option Char
  | '"' => some '"'
  | '\\' => some '\\'
  | '/' => some '/'
  | 'b' => some (Char.ofNat 8)
  | 'f' => some (Char.ofNat 12)
  | 'n' => some '\n'
  | 'r' => some '\r'
  | 't' => some '\t'
  | _ => none

/--
The rest of a `\u` escape after its first four digits: a high surrogate takes a following low one
with it.
-/
def pairEscape (unit : Nat) (rest : List Char) : Outcome Nat :=
  match rest with
  | '\\' :: 'u' :: digits =>
    if 0xD800 ≤ unit && unit ≤ 0xDBFF && 5 ≤ digits.length then
      match fourHex? digits with
      | some (low, rest') =>
        if 0xDC00 ≤ low && low ≤ 0xDFFF then
          .ok (0x10000 + (unit - 0xD800) * 0x400 + (low - 0xDC00), rest')
        else .ok (unit, rest)
      | none => .error ⟨.unicodeEscape, 'u' :: digits⟩
    else .ok (unit, rest)
  | _ => .ok (unit, rest)

/--
The body of a string up to its closing quote. `opening` is the document from the opening quote on,
`acc` the code points read so far in reverse, and the fuel bounds the code points left.
-/
def readString (opening : List Char) :
    (fuel : Nat) → (acc : List Nat) → List Char → Outcome CodeText
  | 0, _, _ => .error ⟨.unterminatedString, opening⟩
  | _ + 1, _, [] => .error ⟨.unterminatedString, opening⟩
  | fuel + 1, acc, c :: cs =>
    if c = '"' then .ok (⟨acc.reverse⟩, cs)
    else if c = '\\' then
      match cs with
      | [] => .error ⟨.unterminatedString, opening⟩
      | 'u' :: digits =>
        match fourHex? digits with
        | none => .error ⟨.unicodeEscape, cs⟩
        | some (unit, rest) =>
          match pairEscape unit rest with
          | .error e => .error e
          | .ok (point, rest') => readString opening fuel (point :: acc) rest'
      | e :: rest =>
        match shortEscape? e with
        | some ch => readString opening fuel (ch.toNat :: acc) rest
        | none => .error ⟨.escape, c :: cs⟩
    else if c.toNat ≤ 0x1F then .error ⟨.controlCharacter, c :: cs⟩
    else readString opening fuel (c.toNat :: acc) cs

/-! ### Numbers -/

/-- The number that a list of decimal digits writes. -/
def digitsValue (ds : List Char) : Nat :=
  ds.foldl (fun n c => n * 10 + (c.toNat - 48)) 0

/-- A number as it is written: sign, digits before and after the point, and exponent. -/
structure Numeral where
  negative : Bool
  whole : List Char
  part : List Char
  exponent : Option Int
deriving DecidableEq, Repr, Inhabited

/-- Whether a number is written without fraction and exponent. -/
def Numeral.isWhole (n : Numeral) : Bool :=
  n.part.isEmpty && n.exponent.isNone

/-- The whole number that is written. -/
def Numeral.toInt (n : Numeral) : Int :=
  let magnitude : Int := digitsValue n.whole
  if n.negative then -magnitude else magnitude

/-- The double nearest to what is written. -/
def Numeral.toDouble (n : Numeral) : Double :=
  Double.ofDecimal n.negative (digitsValue (n.whole ++ n.part)) (n.exponent.getD 0 - n.part.length)

/-- The fractional digits after a point, if there are any. -/
def readFraction (cs : List Char) : List Char × List Char :=
  match cs with
  | '.' :: rest =>
    let ds := rest.takeWhile Char.isDigit
    if ds.isEmpty then ([], cs) else (ds, rest.dropWhile Char.isDigit)
  | _ => ([], cs)

/-- The exponent, if there is one with digits. -/
def readExponent (cs : List Char) : Option Int × List Char :=
  match cs with
  | e :: rest =>
    if e = 'e' || e = 'E' then
      let (negative, body) := match rest with
        | '-' :: r => (true, r)
        | '+' :: r => (false, r)
        | r => (false, r)
      let ds := body.takeWhile Char.isDigit
      if ds.isEmpty then (none, cs)
      else
        let n : Int := digitsValue ds
        (some (if negative then -n else n), body.dropWhile Char.isDigit)
    else (none, cs)
  | [] => (none, cs)

/-- A number, or nothing if none starts here. -/
def readNumeral? (cs : List Char) : Option (Numeral × List Char) :=
  let (negative, body) := match cs with
    | '-' :: r => (true, r)
    | r => (false, r)
  let whole := match body with
    | '0' :: _ => ['0']
    | _ => body.takeWhile Char.isDigit
  if whole.isEmpty then none
  else
    let (part, rest) := readFraction (body.drop whole.length)
    let (exponent, rest) := readExponent rest
    some (⟨negative, whole, part, exponent⟩, rest)

end CodeGraph.Json
