import CodeGraph.Text.Basic

/-!
# Double precision numbers and their decimal texts

A double is kept as its bit pattern, so that equality of records that hold one stays decidable.
Its exact value is a whole number times a power of two; every decimal text is computed from that
value in whole-number arithmetic.

## Main definitions

* `Double.fixed`: a fixed number of places, an exact half going to the even neighbour.
* `Double.shortest`: the fewest digits that read back, with an exponent outside `1e-4 ... 1e16`.
* `Double.ofDecimal`, `Double.ratio`: reading and dividing.
-/

namespace CodeGraph

/-- A double precision number, by its bit pattern. -/
structure Double where
  bits : UInt64
deriving DecidableEq, Repr, Inhabited

namespace Double

/-- The number as a machine float. -/
def toFloat (d : Double) : Float :=
  Float.ofBits d.bits

/-- The bit pattern of a machine float. -/
def ofFloat (f : Float) : Double :=
  ⟨f.toBits⟩

/--
The double nearest to `mantissa * 10 ^ exponent`. Far beyond the range of doubles this is an infinity
or zero, whatever the digits are; the mantissa lies between powers of ten read off its binary length.
-/
def ofDecimal (negative : Bool) (mantissa : Nat) (exponent : Int) : Double :=
  let length : Int := mantissa.log2
  let magnitude :=
    if mantissa = 0 || exponent + length / 3 < -330 then 0
    else if 310 ≤ exponent + 3 * length / 10 then 1.0 / 0.0
    else Float.ofScientific mantissa (exponent < 0) exponent.natAbs
  ofFloat (if negative then -magnitude else magnitude)

/-- The double nearest to a whole number. -/
def ofInt (n : Int) : Double :=
  ofDecimal (n < 0) n.natAbs 0

/-- The quotient of two counts, and zero for a zero divisor. -/
def ratio (part whole : Nat) : Double :=
  if whole = 0 then ofInt 0
  else ofFloat ((ofInt part).toFloat / (ofInt whole).toFloat)

/-- Whether one number is less than another; nothing is less than a NaN, nor the other way round. -/
def isLess (a b : Double) : Bool :=
  a.toFloat < b.toFloat

/-- The number times a hundred. -/
def hundredfold (d : Double) : Double :=
  ofFloat (d.toFloat * 100)

/-- The sign bit. -/
def isNegative (d : Double) : Bool :=
  d.bits >>> 63 == 1

/-- The eleven exponent bits. -/
def exponentBits (d : Double) : Nat :=
  ((d.bits >>> 52) &&& 0x7FF).toNat

/-- The fifty-two fraction bits. -/
def fractionBits (d : Double) : Nat :=
  (d.bits &&& 0xFFFFFFFFFFFFF).toNat

/-- Neither an infinity nor a NaN. -/
def isFinite (d : Double) : Bool :=
  d.exponentBits ≠ 2047

/-- A NaN. -/
def isNaN (d : Double) : Bool :=
  d.exponentBits = 2047 && d.fractionBits ≠ 0

/-- Positive or negative zero. -/
def isZero (d : Double) : Bool :=
  d.exponentBits = 0 && d.fractionBits = 0

/-- The whole number `m` of the exact magnitude `m * 2 ^ q`. -/
def significand (d : Double) : Nat :=
  if d.exponentBits = 0 then d.fractionBits else d.fractionBits + Nat.pow 2 52

/-- The exponent `q` of the exact magnitude `m * 2 ^ q`. -/
def scale (d : Double) : Int :=
  if d.exponentBits = 0 then -1074 else (d.exponentBits : Int) - 1075

/-- The exact magnitude as a fraction of whole numbers. -/
def fraction (d : Double) : Nat × Nat :=
  if 0 ≤ d.scale then (d.significand * Nat.pow 2 d.scale.toNat, 1)
  else (d.significand, Nat.pow 2 d.scale.natAbs)

/-- The whole number it is, unless it has a fractional part or is not finite. -/
def toInt? (d : Double) : Option Int :=
  let (num, den) := d.fraction
  if d.isFinite && num % den == 0 then
    some (if d.isNegative then -((num / den : Nat) : Int) else ((num / den : Nat) : Int))
  else none

/-- The greatest whole number that is not above it, unless it is not finite. -/
def floor? (d : Double) : Option Int :=
  let (num, den) := d.fraction
  if !d.isFinite then none
  else if d.isNegative then some (-(((num + den - 1) / den : Nat) : Int))
  else some ((num / den : Nat) : Int)

/-- The whole number before its fractional part, unless it is not finite. -/
def truncate? (d : Double) : Option Int :=
  let (num, den) := d.fraction
  let whole : Int := (num / den : Nat)
  if d.isFinite then some (if d.isNegative then -whole else whole) else none

/-- Three quarters of the number. -/
def threeQuarters (d : Double) : Double :=
  ofFloat (d.toFloat * 0.75)

/-- The nearest whole number to a quotient, an exact half going to the even one. -/
def roundDiv (num den : Nat) : Nat :=
  let q := num / den
  let r := num % den
  if 2 * r < den then q
  else if den < 2 * r then q + 1
  else if q % 2 = 0 then q else q + 1

/-- The nearest natural number that fifty-three binary digits can write, a half going to the even one. -/
def roundNat (n : Nat) : Nat :=
  let unit := Nat.pow 2 (n.log2 - 52)
  roundDiv n unit * unit

/--
Three quarters of a whole number in double arithmetic, without the fractional part: the number and
the product are rounded. A number beyond the range of doubles has none.
-/
def threeQuarters? (n : Int) : Option Int :=
  let rounded := roundNat n.natAbs
  if Nat.pow 2 1024 ≤ rounded then none
  else
    let quarters : Int := (roundNat (3 * rounded) / 4 : Nat)
    some (if n < 0 then -quarters else quarters)

/-- Texts of the numbers that have no decimal expansion. -/
def specialText (d : Double) : String :=
  if d.isNaN then "nan" else if d.isNegative then "-inf" else "inf"

/-- Decimal digits of a natural number. -/
def digits (n : Nat) : List Char :=
  Nat.toDigits 10 n

/-- The number with a fixed number of decimal places. -/
def fixed (places : Nat) (d : Double) : String :=
  if d.isFinite then
    let (num, den) := d.fraction
    let scaled := roundDiv (num * Nat.pow 10 places) den
    let ds := digits scaled
    let padded := List.replicate (places + 1 - ds.length) '0' ++ ds
    let whole := padded.take (padded.length - places)
    let part := padded.drop (padded.length - places)
    let sign := if d.isNegative then "-" else ""
    let tail := if places = 0 then "" else "." ++ String.ofList part
    sign ++ String.ofList whole ++ tail
  else d.specialText

/-- The number as a percentage with a fixed number of decimal places. -/
def percent (places : Nat) (d : Double) : String :=
  d.hundredfold.fixed places ++ "%"

/--
The interval of reals that round to the magnitude, as numerators over one denominator: the lower
end, the magnitude, the upper end, the denominator, and whether the ends belong to it.
-/
def interval (d : Double) : Nat × Nat × Nat × Nat × Bool :=
  let m := d.significand
  let even := m % 2 == 0
  let narrow := d.fractionBits = 0 && 1 < d.exponentBits
  -- quarter units of the last place keep all three numerators whole
  let low := if narrow then 4 * m - 1 else 4 * m - 2
  let high := 4 * m + 2
  let q := d.scale - 2
  if 0 ≤ q then
    let f := Nat.pow 2 q.toNat
    (low * f, 4 * m * f, high * f, 1, even)
  else (low, 4 * m, high, Nat.pow 2 q.natAbs, even)

/--
The nearest point of the grid of multiples of `10 ^ e` to the magnitude, if it rounds to the
magnitude: the grid neighbours below and above are tested, and of two hits the nearer one is taken,
for an exact half the even one.
-/
def gridPoint? (d : Double) (e : Int) : Option Nat :=
  let (low, mid, high, den, closed) := d.interval
  -- compare k * 10 ^ e with x / den by cross multiplication
  let up := if 0 ≤ e then Nat.pow 10 e.toNat else 1
  let down := if 0 ≤ e then 1 else Nat.pow 10 e.natAbs
  let unit := up * den
  let k := mid * down / unit
  let inside := fun k : Nat =>
    let x := k * unit
    if closed then low * down ≤ x && x ≤ high * down else low * down < x && x < high * down
  match inside k && 0 < k, inside (k + 1) with
  | true, true => some (roundDiv (mid * down) unit)
  | true, false => some k
  | false, true => some (k + 1)
  | false, false => none

/-- The largest `e` with `10 ^ e` at most the positive quotient `num / den`. -/
def decimalExponent (num den : Nat) : Int :=
  let estimate : Int := ((digits num).length : Int) - ((digits den).length : Int)
  let fits := fun e : Int =>
    if 0 ≤ e then Nat.pow 10 e.toNat * den ≤ num else den ≤ num * Nat.pow 10 e.natAbs
  if fits estimate then estimate else estimate - 1

/-- The shortest digits that read back as the magnitude, and the exponent of the last one. -/
def shortestDigits (d : Double) : Nat × Int :=
  let (num, den) := d.fraction
  let top := decimalExponent num den
  let found := (List.range 17).findSome? fun (i : Nat) =>
    (d.gridPoint? (top - (i : Int))).map fun k => (k, top - (i : Int))
  found.getD (num, 0)

/-- Drop trailing zeros of a digit string, counting them. -/
def dropZeros (ds : List Char) : List Char × Nat :=
  let kept := (ds.reverse.dropWhile (· = '0')).reverse
  (kept, ds.length - kept.length)

/--
The shortest text that reads back: positional notation while the decimal point falls from four
places before the digits to sixteen places after their first, always with a fractional part;
otherwise one digit before the point and a signed exponent of at least two digits.
-/
def shortest (d : Double) : String :=
  if !d.isFinite then d.specialText
  else
    let sign := if d.isNegative then "-" else ""
    if d.isZero then sign ++ "0.0"
    else
      let (k, e) := d.shortestDigits
      let (ds, zeros) := dropZeros (digits k)
      let e := e + zeros
      -- the decimal point stands after this many digits
      let point : Int := ds.length + e
      if -3 ≤ point && point ≤ 16 then
        if point ≤ 0 then
          sign ++ "0." ++ String.ofList (List.replicate point.natAbs '0' ++ ds)
        else if ds.length ≤ point.toNat then
          sign ++ String.ofList (ds ++ List.replicate (point.toNat - ds.length) '0') ++ ".0"
        else
          sign ++ String.ofList (ds.take point.toNat) ++ "." ++ String.ofList (ds.drop point.toNat)
      else
        let x := point - 1
        let exponent := Nat.toDigits 10 x.natAbs
        let padded := if exponent.length < 2 then '0' :: exponent else exponent
        let mark := if x < 0 then "e-" else "e+"
        let tail := if ds.length ≤ 1 then "" else "." ++ String.ofList (ds.drop 1)
        sign ++ String.ofList (ds.take 1) ++ tail ++ mark ++ String.ofList padded

end Double

end CodeGraph
