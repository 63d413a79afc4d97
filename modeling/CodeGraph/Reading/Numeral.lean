import CodeGraph.Json.Lexeme
import CodeGraph.Text.Utf8

/-!
# Numbers written as text

The forgiving forms in which records and arguments write numbers: blanks around them, a plus sign,
zeros in front, a fraction of zeros after a whole number, and single underscores inside.

## Main definitions

* `Numeral.wholeNumber`: a whole number, or why there is none.
* `Numeral.number?`: a number.
-/

namespace CodeGraph.Numeral

/-- Why a text is not read as a whole number. -/
inductive Fault where
  | malformed
  | tooLong
deriving DecidableEq, Repr, Inhabited

/-- White space around numbers, as closed ranges in increasing order. -/
def spaceRanges : List (Nat × Nat) :=
  [(0x09, 0x0D), (0x20, 0x20), (0x85, 0x85), (0xA0, 0xA0), (0x1680, 0x1680), (0x2000, 0x200A),
   (0x2028, 0x2029), (0x202F, 0x202F), (0x205F, 0x205F), (0x3000, 0x3000)]

/-- Whether a code point is white space around numbers. -/
def isSpace (c : Char) : Bool :=
  spaceRanges.any fun (lo, hi) => lo ≤ c.toNat && c.toNat ≤ hi

/-- A text without white space around it. -/
def trimmed (s : String) : List Char :=
  (Text.trimWhile isSpace s).toList

/-- The text without underscores, if each of them stands alone and inside. -/
def withoutUnderscores? (cs : List Char) : Option (List Char) :=
  if cs.head? = some '_' || cs.getLast? = some '_' || Text.occursIn ['_', '_'] cs then none
  else some (cs.filter (· ≠ '_'))

/-! ### Whole numbers -/

/-- Most code units of a whole number. -/
def maxLength : Nat := 4300

/-- Without a plus sign in front, after which no minus sign may follow. -/
def withoutPlus? : List Char → Option (List Char)
  | '+' :: '-' :: _ => none
  | '+' :: cs => some cs
  | cs => some cs

/-- A digit other than zero, or a minus sign. -/
def startsNumber (c : Char) : Bool :=
  ('1' ≤ c && c ≤ '9') || c = '-'

/--
The number after zeros and underscores, `previous` being the last one of them: if nothing follows
it stands for the number, and before a point it belongs to it.
-/
def afterZeros? (previous : Char) : List Char → Option (List Char)
  | [] => some [previous]
  | c :: cs =>
    if c = '0' || c = '_' then afterZeros? c cs
    else if startsNumber c then some (c :: cs)
    else if c = '.' then some (previous :: c :: cs)
    else none

/-- The number without zeros in front. -/
def withoutLeadingZeros? : List Char → Option (List Char)
  | [] => none
  | c :: cs =>
    if c = '0' then afterZeros? c cs else if startsNumber c then some (c :: cs) else none

/-- The number without a point and the zeros after it. -/
def withoutZeroFraction (cs : List Char) : List Char :=
  let part := (cs.dropWhile (· ≠ '.')).drop 1
  if !part.isEmpty && part.all (· = '0') then cs.takeWhile (· ≠ '.') else cs

/-- The whole number of a minus sign, perhaps, and digits. -/
def signed? (cs : List Char) : Option Int :=
  let (negative, digits) := match cs with
    | '-' :: ds => (true, ds)
    | ds => (false, ds)
  if digits.isEmpty || !digits.all Char.isDigit then none
  else
    let n : Int := Json.digitsValue digits
    some (if negative then -n else n)

/-- A whole number written as text. -/
def wholeNumber (s : String) : Except Fault Int :=
  match (withoutPlus? (trimmed s)).bind withoutLeadingZeros? with
  | none => .error .malformed
  | some cs =>
    let cs := withoutZeroFraction cs
    let cs := (withoutUnderscores? cs).getD cs
    if maxLength < Utf8.size (String.ofList cs) then .error .tooLong
    else match signed? cs with
      | some n => .ok n
      | none => .error .malformed

/-! ### Decimal numbers -/

/-- A sign at the front, and the rest. -/
def splitSign : List Char → Bool × List Char
  | '-' :: rest => (true, rest)
  | '+' :: rest => (false, rest)
  | rest => (false, rest)

/-- The words for infinity and NaN, in any letter case. -/
def word? (cs : List Char) : Option Double :=
  let word := String.ofList (cs.map Char.toLower)
  if word = "inf" || word = "infinity" then some ⟨0x7FF0000000000000⟩
  else if word = "nan" then some ⟨0x7FF8000000000000⟩
  else none

/-- A decimal number without sign. -/
def decimal? (negative : Bool) (cs : List Char) : Option Double :=
  let whole := cs.takeWhile Char.isDigit
  let rest := cs.dropWhile Char.isDigit
  let (part, rest) := match rest with
    | '.' :: r => (r.takeWhile Char.isDigit, r.dropWhile Char.isDigit)
    | r => ([], r)
  if whole.isEmpty && part.isEmpty then none
  else match Json.readExponent rest with
    | (e, []) => some (Json.Numeral.toDouble ⟨negative, whole, part, e⟩)
    | _ => none

/-- A number with a sign, without anything around it. -/
def signedDecimal? (cs : List Char) : Option Double :=
  let (negative, body) := splitSign cs
  let word := (word? body).map fun d =>
    if negative && !d.isNaN then Double.ofFloat (-d.toFloat) else d
  word <|> decimal? negative body

/-- A number written as text: with white space around it, or with underscores inside. -/
def number? (s : String) : Option Double :=
  signedDecimal? (trimmed s) <|> (withoutUnderscores? s.toList).bind signedDecimal?

end CodeGraph.Numeral
