import CodeGraph.Json.Lexeme
import CodeGraph.Toml.Basic
import CodeGraph.Toml.Fault

/-!
# Reading TOML scalars

Strings, numbers, dates and times at the front of a document.
-/

namespace CodeGraph.Toml

/-- Outcome of reading: a result with the part that is left, or a fault. -/
abbrev Outcome (α : Type) := Except Fault (α × List Char)

/-- Space or tab. -/
def isSpace (c : Char) : Bool :=
  c = ' ' || c = '\t'

/-- Space, tab or line feed. -/
def isSpaceOrLine (c : Char) : Bool :=
  isSpace c || c = '\n'

/-- A control character other than the tab, which neither strings nor comments may hold. -/
def isControl (c : Char) : Bool :=
  (c.toNat < 32 || c.toNat = 127) && c ≠ '\t'

/-- A control character other than tab and line feed, which multi-line strings may not hold. -/
def isMultilineControl (c : Char) : Bool :=
  isControl c && c ≠ '\n'

/-- Whether a text stands at the front. -/
def begins (text : String) (cs : List Char) : Bool :=
  text.toList.isPrefixOf cs

/--
The code points before the next occurrence of a text, none of which may be in the class `bad`, and
what follows from that occurrence on; at the end of the document a missing text is a fault if it
is `required`.
-/
def readUntil (text : String) (bad : Char → Bool) (required : Bool) (cs : List Char) :
    Outcome (List Char) :=
  match Text.positionFrom text.toList 0 cs, required with
  | none, true => .error ⟨.expected text, []⟩
  | found, _ =>
    let n := found.getD cs.length
    let body := cs.take n
    match body.find? bad with
    | some c => .error ⟨.invalidCharacter c, cs.drop (body.takeWhile (!bad ·)).length⟩
    | none => .ok (body, cs.drop n)

/-- Skip a comment, up to the end of its line. -/
def skipComment (cs : List Char) : Except Fault (List Char) :=
  match cs with
  | '#' :: rest =>
    match readUntil "\n" isControl false rest with
    | .ok (_, rest') => .ok rest'
    | .error e => .error e
  | _ => .ok cs

/-- Skip white space, line ends and comments. -/
def skipLines : (fuel : Nat) → List Char → Except Fault (List Char)
  | 0, cs => .ok cs
  | fuel + 1, cs =>
    match skipComment (cs.dropWhile isSpaceOrLine) with
    | .error e => .error e
    | .ok rest => if rest.length = cs.length then .ok rest else skipLines fuel rest

/-! ### Strings -/

/-- A string between apostrophes, after the opening one. -/
def readLiteral (cs : List Char) : Outcome String :=
  match readUntil "'" isControl true cs with
  | .ok (body, rest) => .ok (String.ofList body, rest.drop 1)
  | .error e => .error e

/-- A code point written by hexadecimal digits. -/
def readHex (count : Nat) (cs : List Char) : Outcome (List Char) :=
  let digits := (cs.take count).filterMap Json.hexValue?
  if (cs.take count).length = count && digits.length = count then
    let n := digits.foldl (fun n d => n * 16 + d) 0
    let rest := cs.drop count
    if n < 0xD800 || (0xE000 ≤ n && n ≤ 0x10FFFF) then .ok ([Char.ofNat n], rest)
    else .error ⟨.notScalarValue, rest⟩
  else .error ⟨.hexDigits, cs⟩

/-- The code point of a one-letter escape. -/
def shortEscape? : Char → Option Char
  | 'b' => some (Char.ofNat 8)
  | 't' => some '\t'
  | 'n' => some '\n'
  | 'f' => some (Char.ofNat 12)
  | 'r' => some '\r'
  | '"' => some '"'
  | '\\' => some '\\'
  | _ => none

/-- A line break escaped by a backslash, after it: white space up to the next visible character. -/
def readLineBreak (c : Char) (rest : List Char) : Outcome (List Char) :=
  if c = '\n' then .ok ([], rest.dropWhile isSpaceOrLine)
  else
    match rest.dropWhile isSpace with
    | [] => .ok ([], [])
    | '\n' :: rest' => .ok ([], rest'.dropWhile isSpaceOrLine)
    | rest' => .error ⟨.backslash, rest'⟩

/-- An escape, after its backslash. -/
def readEscape (multiline : Bool) : List Char → Outcome (List Char)
  | [] => .error ⟨.backslash, []⟩
  | c :: rest =>
    if multiline && isSpaceOrLine c then readLineBreak c rest
    else if c = 'u' then readHex 4 rest
    else if c = 'U' then readHex 8 rest
    else match shortEscape? c with
      | some e => .ok ([e], rest)
      | none => .error ⟨.backslash, rest⟩

/-- A string between double quotes, after the opening ones; `acc` is what was read, in reverse. -/
def readBasic (multiline : Bool) : (fuel : Nat) → (acc : List Char) → List Char → Outcome String
  | 0, _, cs => .error ⟨.unterminated, cs⟩
  | _ + 1, _, [] => .error ⟨.unterminated, []⟩
  | fuel + 1, acc, c :: rest =>
    if c = '"' then
      if !multiline then .ok (String.ofList acc.reverse, rest)
      else if begins "\"\"" rest then .ok (String.ofList acc.reverse, rest.drop 2)
      else readBasic multiline fuel (c :: acc) rest
    else if c = '\\' then
      match readEscape multiline rest with
      | .ok (cs, rest') => readBasic multiline fuel (cs ++ acc) rest'
      | .error e => .error e
    else if (if multiline then isMultilineControl c else isControl c) then
      .error ⟨.illegalCharacter c, c :: rest⟩
    else readBasic multiline fuel (c :: acc) rest

/-- Up to two more quotes after the closing ones of a multi-line string belong to it. -/
def addClosingQuotes (quote : Char) (s : String) (rest : List Char) : String × List Char :=
  let extra := ((rest.take 2).takeWhile (· = quote)).length
  (s ++ Text.replicate extra quote, rest.drop extra)

/-- A multi-line string, after its opening quotes. -/
def readMultiline (quote : Char) (cs : List Char) : Outcome String :=
  let body := match cs with
    | '\n' :: rest => rest
    | _ => cs
  if quote = '"' then
    match readBasic true (body.length + 1) [] body with
    | .ok (s, rest) => .ok (addClosingQuotes quote s rest)
    | .error e => .error e
  else
    match readUntil "'''" isMultilineControl true body with
    | .ok (inner, rest) => .ok (addClosingQuotes quote (String.ofList inner) (rest.drop 3))
    | .error e => .error e

/-! ### Numbers, dates and times -/

/-- Digits of a class with single underscores between them, without the underscores. -/
def moreDigits (p : Char → Bool) : List Char → List Char × List Char
  | '_' :: d :: rest =>
    if p d then let (ds, rest') := moreDigits p rest; (d :: ds, rest') else ([], '_' :: d :: rest)
  | d :: rest =>
    if p d then let (ds, rest') := moreDigits p rest; (d :: ds, rest') else ([], d :: rest)
  | [] => ([], [])

/-- One or more digits of a class with single underscores between them. -/
def digits? (p : Char → Bool) : List Char → Option (List Char × List Char)
  | d :: rest => if p d then let (ds, rest') := moreDigits p rest; some (d :: ds, rest') else none
  | [] => none

/-- A whole number in base sixteen, two or eight. -/
def readPrefixed? : List Char → Option (Toml × List Char)
  | '0' :: mark :: rest =>
    let base : Option (Nat × (Char → Bool)) :=
      if mark = 'x' then some (16, fun c => (Json.hexValue? c).isSome)
      else if mark = 'b' then some (2, fun c => c = '0' || c = '1')
      else if mark = 'o' then some (8, fun c => '0' ≤ c && c ≤ '7')
      else none
    match base with
    | none => none
    | some (base, p) =>
      (digits? p rest).map fun (ds, rest') =>
        (int ((ds.filterMap Json.hexValue?).foldl (fun n d => n * base + d) 0 : Nat), rest')
  | _ => none

/-- A fractional part, if there is one. -/
def readFraction? : List Char → Option (List Char × List Char)
  | '.' :: rest => digits? Char.isDigit rest
  | _ => none

/-- An exponent, if there is one. -/
def readExponent? : List Char → Option (Int × List Char)
  | e :: rest =>
    if e = 'e' || e = 'E' then
      let (negative, body) := match rest with
        | '-' :: r => (true, r)
        | '+' :: r => (false, r)
        | r => (false, r)
      (digits? Char.isDigit body).map fun (ds, rest') =>
        let n : Int := Json.digitsValue ds
        (if negative then -n else n, rest')
    else none
  | [] => none

/-- A decimal number. -/
def readDecimal? (cs : List Char) : Option (Json.Numeral × List Char) :=
  let (negative, body) := match cs with
    | '-' :: r => (true, r)
    | '+' :: r => (false, r)
    | r => (false, r)
  let whole? := match body with
    | '0' :: rest => some (['0'], rest)
    | _ => digits? Char.isDigit body
  whole?.map fun (whole, rest) =>
    let (part, rest) := (readFraction? rest).getD ([], rest)
    match readExponent? rest with
    | some (e, rest) => (⟨negative, whole, part, some e⟩, rest)
    | none => (⟨negative, whole, part, none⟩, rest)

/-- The words for infinity and NaN. -/
def readSpecial? (cs : List Char) : Option (Toml × List Char) :=
  let words : List (String × UInt64) :=
    [("inf", 0x7FF0000000000000), ("nan", 0x7FF8000000000000), ("-inf", 0xFFF0000000000000),
     ("+inf", 0x7FF0000000000000), ("-nan", 0xFFF8000000000000), ("+nan", 0x7FF8000000000000)]
  words.findSome? fun (word, bits) =>
    if begins word cs then some (float ⟨bits⟩, cs.drop word.toList.length) else none

/-- Two decimal digits that write a number in a closed range. -/
def twoDigits? (low high : Nat) : List Char → Option (Nat × List Char)
  | a :: b :: rest =>
    if a.isDigit && b.isDigit then
      let n := Json.digitsValue [a, b]
      if low ≤ n && n ≤ high then some (n, rest) else none
    else none
  | _ => none

/-- A given code point at the front. -/
def expectChar? (p : Char → Bool) : List Char → Option (List Char)
  | c :: rest => if p c then some rest else none
  | [] => none

/-- What follows a time of day, with its fraction of a second. -/
def skipTime? (cs : List Char) : Option (List Char) := do
  let (_, cs) ← twoDigits? 0 23 cs
  let cs ← expectChar? (· = ':') cs
  let (_, cs) ← twoDigits? 0 59 cs
  let cs ← expectChar? (· = ':') cs
  let (_, cs) ← twoDigits? 0 59 cs
  match cs with
  | '.' :: rest =>
    if (rest.takeWhile Char.isDigit).isEmpty then some cs else some (rest.dropWhile Char.isDigit)
  | _ => some cs

/-- What follows an offset from universal time; none is fine. -/
def skipOffset (cs : List Char) : List Char :=
  match cs with
  | 'Z' :: rest => rest
  | 'z' :: rest => rest
  | sign :: rest =>
    let offset := if sign = '+' || sign = '-' then do
        let (_, r) ← twoDigits? 0 23 rest
        let r ← expectChar? (· = ':') r
        let (_, r) ← twoDigits? 0 59 r
        some r
      else none
    offset.getD cs
  | [] => []

/-- Number of days of a month. -/
def daysIn (year month : Nat) : Nat :=
  if month = 2 then
    if (year % 4 = 0 && year % 100 ≠ 0) || year % 400 = 0 then 29 else 28
  else if month = 4 || month = 6 || month = 9 || month = 11 then 30 else 31

/-- A date, perhaps with a time: whether the day exists, and what follows. -/
def readDate? (cs : List Char) : Option (Bool × List Char) := do
  let year := cs.take 4
  if year.length = 4 && year.all Char.isDigit then
    let cs ← expectChar? (· = '-') (cs.drop 4)
    let (month, cs) ← twoDigits? 1 12 cs
    let cs ← expectChar? (· = '-') cs
    let (day, cs) ← twoDigits? 1 31 cs
    let y := Json.digitsValue year
    let time := do
      let r ← expectChar? (fun c => c = 'T' || c = 't' || c = ' ') cs
      let r ← skipTime? r
      some (skipOffset r)
    some (1 ≤ y && day ≤ daysIn y month, time.getD cs)
  else none

end CodeGraph.Toml
