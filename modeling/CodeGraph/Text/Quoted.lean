import CodeGraph.Text.Printable

/-!
# Quoted text

A text between quotes with its special code points escaped, as messages show it. Apostrophes
enclose it, unless it holds apostrophes and no double quote.
-/

namespace CodeGraph.Text

/-- A number in hexadecimal, padded with zeros to a width. -/
def hexPadded (width n : Nat) : String :=
  let digits := Nat.toDigits 16 n
  String.ofList (List.replicate (width - digits.length) '0' ++ digits)

/-- One code point inside quotes. -/
def escapeChar (quote : Char) (c : Char) : String :=
  if c = quote || c = '\\' then String.ofList ['\\', c]
  else if c = '\n' then "\\n"
  else if c = '\r' then "\\r"
  else if c = '\t' then "\\t"
  else if isPrintable c then String.ofList [c]
  else if c.toNat < 0x100 then "\\x" ++ hexPadded 2 c.toNat
  else if c.toNat < 0x10000 then "\\u" ++ hexPadded 4 c.toNat
  else "\\U" ++ hexPadded 8 c.toNat

/-- A text between quotes. -/
def quoted (s : String) : String :=
  let quote := if s.toList.contains '\'' && !s.toList.contains '"' then '"' else '\''
  let body := s.toList.foldl (fun out c => out ++ escapeChar quote c) ""
  String.ofList [quote] ++ body ++ String.ofList [quote]

end CodeGraph.Text
