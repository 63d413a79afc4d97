import CodeGraph.Json.Basic
import CodeGraph.Text.Basic

/-!
# Writing JSON

Two layouts of one document: compact, and indented by two spaces per level. A layout also decides
whether code points outside ASCII are escaped.
-/

namespace CodeGraph.Json

/-- The two UTF-16 units of a code point above the basic plane, or its only one. -/
def units16 (c : Char) : List Nat :=
  let n := c.toNat
  if n < 0x10000 then [n]
  else [0xD800 + (n - 0x10000) / 0x400, 0xDC00 + (n - 0x10000) % 0x400]

/-- One code point inside a string. -/
def escapeChar (asciiOnly : Bool) (c : Char) : List Char :=
  if c = '"' then ['\\', '"']
  else if c = '\\' then ['\\', '\\']
  else if c = '\n' then ['\\', 'n']
  else if c = '\r' then ['\\', 'r']
  else if c = '\t' then ['\\', 't']
  else if c.toNat = 8 then ['\\', 'b']
  else if c.toNat = 12 then ['\\', 'f']
  else if c.toNat < 0x20 || (asciiOnly && 0x7F < c.toNat) then
    (units16 c).flatMap fun u => "\\u".toList ++ (Text.hexPadded 4 u).toList
  else [c]

/-- A text as a JSON string. -/
def renderText (asciiOnly : Bool) (s : String) : String :=
  String.ofList ('"' :: s.toList.flatMap (escapeChar asciiOnly) ++ ['"'])

/-- The texts of scalars; infinities and NaN have the words that the reader accepts. -/
def renderFloat (d : Double) : String :=
  if d.isNaN then "NaN"
  else if !d.isFinite then (if d.isNegative then "-Infinity" else "Infinity")
  else d.shortest

mutual

/-- The document on one line, without spaces. -/
def compact : Json → String
  | null => "null"
  | bool b => if b then "true" else "false"
  | int n => toString n
  | float d => renderFloat d
  | text s => renderText false s
  | list items => "[" ++ compactItems items ++ "]"
  | object fields => "\x7b" ++ compactFields fields ++ "\x7d"

/-- The items of a list, separated by commas. -/
def compactItems : List Json → String
  | [] => ""
  | [v] => compact v
  | v :: vs => compact v ++ "," ++ compactItems vs

/-- The fields of an object, separated by commas. -/
def compactFields : List (String × Json) → String
  | [] => ""
  | [(k, v)] => renderText false k ++ ":" ++ compact v
  | (k, v) :: fs => renderText false k ++ ":" ++ compact v ++ "," ++ compactFields fs

end

/-- The start of a line at a nesting depth. -/
def indentation (depth : Nat) : String :=
  Text.replicate (2 * depth) ' '

/-- Put a comma after the last line, unless it is the last item. -/
def closed (isLast : Bool) : List String → List String
  | [] => []
  | [l] => [l ++ (if isLast then "" else ",")]
  | l :: ls => l :: closed isLast ls

/-- Put a label before the first line and, unless it is the last one, a comma after the last. -/
def labelled (label : String) (isLast : Bool) : List String → List String
  | [] => []
  | [l] => [label ++ l ++ (if isLast then "" else ",")]
  | l :: ls => (label ++ l) :: closed isLast ls

mutual

/-- The document with one item or field a line, as lines without line breaks. -/
def lines (asciiOnly : Bool) (depth : Nat) : Json → List String
  | null => ["null"]
  | bool b => [if b then "true" else "false"]
  | int n => [toString n]
  | float d => [renderFloat d]
  | text s => [renderText asciiOnly s]
  | list [] => ["[]"]
  | list items => "[" :: itemLines asciiOnly (depth + 1) items ++ [indentation depth ++ "]"]
  | object [] => ["\x7b\x7d"]
  | object fields =>
    "\x7b" :: fieldLines asciiOnly (depth + 1) fields ++ [indentation depth ++ "\x7d"]

/-- The lines of the items of a list. -/
def itemLines (asciiOnly : Bool) (depth : Nat) : List Json → List String
  | [] => []
  | v :: vs =>
    labelled (indentation depth) vs.isEmpty (lines asciiOnly depth v)
      ++ itemLines asciiOnly depth vs

/-- The lines of the fields of an object. -/
def fieldLines (asciiOnly : Bool) (depth : Nat) : List (String × Json) → List String
  | [] => []
  | (k, v) :: fs =>
    labelled (indentation depth ++ renderText asciiOnly k ++ ": ") fs.isEmpty
        (lines asciiOnly depth v)
      ++ fieldLines asciiOnly depth fs

end

/-- The document with one item or field a line. -/
def pretty (asciiOnly : Bool) (v : Json) : String :=
  Text.join "\n" (lines asciiOnly 0 v)

end CodeGraph.Json
