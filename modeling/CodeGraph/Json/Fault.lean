import CodeGraph.Text.Basic

/-!
# What can be wrong with a JSON document

A fault carries the part of the document that was left when it arose; its place is counted from
there.

## Main definitions

* `Json.Fault`, `Json.FaultKind.message`: what can be wrong.
* `Json.Fault.describe`: the fault with line, column and position.
-/

namespace CodeGraph.Json

/-- What can be wrong with a document. -/
inductive FaultKind where
  | value
  | fieldName
  | colon
  | comma
  | extraData
  | unterminatedString
  | controlCharacter
  | escape
  | unicodeEscape
  | byteOrderMark
  /-- A number has more digits than the reader takes. -/
  | tooManyDigits
  /-- Lists and objects are nested deeper than the reader goes. -/
  | tooDeep
  /-- A half of a surrogate pair stands alone, and the reader takes none. -/
  | loneSurrogate
deriving DecidableEq, Repr

/-- The wording of a kind of fault. -/
def FaultKind.message : FaultKind → String
  | value => "Expecting value"
  | fieldName => "Expecting property name enclosed in double quotes"
  | colon => "Expecting ':' delimiter"
  | comma => "Expecting ',' delimiter"
  | extraData => "Extra data"
  | unterminatedString => "Unterminated string starting at"
  | controlCharacter => "Invalid control character at"
  | escape => "Invalid \\escape"
  | unicodeEscape => "Invalid \\uXXXX escape"
  | byteOrderMark => "Unexpected UTF-8 BOM (decode using utf-8-sig)"
  | tooManyDigits => "Number with too many digits"
  | tooDeep => "Nested too deep"
  | loneSurrogate => "Lone surrogate"

/-- A fault, with the part of the document that starts at it. -/
structure Fault where
  kind : FaultKind
  rest : List Char

/-- Outcome of reading: a result with the part that is left, or a fault. -/
abbrev Outcome (α : Type) := Except Fault (α × List Char)

/-- The fault with its line and column, counted from one, and its position, counted from zero. -/
def Fault.describe (fault : Fault) (document : String) : String :=
  let cs := document.toList
  let position := cs.length - fault.rest.length
  let read := cs.take position
  let line := read.count '\n' + 1
  let column := (read.reverse.takeWhile (· ≠ '\n')).length + 1
  fault.kind.message ++ ": line " ++ toString line ++ " column " ++ toString column ++
    " (char " ++ toString position ++ ")"

end CodeGraph.Json
