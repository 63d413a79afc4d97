import CodeGraph.Text.Basic
import CodeGraph.Text.Quoted

/-!
# What can be wrong with a TOML document
-/

namespace CodeGraph.Toml

/-- A dotted key. -/
abbrev Key := List String

/-- A key as messages show it: its quoted parts between parentheses. -/
def Key.render : Key → String
  | [part] => "(" ++ Text.quoted part ++ ",)"
  | parts => "(" ++ Text.join ", " (parts.map Text.quoted) ++ ")"

/-- What can be wrong with a document. -/
inductive FaultKind where
  | statement
  | lineEnd
  | declaredTwice (key : Key)
  | immutable (key : Key)
  | redefined (key : Key)
  | overwritten
  | tableEnd
  | arrayTableEnd
  | equals
  | keyPart
  | unclosedArray
  | unclosedInlineTable
  | duplicateKey (name : String)
  | backslash
  | hexDigits
  | notScalarValue
  | expected (text : String)
  | invalidCharacter (c : Char)
  | illegalCharacter (c : Char)
  | unterminated
  | date
  | value
  | tooManyDigits
  | tooDeep
deriving DecidableEq, Repr

/-- The wording of a kind of fault. -/
def FaultKind.message : FaultKind → String
  | statement => "Invalid statement"
  | lineEnd => "Expected newline or end of document after a statement"
  | declaredTwice key => "Cannot declare " ++ key.render ++ " twice"
  | immutable key => "Cannot mutate immutable namespace " ++ key.render
  | redefined key => "Cannot redefine namespace " ++ key.render
  | overwritten => "Cannot overwrite a value"
  | tableEnd => "Expected ']' at the end of a table declaration"
  | arrayTableEnd => "Expected ']]' at the end of an array declaration"
  | equals => "Expected '=' after a key in a key/value pair"
  | keyPart => "Invalid initial character for a key part"
  | unclosedArray => "Unclosed array"
  | unclosedInlineTable => "Unclosed inline table"
  | duplicateKey name => "Duplicate inline table key " ++ Text.quoted name
  | backslash => "Unescaped '\\' in a string"
  | hexDigits => "Invalid hex value"
  | notScalarValue => "Escaped character is not a Unicode scalar value"
  | expected what => "Expected " ++ Text.quoted what
  | invalidCharacter c => "Found invalid character " ++ Text.quoted (String.ofList [c])
  | illegalCharacter c => "Illegal character " ++ Text.quoted (String.ofList [c])
  | unterminated => "Unterminated string"
  | date => "Invalid date or datetime"
  | value => "Invalid value"
  | tooManyDigits => "Number with too many digits"
  | tooDeep => "Nested too deep"

/-- A fault, with the part of the document that starts at it. -/
structure Fault where
  kind : FaultKind
  rest : List Char

/-- The fault with its line and column, both counted from one. -/
def Fault.describe (fault : Fault) (document : List Char) : String :=
  let read := document.take (document.length - fault.rest.length)
  let place :=
    if fault.rest.isEmpty then "end of document"
    else
      let line := read.count '\n' + 1
      let column := (read.reverse.takeWhile (· ≠ '\n')).length + 1
      "line " ++ toString line ++ ", column " ++ toString column
  fault.kind.message ++ " (at " ++ place ++ ")"

/-- Why a document is not read: it is described, or it is too large. -/
inductive Failure where
  | malformed (reason : String)
  | tooManyDigits
  | tooDeep
deriving DecidableEq, Repr, Inhabited

/-- The failure that a fault leads to. -/
def Fault.toFailure (fault : Fault) (document : List Char) : Failure :=
  match fault.kind with
  | .tooManyDigits => .tooManyDigits
  | .tooDeep => .tooDeep
  | _ => .malformed (fault.describe document)

end CodeGraph.Toml
