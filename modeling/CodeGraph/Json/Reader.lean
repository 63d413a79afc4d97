import CodeGraph.Json.Basic
import CodeGraph.Json.Lexeme

/-!
# Reading JSON

A reader that says where and why a document is not JSON. It accepts `NaN`, `Infinity` and
`-Infinity`, and the last of several fields with one name wins at the place of the first. What it
builds is up to a `Builder`, and how much it takes is up to `Limits`.

## Main definitions

* `Json.Builder`: what documents are read into.
* `Json.Limits`: how large a document may be.
* `Json.read`: what a document stands for, or the first fault.
* `Json.parse`: the value of a document of any size.
-/

namespace CodeGraph.Json

/-- What a document is read into. -/
structure Builder (α : Type) where
  null : α
  bool : Bool → α
  int : Int → α
  float : Double → α
  text : CodeText → α
  list : List α → α
  object : List (CodeText × α) → α

/-- Documents as values; a lone surrogate is replaced. -/
def builder : Builder Json where
  null := .null
  bool := .bool
  int := .int
  float := .float
  text t := .text t.replaced
  list := .list
  object fields := .object (fields.map fun (name, v) => (name.replaced, v))

/-- How large a document may be. -/
structure Limits where
  /-- How deep lists and objects may be nested. -/
  depth : Option Nat := none
  /-- Whether a list or an object without content is a level. -/
  emptyCounts : Bool := true
  /-- How many digits a whole number may have. -/
  digits : Option Nat := none
  /-- Whether the bound on digits also holds for sign and digits before a point. -/
  signCounts : Bool := false
  /-- Whether halves of surrogate pairs may stand alone. -/
  surrogates : Bool := true

namespace Limits

/-- Whether a level of nesting is too deep. -/
def isTooDeep (l : Limits) (level : Nat) : Bool :=
  (l.depth.map fun d => decide (d < level)).getD false

/-- Whether a number has too many digits. -/
def isTooLong (l : Limits) (n : Numeral) : Bool :=
  let length := n.whole.length + if l.signCounts && n.negative then 1 else 0
  (n.isWhole || l.signCounts) && (l.digits.map fun d => decide (d < length)).getD false

/-- Whether a text may stand in a document. -/
def admits (l : Limits) (t : CodeText) : Bool :=
  l.surrogates || !t.points.any CodeText.isSurrogate

end Limits

/-- Space, tab, line feed and carriage return. -/
def isSpace (c : Char) : Bool :=
  c = ' ' || c = '\t' || c = '\n' || c = '\r'

/-- Skip white space. -/
def skipSpace (cs : List Char) : List Char :=
  cs.dropWhile isSpace

section

variable {α : Type} (b : Builder α) (l : Limits)

/-- The words that stand for values. -/
def words : List (String × α) :=
  [("null", b.null), ("true", b.bool true), ("false", b.bool false),
   ("NaN", b.float ⟨0x7FF8000000000000⟩), ("Infinity", b.float ⟨0x7FF0000000000000⟩),
   ("-Infinity", b.float ⟨0xFFF0000000000000⟩)]

/-- The word at the front of the text, if there is one. -/
def readWord? (cs : List Char) : Option (α × List Char) :=
  (words b).findSome? fun (word, v) =>
    if word.toList.isPrefixOf cs then some (v, cs.drop word.toList.length) else none

/-- The number at the front of the text. -/
def readNumber (cs : List Char) : Outcome α :=
  match readNumeral? cs with
  | none => .error ⟨.value, cs⟩
  | some (n, rest) =>
    if l.isTooLong n then .error ⟨.tooManyDigits, cs⟩
    else .ok (if n.isWhole then b.int n.toInt else b.float n.toDouble, rest)

/-- The string at the front of the text, after its opening quote. -/
def readText (opening body : List Char) : Outcome CodeText :=
  match readString opening (body.length + 1) [] body with
  | .error e => .error e
  | .ok (t, rest) => if l.admits t then .ok (t, rest) else .error ⟨.loneSurrogate, opening⟩

/-- Set a field, replacing the value of an earlier one with the same name. -/
def setField (fields : List (CodeText × α)) (name : CodeText) (v : α) : List (CodeText × α) :=
  ((OrderedMap.mk fields).insert name v).toList

mutual

/-- The value at the front of the text, inside `level` lists and objects. -/
def readValue : (fuel level : Nat) → List Char → Outcome α
  | 0, _, cs => .error ⟨.value, cs⟩
  | fuel + 1, level, cs =>
    match cs with
    | '"' :: rest =>
      match readText l cs rest with
      | .ok (t, rest') => .ok (b.text t, rest')
      | .error e => .error e
    | '\x7b' :: rest =>
      if l.emptyCounts && l.isTooDeep (level + 1) then .error ⟨.tooDeep, cs⟩
      else match skipSpace rest with
        | '\x7d' :: rest' => .ok (b.object [], rest')
        | rest' =>
          if l.isTooDeep (level + 1) then .error ⟨.tooDeep, cs⟩
          else readFields fuel (level + 1) [] rest'
    | '[' :: rest =>
      if l.emptyCounts && l.isTooDeep (level + 1) then .error ⟨.tooDeep, cs⟩
      else match skipSpace rest with
        | ']' :: rest' => .ok (b.list [], rest')
        | rest' =>
          if l.isTooDeep (level + 1) then .error ⟨.tooDeep, cs⟩
          else readItems fuel (level + 1) [] rest'
    | _ =>
      match readWord? b cs with
      | some r => .ok r
      | none => readNumber b l cs

/-- The items of a list up to its closing bracket; `acc` holds the earlier ones in reverse. -/
def readItems : (fuel level : Nat) → (acc : List α) → List Char → Outcome α
  | 0, _, _, cs => .error ⟨.value, cs⟩
  | fuel + 1, level, acc, cs =>
    match readValue fuel level cs with
    | .error e => .error e
    | .ok (v, rest) =>
      match skipSpace rest with
      | ']' :: rest' => .ok (b.list (v :: acc).reverse, rest')
      | ',' :: rest' => readItems fuel level (v :: acc) (skipSpace rest')
      | rest' => .error ⟨.comma, rest'⟩

/-- The fields of an object up to its closing brace. -/
def readFields : (fuel level : Nat) → (acc : List (CodeText × α)) → List Char → Outcome α
  | 0, _, _, cs => .error ⟨.value, cs⟩
  | fuel + 1, level, acc, cs =>
    match cs with
    | '"' :: body =>
      match readText l cs body with
      | .error e => .error e
      | .ok (name, rest) =>
        match skipSpace rest with
        | ':' :: rest' =>
          match readValue fuel level (skipSpace rest') with
          | .error e => .error e
          | .ok (v, rest'') =>
            match skipSpace rest'' with
            | '\x7d' :: rest''' => .ok (b.object (setField acc name v), rest''')
            | ',' :: rest''' => readFields fuel level (setField acc name v) (skipSpace rest''')
            | rest''' => .error ⟨.comma, rest'''⟩
        | rest' => .error ⟨.colon, rest'⟩
    | _ => .error ⟨.fieldName, cs⟩

end

/-- What a document within limits stands for, or the first fault. -/
def read (document : String) : Except Fault α :=
  let cs := document.toList
  if cs.head? = some (Char.ofNat 0xFEFF) then .error ⟨.byteOrderMark, cs⟩
  else
    -- each step of the recursion consumes a code point
    match readValue b l (2 * cs.length + 2) 0 (skipSpace cs) with
    | .error e => .error e
    | .ok (v, rest) =>
      match skipSpace rest with
      | [] => .ok v
      | rest' => .error ⟨.extraData, rest'⟩

end

/-- The value of a document of any size, or the first fault. -/
def parse (document : String) : Except Fault Json :=
  read builder {} document

end CodeGraph.Json
