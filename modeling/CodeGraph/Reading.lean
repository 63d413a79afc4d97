import CodeGraph.Property
import CodeGraph.Reading.Numeral
import CodeGraph.Text.CodeText

/-!
# Reading records from untyped data

A forgiving reader: numbers and truth values may be written as text, and unknown fields are
ignored. Reading does not stop at the first fault; it lists every issue with the place it stands
at, in the order of the fields.

## Main definitions

* `Issue`, `IssueKind`: what is wrong, and where.
* `Checked`: a result or the issues found; independent parts are read with `<*>`.
* `Reading.int`, `Reading.bool`, `Reading.list`, ...: readers of values.
* `Reading.required`, `Reading.withDefault`: readers of fields.
-/

namespace CodeGraph

/-- What is wrong with a value. -/
inductive IssueKind where
  | missing
  | notText
  | notInt
  | intText
  | intFraction
  | intSize
  | notFinite
  | tooSmall
  | notFloat
  | floatText
  | notBool
  | boolText
  | notList
  | notTuple
  | notDict
  | notRecord
  | notMember
  | rejected (fault : PropertyFault)
  | unencodable (part : Unencodable)
deriving DecidableEq, Repr

/-- The code a kind of issue is reported under. -/
def IssueKind.code : IssueKind → String
  | missing => "missing"
  | notText => "string_type"
  | notInt => "int_type"
  | intText => "int_parsing"
  | intFraction => "int_from_float"
  | intSize => "int_parsing_size"
  | notFinite => "finite_number"
  | tooSmall => "greater_than_equal"
  | notFloat => "float_type"
  | floatText => "float_parsing"
  | notBool => "bool_type"
  | boolText => "bool_parsing"
  | notList => "list_type"
  | notTuple => "tuple_type"
  | notDict => "dict_type"
  | notRecord => "model_type"
  | notMember => "enum"
  | rejected _ => "value_error"
  | unencodable _ => "value_error"

/-- The wording of an issue that has one of its own. -/
def IssueKind.message? : IssueKind → Option String
  | rejected fault => some ("Value error, " ++ fault.message)
  | unencodable part => some ("Value error, " ++ part.message)
  | _ => none

/-- An issue with its place: names of fields and positions of items, from the outside in. -/
structure Issue where
  place : List String
  kind : IssueKind
deriving DecidableEq, Repr

/-- The outcome of reading: a result, or the issues found. -/
inductive Checked (α : Type) where
  | ok (a : α)
  | failed (issues : List Issue)

namespace Checked

variable {α β : Type}

/-- A single issue at the value itself. -/
def fail (kind : IssueKind) : Checked α :=
  failed [⟨[], kind⟩]

/-- Apply a function to the result. -/
def map (f : α → β) : Checked α → Checked β
  | ok a => ok (f a)
  | failed issues => failed issues

/-- Apply a read function to a read argument; the issues of both are kept. -/
def apply : Checked (α → β) → Checked α → Checked β
  | ok f, ok a => ok (f a)
  | ok _, failed issues => failed issues
  | failed issues, ok _ => failed issues
  | failed issues, failed more => failed (issues ++ more)

instance : Applicative Checked where
  pure := ok
  map := map
  seq f x := apply f (x ())

/-- Read on from a result. -/
def andThen (f : α → Checked β) : Checked α → Checked β
  | ok a => f a
  | failed issues => failed issues

/-- Put the issues at a place further in. -/
def inside (place : String) : Checked α → Checked α
  | ok a => ok a
  | failed issues => failed (issues.map fun i => { i with place := place :: i.place })

/-- The results of a list of readings. -/
def sequence : List (Checked α) → Checked (List α)
  | [] => ok []
  | x :: xs => apply (map List.cons x) (sequence xs)

end Checked

/-- A reader of values. -/
abbrev Reading (α : Type) := Json → Checked α

namespace Reading

variable {α : Type}

/-! ### Values -/

/-- A text. -/
def text : Reading String
  | .text s => .ok s
  | _ => .fail .notText

/-- Least and greatest whole number that a fractional type may stand for, exclusive. -/
def wordBound : Int := 9223372036854775808

/-- A whole number that a double is. -/
def intOfDouble (d : Double) : Checked Int :=
  if !d.isFinite then .fail .notFinite
  else match d.toInt? with
    | none => .fail .intFraction
    | some n => if -wordBound < n && n < wordBound then .ok n else .fail .intSize

/-- A whole number, also as a truth value, an integral double or a text. -/
def int : Reading Int
  | .int n => .ok n
  | .bool b => .ok (if b then 1 else 0)
  | .float d => intOfDouble d
  | .text s =>
    match Numeral.wholeNumber s with
    | .ok n => .ok n
    | .error .malformed => .fail .intText
    | .error .tooLong => .fail .intSize
  | _ => .fail .notInt

/-- A whole number with a lower bound. -/
def intAtLeast (bound : Int) : Reading Int := fun v =>
  (int v).andThen fun n => if bound ≤ n then .ok n else .fail .tooSmall

/-- A natural number with a lower bound. -/
def natAtLeast (bound : Nat) : Reading Nat := fun v =>
  (intAtLeast bound v).map Int.toNat

/-- A number, also as a truth value or a text; a whole number out of range counts as infinite. -/
def wideFloat : Reading Double
  | .float d => .ok d
  | .int n => .ok (.ofInt n)
  | .bool b => .ok (.ofInt (if b then 1 else 0))
  | .text s =>
    match Numeral.number? s with
    | some d => .ok d
    | none => .fail .floatText
  | _ => .fail .notFloat

/-- A number, also as a truth value or a text; a whole number out of range is none. -/
def float : Reading Double
  | .int n => if (Double.ofInt n).isFinite then .ok (.ofInt n) else .fail .notFloat
  | v => wideFloat v

/-- The words for truth values. -/
def boolWord? (s : String) : Option Bool :=
  let word := String.ofList (s.toList.map Char.toLower)
  if word ∈ ["0", "off", "f", "false", "n", "no"] then some false
  else if word ∈ ["1", "on", "t", "true", "y", "yes"] then some true
  else none

/-- A truth value that a whole number is. -/
def boolOfInt (n : Int) : Checked Bool :=
  if n = 0 then .ok false else if n = 1 then .ok true else .fail .boolText

/-- A truth value, also as zero, one or a word. -/
def bool : Reading Bool
  | .bool b => .ok b
  | .int n => if -wordBound ≤ n && n < wordBound then boolOfInt n else .fail .notBool
  | .float d =>
    match intOfDouble d with
    | .ok n => boolOfInt n
    | .failed _ => .fail .notBool
  | .text s =>
    match boolWord? s with
    | some b => .ok b
    | none => .fail .boolText
  | _ => .fail .notBool

/-- A value or null. -/
def nullable (r : Reading α) : Reading (Option α)
  | .null => .ok none
  | v => (r v).map some

/-- The items of a sequence, each at its position. -/
def items (r : Reading α) (xs : List Json) : Checked (List α) :=
  .sequence (xs.zipIdx.map fun (v, i) => (r v).inside (toString i))

/-- A list. -/
def list (r : Reading α) : Reading (List α)
  | .list xs => items r xs
  | _ => .fail .notList

/-- A fixed sequence, written as a list. -/
def tuple (r : Reading α) : Reading (List α)
  | .list xs => items r xs
  | _ => .fail .notTuple

/-- An object with values of one kind. -/
def dict (r : Reading α) : Reading (OrderedMap String α)
  | .object fields =>
    (Checked.sequence (fields.map fun (k, v) => ((r v).map fun a => (k, a)).inside k)).map
      OrderedMap.ofList
  | _ => .fail .notDict

/-- An object with arbitrary values. -/
def fields : Reading (List (String × Json))
  | .object fields => .ok fields
  | _ => .fail .notDict

/-- A member of a closed vocabulary, by its name. -/
def member (ofName? : String → Option α) : Reading α
  | .text s =>
    match ofName? s with
    | some a => .ok a
    | none => .fail .notMember
  | _ => .fail .notMember

/-! ### Records -/

/-- The fields of a record. -/
abbrev Fields := List (String × Json)

/-- A record, read field by field. -/
def record (r : Fields → Checked α) : Reading α
  | .object fields => r fields
  | _ => .fail .notRecord

/-- A field that has to be there. -/
def required (fs : Fields) (name : String) (r : Reading α) : Checked α :=
  match fs.lookup name with
  | some v => (r v).inside name
  | none => (Checked.fail .missing).inside name

/-- A field with a default. -/
def withDefault (fs : Fields) (name : String) (r : Reading α) (default : α) : Checked α :=
  match fs.lookup name with
  | some v => (r v).inside name
  | none => .ok default

end Reading

end CodeGraph
