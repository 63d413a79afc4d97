import CodeGraph.Reading

/-!
# Untyped arguments

The operations of the library can be called with JSON values. What a value lacks is found out when
an operation asks for it, so a call is refused for the first thing that is missing.

## Main definitions

* `Refusal`: why a call is refused.
* `Untyped.text`, `Untyped.elements`, `Untyped.Key`: arguments as texts, sequences and keys.
-/

namespace CodeGraph

/-- Why a call with untyped arguments is refused. -/
inductive Refusal where
  /-- A wrong number of arguments, or one of a kind that cannot be used. -/
  | wrongKind
  /-- An argument does not have the operation that is asked for. -/
  | noOperation
  /-- A name is not in a closed vocabulary. -/
  | unknownName
  /-- A number is out of range. -/
  | outOfRange
  /-- A record has issues. -/
  | invalid (issues : List Issue)
deriving DecidableEq, Repr

namespace Untyped

/-- The answer to a call. -/
abbrev Answer (α : Type) := Except Refusal α

/-- A text, or a refusal of anything else. -/
def text (refusal : Refusal) : Json → Answer String
  | .text s => .ok s
  | _ => .error refusal

/-- The elements of a sequence: items, letters of a text, names of an object. -/
def elements : Json → Answer (List Json)
  | .list items => .ok items
  | .text s => .ok (s.toList.map fun c => .text (String.ofList [c]))
  | .object fields => .ok (fields.map fun f => .text f.1)
  | _ => .error .wrongKind

/-- The number of elements of a sequence. -/
def length (v : Json) : Answer Nat :=
  (elements v).map List.length

/-- A member of a closed vocabulary. -/
def member {α : Type} (ofName? : String → Option α) : Json → Answer α
  | .text s =>
    match ofName? s with
    | some a => .ok a
    | none => .error .unknownName
  | _ => .error .unknownName

/-- A value that can be a key. Numbers are the same key if their values are. -/
inductive Key where
  | null
  | text (s : String)
  | int (n : Int)
  | float (d : Double)
deriving DecidableEq, Repr, Inhabited

/-- The key that a value is; collections are none. -/
def Key.ofJson : Json → Answer Key
  | .null => .ok .null
  | .bool b => .ok (.int (if b then 1 else 0))
  | .int n => .ok (.int n)
  | .float d =>
    match d.toInt? with
    | some n => .ok (.int n)
    | none => .ok (.float d)
  | .text s => .ok (.text s)
  | .list _ => .error .wrongKind
  | .object _ => .error .wrongKind

/-- What a key leads to in an index by texts: a key that is no text leads nowhere. -/
def lookup {α : Type} (find : String → α) (default : α) (v : Json) : Answer α :=
  match Key.ofJson v with
  | .error refusal => .error refusal
  | .ok (.text s) => .ok (find s)
  | .ok _ => .ok default

end Untyped

end CodeGraph
