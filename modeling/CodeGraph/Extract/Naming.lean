import CodeGraph.Tree.Basic

/-!
# Names of declarations

How the text of a node becomes a name: plain identifiers stand for themselves, a destructuring
pattern for the identifiers it binds, a type for its head, and a decorator for what stands before
its arguments.

## Main definitions

* `SourceTree.declaredName?`: the name of a declaration.
* `SourceTree.isNameable`: whether it can be read, which takes patterns of bounded depth.
* `SourceTree.decoratorName?`, `SourceTree.typeName`: names of decorators and types.
* `unquoted`: the text between quotes.
-/

namespace CodeGraph

/-- Kinds of nodes that are names. -/
def nameKinds : List String :=
  ["identifier", "type_identifier", "property_identifier", "private_property_identifier",
   "constant"]

/-- Kinds of nodes that bind several names. -/
def patternKinds : List String :=
  ["pattern_list", "tuple_pattern", "list_pattern", "tuple", "list", "object_pattern",
   "array_pattern"]

/-- A text without quote marks at its ends. -/
def unquoted (s : String) : String :=
  Text.trimWhile (fun c => c = '\'' || c = '"' || c = Char.ofNat 96) (Text.trim s)

namespace SourceTree

variable (src : SourceTree)

/-- Whether a part of a pattern is a name. -/
def isPatternName (i : Nat) : Bool :=
  src.tree.kind i ∈ ["identifier", "shorthand_property_identifier_pattern"]

/-- The parts of a pattern that may bind names: of a pair its value, of a default what it is for. -/
def patternParts (i : Nat) : List Nat :=
  let kind := src.tree.kind i
  if kind = "pair_pattern" then (src.tree.childByField? i "value").toList
  else if kind ∈ ["assignment_pattern", "object_assignment_pattern"] then
    (src.tree.childByField? i "left").toList
  else src.tree.namedChildren i

/-- Identifiers bound by a pattern that is nested at most `fuel` deep, in order. -/
def patternNamesWithin : (fuel : Nat) → Nat → List String
  | 0, _ => []
  | fuel + 1, i =>
    if src.isPatternName i then [src.text i]
    else (src.patternParts i).flatMap (patternNamesWithin fuel)

/-- Identifiers bound by a destructuring pattern, in order. -/
def patternNames (i : Nat) : List String :=
  src.patternNamesWithin src.tree.nodes.size i

/--
How deep patterns may be nested, the names in them included. Each level takes a frame of the stack,
so this is the interpreter's limit on recursion, 1000, less the frames in use where a name is read.
-/
def maxPatternDepth : Nat :=
  989

/-- Whether a pattern is nested at most `depth` deep. -/
def patternFits : (depth : Nat) → Nat → Bool
  | 0, _ => false
  | depth + 1, i => src.isPatternName i || (src.patternParts i).all (patternFits depth)

/-- Whether the name that a node gives to a declaration can be read. -/
def isNameable (i : Nat) : Bool :=
  let n := src.tree.node i
  n.stop ≤ n.start || n.kind ∉ patternKinds || src.patternFits maxPatternDepth i

/-- The name that a node gives to a declaration; other nodes give none. -/
def declaredName? (i : Nat) : Option String :=
  let n := src.tree.node i
  if n.stop ≤ n.start then none
  else if n.kind ∈ patternKinds then
    let names := (src.patternNames i).filter (· ≠ "")
    if names.isEmpty then none else some (Text.join "," names)
  else if n.kind ∈ nameKinds then
    let text := src.text i
    if text = "" || text.toList.any Text.isBlank then none else some text
  else none

/-- The name of a decorator or annotation: what stands between its sign and its arguments. -/
def decoratorName? (i : Nat) : Option String :=
  let text := Text.trim (Text.beforeChar '(' (Text.trimStartWhile (· = '@') (src.text i)))
  if text = "" then none else some text

/-- The head of a type, without type arguments and constructor arguments. -/
def typeName (i : Nat) : String :=
  Text.trim (Text.beforeChar '(' (Text.beforeChar '<' (src.text i)))

end SourceTree

end CodeGraph
