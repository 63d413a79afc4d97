import CodeGraph.Json.Basic
import CodeGraph.Language.Basic
import CodeGraph.Tree.Basic

/-!
# Syntax trees by source

The syntax trees of a set of sources, found by language and content digest, and their reader: a tree
is a list of rows in preorder, each with its parent's position.

## Main definitions

* `SyntaxTree.ofJson`: a tree read from its rows.
* `Forest`, `Forest.tree?`: trees by source.
-/

namespace CodeGraph

/-- A natural number of a JSON value; anything else counts as zero. -/
def Json.asNat : Json → Nat
  | .int n => n.toNat
  | _ => 0

/-- A text of a JSON value; anything else counts as empty. -/
def Json.asText : Json → String
  | .text s => s
  | _ => ""

/-- One row: parent, kind, whether it is named, field, and span. -/
def SyntaxNode.ofJson : Json → SyntaxNode
  | .list [parent, kind, named, field, start, stop] =>
    { kind := kind.asText
      named := named.truthy
      field := match field with
        | .text s => some s
        | _ => none
      start := start.asNat
      stop := stop.asNat
      parent := match parent with
        | .int n => if n < 0 then none else some n.toNat
        | _ => none }
  | _ => default

/-- A tree read from its rows. -/
def SyntaxTree.ofJson (v : Json) : SyntaxTree :=
  let rows := match v.field? "nodes" with
    | some (.list rows) => rows.map SyntaxNode.ofJson
    | _ => []
  .ofRows rows (((v.field? "has_error").map Json.truthy).getD false)

/-- Trees by language and content digest. -/
structure Forest where
  trees : OrderedMap String SyntaxTree := ∅
deriving Inhabited

namespace Forest

/-- The key of a source. -/
def key (l : Language) (contentHash : String) : String :=
  l.name ++ ":" ++ contentHash

/-- The tree of a source. -/
def tree? (f : Forest) (l : Language) (contentHash : String) : Option SyntaxTree :=
  f.trees.get? (key l contentHash)

/-- Trees read from an object that holds them under their keys. -/
def ofJson : Json → Forest
  | .object fields => ⟨⟨fields.map fun (k, v) => (k, SyntaxTree.ofJson v)⟩⟩
  | _ => {}

end Forest

end CodeGraph
