import CodeGraph.Text.Blank
import CodeGraph.Text.Utf8

/-!
# Syntax trees

A concrete syntax tree as a table in preorder: each node knows its parent and its children by
their positions in the table. A `SourceTree` adds the bytes it was read from.

## Main definitions

* `SyntaxNode`, `SyntaxTree`: the table.
* `SyntaxTree.ofRows`: the table of a list of rows with parents.
* `SyntaxTree.childByField?`, `SyntaxTree.ancestors`: steps.
* `SourceTree.text`, `SourceTree.row`, `SourceTree.column`: what a node covers.
-/

namespace CodeGraph

/-- A node of a syntax tree. Anonymous nodes are punctuation and keywords. -/
structure SyntaxNode where
  kind : String
  named : Bool
  field : Option String
  start : Nat
  stop : Nat
  parent : Option Nat
  children : List Nat := []
deriving DecidableEq, Repr, Inhabited

/-- A syntax tree in preorder, the root first. -/
structure SyntaxTree where
  nodes : Array SyntaxNode
  hasError : Bool := false
deriving DecidableEq, Repr, Inhabited

namespace SyntaxTree

/-- Add a node to the children of its parent, before the ones found so far. -/
def attach (nodes : Array SyntaxNode) (i : Nat) : Array SyntaxNode :=
  match (nodes[i]?).bind SyntaxNode.parent with
  | some p => nodes.modify p fun n => { n with children := i :: n.children }
  | none => nodes

/-- The tree of a list of nodes that know their parents. -/
def ofRows (rows : List SyntaxNode) (hasError : Bool) : SyntaxTree where
  nodes := (List.range rows.length).foldr (fun i nodes => attach nodes i) rows.toArray
  hasError := hasError

variable (t : SyntaxTree)

/-- The node at a position. -/
def node (i : Nat) : SyntaxNode :=
  t.nodes.getD i default

/-- The kind of a node. -/
def kind (i : Nat) : String :=
  (t.node i).kind

/-- The parent of a node. -/
def parent? (i : Nat) : Option Nat :=
  (t.node i).parent

/-- The children of a node, in order. -/
def children (i : Nat) : List Nat :=
  (t.node i).children

/-- The named children of a node, in order. -/
def namedChildren (i : Nat) : List Nat :=
  (t.children i).filter fun c => (t.node c).named

/-- The children of a node in a field, in order. -/
def childrenByField (i : Nat) (field : String) : List Nat :=
  (t.children i).filter fun c => (t.node c).field = some field

/-- The first child of a node in a field. -/
def childByField? (i : Nat) (field : String) : Option Nat :=
  (t.childrenByField i field).head?

/-- The first named child of one of some kinds. -/
def namedChild? (i : Nat) (kinds : List String) : Option Nat :=
  (t.namedChildren i).find? fun c => t.kind c ∈ kinds

/-- Whether some child is of a kind. -/
def hasChild (i : Nat) (kind : String) : Bool :=
  (t.children i).any fun c => t.kind c = kind

/-- The next `fuel` ancestors of a node, the nearest first. -/
def ancestorsWithin : (fuel : Nat) → Nat → List Nat
  | 0, _ => []
  | fuel + 1, i =>
    match t.parent? i with
    | none => []
    | some p => p :: ancestorsWithin fuel p

/-- The ancestors of a node, the nearest first. Each stands earlier in the table. -/
def ancestors (i : Nat) : List Nat :=
  t.ancestorsWithin i i

end SyntaxTree

/-- A syntax tree with the bytes it was read from. -/
structure SourceTree where
  tree : SyntaxTree
  bytes : ByteArray

namespace SourceTree

variable (src : SourceTree)

/-- The text that a node covers. -/
def rawText (i : Nat) : String :=
  let n := src.tree.node i
  Utf8.decode (src.bytes.extract n.start n.stop)

/-- The text that a node covers, trimmed. -/
def text (i : Nat) : String :=
  Text.trim (src.rawText i)

/-- The trimmed text of a node that may be missing. -/
def optionalText (i : Option Nat) : String :=
  (i.map src.text).getD ""

/-- Number of line feeds before a byte. -/
def row (offset : Nat) : Nat :=
  (src.bytes.extract 0 offset).data.toList.count 10

/-- Number of bytes between the last line feed and a byte. -/
def column (offset : Nat) : Nat :=
  ((src.bytes.extract 0 offset).data.toList.reverse.takeWhile (· ≠ 10)).length

/-- Line number of the first byte of a node. -/
def startLine (i : Nat) : Nat :=
  src.row (src.tree.node i).start + 1

/-- Line number of the end of a node. -/
def endLine (i : Nat) : Nat :=
  src.row (src.tree.node i).stop + 1

end SourceTree

end CodeGraph
