import CodeGraph.OrderedMap

/-!
# Tries over name segments

A tree whose edges carry segments and whose nodes carry items. All nodes stand in one list, the root
first, and refer to their parent and their children by places in that list. An index by segment
leads to the nodes from below.

## Main definitions

* `Trie.insert`: put an item at the end of a path, creating the nodes on the way.
* `Trie.find?`: the node at the end of a path.
* `Trie.below`: all items of a subtree, the newest child first.
* `Trie.endingWith`: the items at the ends of paths with given trailing segments.
-/

namespace CodeGraph

/-- A node of a trie. -/
structure TrieNode (α : Type) where
  segment : String := ""
  /-- Place of the parent; the root has none. -/
  parent : Option Nat := none
  /-- Places of the children by segment, in order of creation. -/
  children : OrderedMap String Nat := ∅
  items : List α := []
deriving Inhabited

/-- A tree of segments with items at its nodes. -/
structure Trie (α : Type) where
  /-- The nodes in order of creation. -/
  nodes : List (TrieNode α) := [{}]
  /-- Places of the nodes below the root, by segment. -/
  bySegment : OrderedMap String (List Nat) := ∅
deriving Inhabited

namespace Trie

variable {α : Type}

/-- The tree without items. -/
def empty : Trie α :=
  {}

/-- Number of nodes, the root included. -/
def size (t : Trie α) : Nat :=
  t.nodes.length

/-- The node at a place. -/
def node (t : Trie α) (i : Nat) : TrieNode α :=
  t.nodes.getD i {}

/-- The place of the child of a node under a segment. -/
def child? (t : Trie α) (i : Nat) (segment : String) : Option Nat :=
  (t.node i).children.get? segment

/-! ### Insertion -/

/-- Change the node at a place. -/
def modify (t : Trie α) (i : Nat) (f : TrieNode α → TrieNode α) : Trie α :=
  { t with nodes := t.nodes.modify i f }

/-- Give a node a child under a new segment, at the end of the list. -/
def addChild (t : Trie α) (i : Nat) (segment : String) : Trie α :=
  let linked := t.modify i fun n => { n with children := n.children.insert segment t.size }
  { nodes := linked.nodes ++ [{ segment, parent := some i }]
    bySegment := t.bySegment.alter segment [] (· ++ [t.size]) }

/-- Go down from a node along a segment, creating a child where there is none. -/
def descend (state : Trie α × Nat) (segment : String) : Trie α × Nat :=
  let (t, i) := state
  match t.child? i segment with
  | some c => (t, c)
  | none => (t.addChild i segment, t.size)

/-- Put an item at the end of a path. -/
def insert (t : Trie α) (path : List String) (a : α) : Trie α :=
  let (t, i) := path.foldl descend (t, 0)
  t.modify i fun n => { n with items := n.items ++ [a] }

/-! ### Look-up -/

/-- The node at the end of a path. -/
def find? (t : Trie α) (path : List String) : Option Nat :=
  path.foldlM t.child? 0

/-- The items at the end of a path. -/
def itemsAt (t : Trie α) (path : List String) : List α :=
  ((t.find? path).map fun i => (t.node i).items).getD []

/-- Visit the node on top of a stack: its items are found, and its children take its place. -/
def visit (t : Trie α) : List Nat × List α → List Nat × List α
  | ([], found) => ([], found)
  | (i :: stack, found) =>
    ((t.node i).children.values.reverse ++ stack, found ++ (t.node i).items)

/-- Visit one node after the other, up to a number of them. -/
def visits (t : Trie α) : Nat → List Nat × List α → List Nat × List α
  | 0, state => state
  | n + 1, state => t.visits n (t.visit state)

/-- The items at the end of a path and below; no node is visited twice. -/
def below (t : Trie α) (path : List String) : List α :=
  match t.find? path with
  | none => []
  | some i => (t.visits t.size ([i], [])).2

/-- Whether the segments above a node are the given ones, from the lowest on. -/
def climbs (t : Trie α) : Option Nat → List String → Bool
  | _, [] => true
  | none, _ :: _ => false
  | some i, segment :: above =>
    i ≠ 0 && (t.node i).segment = segment && t.climbs (t.node i).parent above

/-- The items at the ends of paths with given trailing segments. -/
def endingWith (t : Trie α) (segments : List String) : List α :=
  match segments.reverse with
  | [] => []
  | last :: above =>
    ((t.bySegment.getD last []).filter fun i => t.climbs (t.node i).parent above).flatMap
      fun i => (t.node i).items

end Trie

end CodeGraph
