import CodeGraph.Definition
import CodeGraph.Number.Count

/-!
# The knowledge graph

An append-only store of nodes and relationships in insertion order. A second record with a known
identifier is refused. A `Store` guards a graph that has been handed over: once frozen, it changes
no more.

## Main definitions

* `Graph.addNode`, `Graph.addRelationship`: insertion; each says whether the record was new.
* `Graph.setProperties`: merging properties into a node.
* `Store`: a graph with a freeze flag, and its guarded operations.
-/

namespace CodeGraph

/-- A node of the graph. -/
structure Node where
  id : String
  label : NodeKind
  properties : Properties := ∅
deriving DecidableEq, Repr, Inhabited

/-- A directed relationship. -/
structure Relationship where
  id : String
  kind : RelKind
  source : String
  target : String
  properties : Properties := ∅
deriving DecidableEq, Repr, Inhabited

/-- The relationship under the identifier derived from its end points and type. -/
def Relationship.between (kind : RelKind) (source target : String) (properties : Properties := ∅) :
    Relationship :=
  { id := Identifier.ofRelationship source kind target, kind, source, target, properties }

/-- Nodes and relationships in insertion order. -/
structure Graph where
  nodes : List Node := []
  relationships : List Relationship := []
deriving DecidableEq, Repr, Inhabited

namespace Graph

/-- The graph without nodes. -/
def empty : Graph :=
  {}

/-- The node with an identifier. -/
def node? (g : Graph) (id : String) : Option Node :=
  g.nodes.find? (·.id = id)

/-- Whether a node has an identifier. -/
def hasNode (g : Graph) (id : String) : Bool :=
  (g.node? id).isSome

/-- The relationship with an identifier. -/
def relationship? (g : Graph) (id : String) : Option Relationship :=
  g.relationships.find? (·.id = id)

/-- Append a node unless its identifier is taken; whether it was appended. -/
def addNode (g : Graph) (n : Node) : Graph × Bool :=
  if g.hasNode n.id then (g, false) else ({ g with nodes := g.nodes ++ [n] }, true)

/-- Append a relationship unless its identifier is taken; whether it was appended. -/
def addRelationship (g : Graph) (r : Relationship) : Graph × Bool :=
  if (g.relationship? r.id).isSome then (g, false)
  else ({ g with relationships := g.relationships ++ [r] }, true)

/-- Append a node unless its identifier is taken. -/
def insertNode (g : Graph) (n : Node) : Graph :=
  (g.addNode n).1

/-- Append a relationship unless its identifier is taken. -/
def insertRelationship (g : Graph) (r : Relationship) : Graph :=
  (g.addRelationship r).1

/-- Append relationships one after the other; how many were new. -/
def addRelationships (g : Graph) (rs : List Relationship) : Graph × Nat :=
  Count.steps addRelationship g rs

/-- Merge properties into the node with an identifier. -/
def setProperties (g : Graph) (id : String) (props : Properties) : Graph :=
  { g with nodes := g.nodes.map fun n =>
      if n.id = id then { n with properties := n.properties.insertAll props.toList } else n }

/-- Number of nodes per label, in order of first occurrence. -/
def countsByLabel (g : Graph) : OrderedMap String Nat :=
  .tally (g.nodes.map (·.label.name))

/-- Number of relationships per type, in order of first occurrence. -/
def countsByType (g : Graph) : OrderedMap String Nat :=
  .tally (g.relationships.map (·.kind.name))

end Graph

/-- Why a guarded operation was refused. -/
inductive StoreError where
  | frozen
  | unknownNode (id : String)
  | property (fault : PropertyFault)
deriving DecidableEq, Repr

/-- The wording of a refusal. -/
def StoreError.message : StoreError → String
  | frozen => "KnowledgeGraph is frozen; it can no longer be modified"
  | unknownNode id => id
  | property fault => fault.message

/-- A graph that can be frozen. -/
structure Store where
  graph : Graph := {}
  frozen : Bool := false
deriving DecidableEq, Repr, Inhabited

namespace Store

/-- Append a node; whether it was new. -/
def addNode (s : Store) (n : Node) : Except StoreError (Store × Bool) :=
  if s.frozen then .error .frozen
  else
    let (graph, added) := s.graph.addNode n
    .ok ({ s with graph }, added)

/-- Append a relationship; whether it was new. -/
def addRelationship (s : Store) (r : Relationship) : Except StoreError (Store × Bool) :=
  if s.frozen then .error .frozen
  else
    let (graph, added) := s.graph.addRelationship r
    .ok ({ s with graph }, added)

/-- Merge untyped properties into a node, if all of them fit its label. -/
def updateProperties (s : Store) (id : String) (raw : List (String × Json)) :
    Except StoreError Store :=
  if s.frozen then .error .frozen
  else match s.graph.node? id with
    | none => .error (.unknownNode id)
    | some n =>
      match n.label.checkProperties raw with
      | .error fault => .error (.property fault)
      | .ok props => .ok { s with graph := s.graph.setProperties id props }

/-- Refuse every later change. -/
def freeze (s : Store) : Store :=
  { s with frozen := true }

end Store

end CodeGraph
