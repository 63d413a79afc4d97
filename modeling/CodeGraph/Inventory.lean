import CodeGraph.Graph
import CodeGraph.Registry

/-!
# The inventory of definitions

Definitions enter graph and registry together: each gets a node below its file, and a method belongs
to the class around it. A definition whose identifier is taken enters neither.

## Main definitions

* `owningClass?`: the class that a method belongs to.
* `Inventory`: graph, registry and counts.
* `Inventory.enter`, `Inventory.enterAll`: growth; each says what was new.
-/

namespace CodeGraph

/-- Whether a definition covers the whole span of another. -/
def Definition.encloses (outer inner : Definition) : Bool :=
  outer.startByte ≤ inner.startByte && inner.endByte ≤ outer.endByte

/-- The smallest type around a method that has the name of its class; of equal ones the first. -/
def owningClass? (types : List Definition) (method : Definition) : Option Definition :=
  (types.filter fun t => some t.name = method.parentClass && t.encloses method).foldl
    (fun best t =>
      match best with
      | none => some t
      | some b => if t.span < b.span then some t else some b) none

/-- Graph and registry of the definitions entered so far. -/
structure Inventory where
  graph : Graph := {}
  registry : Registry := {}
  /-- Number of definitions whose identifier was taken. -/
  duplicates : Nat := 0
  /-- Number of entered definitions of each kind. -/
  byKind : OrderedMap String Nat := ∅
deriving Inhabited

namespace Inventory

/-- The relationship of a method to its class. -/
def membership? (types : List Definition) (d : Definition) : Option Relationship := do
  let _ ← if d.kind = .methodDecl then present? d.parentClass else none
  let owner ← owningClass? types d
  some (.between .belongsTo d.nodeId owner.nodeId)

/-- The node of a definition. -/
def nodeOf (d : Definition) : Node :=
  { id := d.nodeId, label := d.kind.label, properties := d.properties }

/-- The graph with the node and the relationships of a new definition of a file. -/
def place (g : Graph) (fileId : String) (types : List Definition) (d : Definition) : Graph :=
  let g := (g.insertNode (nodeOf d)).insertRelationship (.between .defines fileId d.nodeId)
  match membership? types d with
  | some r => g.insertRelationship r
  | none => g

/-- Enter a definition of a file with the given types; whether it was new. -/
def enter (fileId : String) (types : List Definition) (v : Inventory) (d : Definition) :
    Inventory × Bool :=
  if v.graph.hasNode d.nodeId then ({ v with duplicates := v.duplicates + 1 }, false)
  else
    ({ v with
      graph := place v.graph fileId types d
      registry := v.registry.addDefinition d
      byKind := v.byKind.increment d.kind.name }, true)

/-- Enter all definitions of a file; how many were new. -/
def enterAll (v : Inventory) (fileId : String) (ds : List Definition) : Inventory × Nat :=
  Count.steps (enter fileId (ds.filter (·.kind.isType))) v ds

/-- Enter all definitions of a file. -/
def addAll (v : Inventory) (fileId : String) (ds : List Definition) : Inventory :=
  (v.enterAll fileId ds).1

end Inventory

end CodeGraph
