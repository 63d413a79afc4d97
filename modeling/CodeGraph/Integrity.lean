import CodeGraph.Graph

/-!
# Integrity of a graph

What is wrong with a graph, reported and never raised: relationships with a missing end point,
files with content that neither define anything nor say so, and the number of nodes without any
relationship.

## Main definitions

* `Violation`, `IntegrityReport`: the findings.
* `Graph.validate`: the findings for a graph.
-/

namespace CodeGraph

/-- An end of a relationship. -/
inductive Endpoint where
  | source
  | target
deriving DecidableEq, Repr, Inhabited

/-- The name an end is written under. -/
def Endpoint.name : Endpoint → String
  | source => "source"
  | target => "target"

/-- The node identifier at an end of a relationship. -/
def Relationship.endpoint (r : Relationship) : Endpoint → String
  | .source => r.source
  | .target => r.target

/-- A relationship whose node at one end is missing. -/
structure Violation where
  relationshipId : String
  kind : RelKind
  missing : Endpoint
  nodeId : String
deriving DecidableEq, Repr, Inhabited

/-- The findings for a graph. -/
structure IntegrityReport where
  violations : List Violation
  unflaggedFiles : List PropertyValue
  isolatedCounts : OrderedMap String Nat
  nodeCount : Nat
  relationshipCount : Nat
deriving DecidableEq, Repr, Inhabited

/-- Nothing is dangling and every file with content is accounted for. -/
def IntegrityReport.ok (r : IntegrityReport) : Bool :=
  r.violations.isEmpty && r.unflaggedFiles.isEmpty

/-- Whether a property of a node is set to something that counts as present. -/
def Node.flagged (n : Node) (key : String) : Bool :=
  ((n.properties.get? key).map PropertyValue.truthy).getD false

namespace Graph

/-- The missing end points of one relationship. -/
def violationsOf (g : Graph) (r : Relationship) : List Violation :=
  [Endpoint.source, .target].filterMap fun e =>
    if g.hasNode (r.endpoint e) then none
    else some { relationshipId := r.id, kind := r.kind, missing := e, nodeId := r.endpoint e }

/-- Whether some relationship starts or ends at a node. -/
def isConnected (g : Graph) (id : String) : Bool :=
  g.relationships.any fun r => r.source = id || r.target = id

/-- Whether a node is the source of a `defines` relationship. -/
def definesSomething (g : Graph) (id : String) : Bool :=
  g.relationships.any fun r => r.kind = .defines && r.source = id

/-- Whether a node is a file with content that defines nothing and does not say so. -/
def isUnflagged (g : Graph) (n : Node) : Bool :=
  n.label = .file && n.flagged "hasContent" && !g.definesSomething n.id
    && !n.flagged "noDefinitions"

/-- The findings for a graph. -/
def validate (g : Graph) : IntegrityReport where
  violations := g.relationships.flatMap g.violationsOf
  unflaggedFiles := (g.nodes.filter g.isUnflagged).map fun n =>
    n.properties.getD "path" (.text n.id)
  isolatedCounts := .tally ((g.nodes.filter fun n => !g.isConnected n.id).map (·.label.name))
  nodeCount := g.nodes.length
  relationshipCount := g.relationships.length

end Graph

end CodeGraph
