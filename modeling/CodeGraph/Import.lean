import CodeGraph.Graph
import CodeGraph.Import.Resolution
import CodeGraph.Number.Count

/-!
# Import resolution

Every import definition of the parsed files is resolved. The results are the import map that later
stages look names up in, one relationship for each pair of files, and the imports left over.

## Main definitions

* `ImportMap`: bindings and wildcard targets of each file.
* `UnresolvedImport`: an import that no registered file answers.
* `ImportEdges.add`, `ImportEdge.merge`: the relationships that leave a file, target by target.
* `ResolvedFile.add`: counters, bindings and relationships of a file, import by import.
* `Imports.ofFiles`, `Imports.relationships`: the resolved imports of all files.
-/

namespace CodeGraph

/-- What the imports of one file bind. -/
structure FileImports where
  bindings : OrderedMap String ImportBinding := ∅
  wildcards : List String := []
deriving DecidableEq, Repr, Inhabited

/-- What the imports of each file bind. -/
abbrev ImportMap := OrderedMap String FileImports

namespace ImportMap

/-- The binding of a name in a file. -/
def binding? (m : ImportMap) (path name : String) : Option ImportBinding :=
  (m.get? path).bind fun f => f.bindings.get? name

/-- The bindings of a file. -/
def bindings (m : ImportMap) (path : String) : OrderedMap String ImportBinding :=
  (m.getD path {}).bindings

/-- The files all of whose names a file imports. -/
def wildcards (m : ImportMap) (path : String) : List String :=
  (m.getD path {}).wildcards

end ImportMap

/-- Add a binding unless its name is bound. -/
def FileImports.addBinding (f : FileImports) (b : ImportBinding) : FileImports :=
  { f with bindings := f.bindings.insertNew b.localName b }

/-- Add a wildcard target once. -/
def FileImports.addWildcard (f : FileImports) (target : String) : FileImports :=
  if target ∈ f.wildcards then f else { f with wildcards := f.wildcards ++ [target] }

/-- Add what a target of an import binds. -/
def FileImports.add (f : FileImports) (t : ImportTarget) : FileImports :=
  let f := t.bindings.foldl FileImports.addBinding f
  if t.isWildcard then f.addWildcard t.resolution.target else f

/-- An import that no registered file answers. -/
structure UnresolvedImport where
  filePath : String
  moduleName : String
  line : Int
deriving DecidableEq, Repr, Inhabited

/-- What a relationship between two files records about the imports behind it. -/
structure ImportEdge where
  moduleName : String
  confidence : Double
  strategy : Strategy
  names : List String
deriving DecidableEq, Repr, Inhabited

/-- The name that a binding takes from its target. -/
def ImportBinding.takenName (b : ImportBinding) : String :=
  (present? b.importedName).getD b.localName

/--
A further import between the same files: names are joined, and a resolution that is trusted more
takes over.
-/
def ImportEdge.merge (e : ImportEdge) (names : List String) (r : Resolution) : ImportEdge :=
  let joined := { e with names := Text.distinct (e.names ++ names) }
  if e.confidence.isLess r.confidence then
    { joined with confidence := r.confidence, strategy := r.strategy }
  else joined

/-- The relationships that leave one file, by target. -/
abbrev ImportEdges := OrderedMap String ImportEdge

/-- Record a target of an import of a module. -/
def ImportEdges.add (edges : ImportEdges) (moduleName : String) (t : ImportTarget) : ImportEdges :=
  let names := t.bindings.map ImportBinding.takenName
  let r := t.resolution
  match edges.get? r.target with
  | none => edges.insert r.target ⟨moduleName, r.confidence, r.strategy, names⟩
  | some e => edges.insert r.target (e.merge names r)

/-- The imports of one file: what they bind, their relationships, and what is left over. -/
structure ResolvedFile where
  path : String
  total : Nat := 0
  resolved : Nat := 0
  bound : FileImports := {}
  edges : ImportEdges := ∅
  unresolved : List UnresolvedImport := []
deriving DecidableEq, Repr, Inhabited

namespace ResolvedFile

/-- Record an import with the targets it was resolved to. -/
def add (f : ResolvedFile) (d : Definition) (spec : ImportSpec) (targets : List ImportTarget) :
    ResolvedFile :=
  let counted := { f with total := f.total + 1 }
  if targets.isEmpty then
    let line := if spec.line = 0 then d.startLine else spec.line
    { counted with unresolved := f.unresolved ++ [⟨f.path, d.name, line⟩] }
  else
    { counted with
      resolved := f.resolved + 1
      bound := targets.foldl FileImports.add f.bound
      edges := targets.foldl (fun es t => es.add d.name t) f.edges }

/-- Resolve an import definition and record the result. -/
def addImport (r : Registry) (language : String) (f : ResolvedFile) (d : Definition) :
    ResolvedFile :=
  match d.importSpec with
  | none => f
  | some spec => f.add d spec (r.resolveImport f.path language spec)

/-- The resolved imports of a parsed file. -/
def ofParsed (r : Registry) (path : String) (parsed : ParsedFile) : ResolvedFile :=
  parsed.imports.foldl (addImport r parsed.language) { path }

end ResolvedFile

/-- Parsed files by their paths. -/
abbrev ParsedFiles := OrderedMap String ParsedFile

/-- The parsed files in order of their paths. -/
def ParsedFiles.sorted (files : ParsedFiles) : List (String × ParsedFile) :=
  Sorting.sort (fun a b => decide (a.1 ≤ b.1)) files.toList

/-- The properties of a relationship between two files. -/
def ImportEdge.properties (e : ImportEdge) : Properties :=
  ⟨[("module", .text e.moduleName),
    ("confidence", .float e.confidence),
    ("strategy", .text e.strategy.name),
    ("names", .texts e.names)]⟩

/-- The resolved imports of all files. -/
structure Imports where
  files : List ResolvedFile
deriving DecidableEq, Repr, Inhabited

namespace Imports

/-- The resolved imports of the parsed files, in order of their paths. -/
def ofFiles (r : Registry) (parsed : ParsedFiles) : Imports where
  files := (ParsedFiles.sorted parsed).map fun (path, p) => .ofParsed r path p

/-- Number of imports. -/
def total (i : Imports) : Nat :=
  Count.total (i.files.map ResolvedFile.total)

/-- Number of resolved imports. -/
def resolved (i : Imports) : Nat :=
  Count.total (i.files.map ResolvedFile.resolved)

/-- The imports left over. -/
def unresolved (i : Imports) : List UnresolvedImport :=
  i.files.flatMap ResolvedFile.unresolved

/-- The share of resolved imports. -/
def rate (i : Imports) : Double :=
  .ratio i.resolved i.total

/-- What the imports of each file bind. -/
def map (i : Imports) : ImportMap :=
  .ofList (i.files.map fun f => (f.path, f.bound))

/-- The relationship of an edge whose files both have nodes. -/
def relationship? (fileIds : OrderedMap String String) (source target : String) (e : ImportEdge) :
    Option Relationship := do
  let sourceId ← fileIds.get? source
  let targetId ← fileIds.get? target
  some (.between .imports sourceId targetId e.properties)

/-- The relationships between files with nodes. -/
def relationships (i : Imports) (fileIds : OrderedMap String String) : List Relationship :=
  i.files.flatMap fun f =>
    f.edges.toList.filterMap fun (target, e) => relationship? fileIds f.path target e

/-- The graph with the relationships between files. -/
def addTo (i : Imports) (fileIds : OrderedMap String String) (g : Graph) : Graph :=
  (i.relationships fileIds).foldl Graph.insertRelationship g

end Imports

end CodeGraph
