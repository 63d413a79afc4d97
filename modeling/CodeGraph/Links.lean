import CodeGraph.Call
import CodeGraph.Heritage
import CodeGraph.Inventory

/-!
# Links between definitions and files

The three resolutions over an inventory, one after the other: imports, heritage and calls. Each adds
its relationships to the graph that the next one sees.

## Main definitions

* `Links`: the results of the three resolutions, and the linked graph.
* `Links.ofInventory`: the links of an inventory.
-/

namespace CodeGraph

/-- The results of resolution. -/
structure Links where
  imports : Imports
  heritage : Heritage
  calls : Calls
  /-- Number of relationships of calls. -/
  callEdges : Nat
  graph : Graph
deriving DecidableEq, Repr, Inhabited

/-- The links of an inventory of parsed files. -/
def Links.ofInventory (v : Inventory) (fileIds : OrderedMap String String)
    (extraBuiltins : OrderedMap String (List String)) (maxHops : Nat) (parsed : ParsedFiles) :
    Links :=
  let imports := Imports.ofFiles v.registry parsed
  let importMap := imports.map
  let withImports := imports.addTo fileIds v.graph
  let heritage := Heritage.ofFiles v.registry importMap withImports parsed
  let withHeritage := heritage.addTo withImports
  let calls := Calls.ofFiles
    { registry := v.registry, imports := importMap, extraBuiltins, maxHops } withHeritage fileIds
    parsed
  let linked := calls.addTo withHeritage
  { imports, heritage, calls, callEdges := linked.2, graph := linked.1 }

end CodeGraph
