import CodeGraph.Ingest.Parsing
import CodeGraph.Links

/-!
# Ingestion

The whole way from a request to a frozen graph with its report: plan, containment skeleton, parsing,
and the links between what was found. The cache comes back also when an ingestion fails.

The files of a batch are handled one after the other. Workers that share a batch give their outcomes
in the order of its files, so what is left out with them is only the order of look-ups in the cache.
Left out as well are log messages, the counters of a monitor, and the time that a run takes. Of the
limits of the interpreter, those on nesting are there where a file can reach them; the stack that a
chain of re-exports needs is not, nor are time limits beyond what a clock can hold.

## Main definitions

* `IngestResult`: graph, report, and look-ups in the cache.
* `Engine.run`: one ingestion.
-/

namespace CodeGraph

/-- What an ingestion gives. -/
structure IngestResult where
  store : Store
  report : Report
  /-- Look-ups of this ingestion that found a parse result. -/
  cacheHits : Nat
  /-- Look-ups of this ingestion that found none. -/
  cacheMisses : Nat

namespace Engine

variable (e : Engine)

/-- The containment skeleton of a plan. -/
def skeleton (request : Request) (plan : Plan) : Except IngestError Containment :=
  match Containment.build? request.projectName request.projectRoot plan.visible with
  | some c => .ok c
  | none => .error .tooDeep

/-- The state of the parsing stage before the first batch. -/
def beforeParsing (request : Request) (plan : Plan) (c : Containment) : Parsing :=
  let start : Parsing :=
    { inventory :=
        { graph := c.graph
          registry := plan.visible.foldl Registry.registerFile Registry.empty } }
  plan.excluded.foldl (Parsing.writeExcluded c.fileIds request.fileContents) start

/-- The links of a finished parsing stage. -/
def links (c : Containment) (p : Parsing) : Links :=
  Links.ofInventory p.inventory c.fileIds e.settings.extraBuiltins e.settings.maxReexportDepth
    p.parsed

/-- The report on a finished ingestion. -/
def report (p : Parsing) (l : Links) (cache : Cache) : Report where
  processed := p.processed
  failed := p.failed
  skipped := p.skipped
  definitions := p.inventory.byKind
  duplicates := p.inventory.duplicates
  importsTotal := l.imports.total
  importsResolved := l.imports.resolved
  importRate := l.imports.rate
  unresolvedImports := l.imports.unresolved
  callRate := l.calls.rate
  callCounts := l.calls.stats.toList
  unresolvedCalls := l.calls.unresolved
  heritageResolved := l.heritage.resolved
  heritageUnresolved := l.heritage.unresolved
  parseFailures := p.parseFailures
  queryFailures := p.queryFailures
  integrity := l.graph.validate
  nodeCounts := l.graph.countsByLabel
  relationshipCounts := l.graph.countsByType
  cache := cache.counters

/-- The result of a finished parsing stage; `before` is the cache at the start. -/
def finish (c : Containment) (p : Parsing) (before cache : Cache) : IngestResult :=
  let l := e.links c p
  { store := { graph := l.graph, frozen := true }
    report := report p l cache
    cacheHits := cache.files.region.hits - before.files.region.hits
    cacheMisses := cache.files.region.misses - before.files.region.misses }

/-- The skeleton of a plan, with the checks left before the first batch. -/
def begun (request : Request) (plan : Plan) (checks : Checks) :
    Except IngestError (Containment × Checks) := do
  let checks ← checks.pass .structure
  let c ← skeleton request plan
  let checks ← checks.pass .parsing
  return (c, checks)

/-- Carry a plan out, from the first check for cancellation on. -/
def execute (request : Request) (plan : Plan) (i : Interruptions) (cache : Cache) :
    Except IngestError IngestResult × Cache :=
  match begun request plan i.cancelAfter with
  | .error err => (.error err, cache)
  | .ok (c, checks) =>
    let groups := batches e.settings.batchSize plan.pending
    match e.handleBatches plan.selection i.stalled c.fileIds request.fileContents groups checks
        (beforeParsing request plan c) cache with
    | (.error err, after) => (.error err, after)
    | (.ok (p, checks), after) =>
      match checks.passAll [.imports, .heritage, .calls, .validation] with
      | .error err => (.error err, after)
      | .ok _ => (.ok (e.finish c p cache after), after)

/-- One ingestion. -/
def run (request : Request) (i : Interruptions) (cache : Cache) :
    Except IngestError IngestResult × Cache :=
  match Plan.ofRequest e.settings request with
  | .error err => (.error err, cache)
  | .ok plan => e.execute request plan i cache

end Engine

end CodeGraph
