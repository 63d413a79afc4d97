import CodeGraph.Cache
import CodeGraph.Call
import CodeGraph.Heritage
import CodeGraph.Integrity
import CodeGraph.Number.Count

/-!
# The diagnostic report

The one place where shortfalls of an ingestion are listed: files that were skipped or failed, imports
and calls without target, and findings about the graph.

## Main definitions

* `FileFailure`, `QueryFailure`: what went wrong in single files.
* `Report`, `Report.toJson`: the report.
-/

namespace CodeGraph

/-- A file that gave no parse result. -/
structure FileFailure where
  path : String
  isTimeout : Bool := false
  reason : String
deriving DecidableEq, Repr, Inhabited

/-- The name a kind of failure is reported under. -/
def FileFailure.errorName (f : FileFailure) : String :=
  if f.isTimeout then "ParseTimeout" else "ParseError"

/-- A query that was skipped for a file. -/
structure QueryFailure where
  path : String
  language : String
  query : String
  reason : String
deriving DecidableEq, Repr, Inhabited

/-- The report on an ingestion. -/
structure Report where
  processed : Nat := 0
  failed : Nat := 0
  skipped : OrderedMap String Nat := ∅
  definitions : OrderedMap String Nat := ∅
  duplicates : Nat := 0
  importsTotal : Nat := 0
  importsResolved : Nat := 0
  importRate : Double
  unresolvedImports : List UnresolvedImport := []
  callRate : Double
  callCounts : List (Classification × Nat) := []
  unresolvedCalls : List UnresolvedCall := []
  heritageResolved : Nat := 0
  heritageUnresolved : Nat := 0
  parseFailures : List FileFailure := []
  queryFailures : List QueryFailure := []
  integrity : IntegrityReport
  nodeCounts : OrderedMap String Nat := ∅
  relationshipCounts : OrderedMap String Nat := ∅
  cache : Cache.Counters
deriving DecidableEq, Repr, Inhabited

/-- Number of skipped files. -/
def Report.skippedTotal (r : Report) : Nat :=
  Count.total r.skipped.values

/-! ### As JSON -/

/-- Counts as JSON. -/
def countsToJson (m : OrderedMap String Nat) : Json :=
  .object (m.toList.map fun (k, n) => (k, .int n))

/-- A failed file as JSON. -/
def FileFailure.toJson (f : FileFailure) : Json :=
  .object [
    ("path", .text f.path),
    ("error", .text f.errorName),
    ("reason", .text f.reason)]

/-- A skipped query as JSON. -/
def QueryFailure.toJson (f : QueryFailure) : Json :=
  .object [
    ("path", .text f.path),
    ("language", .text f.language),
    ("query", .text f.query),
    ("reason", .text f.reason)]

/-- An unresolved import as JSON. -/
def UnresolvedImport.toJson (i : UnresolvedImport) : Json :=
  .object [
    ("file_path", .text i.filePath),
    ("module", .text i.moduleName),
    ("line", .int i.line)]

/-- An unresolved call as JSON. -/
def UnresolvedCall.toJson (c : UnresolvedCall) : Json :=
  .object [
    ("file_path", .text c.filePath),
    ("line", .int c.line),
    ("called_name", .text c.calledName),
    ("receiver", optionalToJson c.receiver),
    ("caller", optionalToJson c.caller)]

/-- A dangling relationship as JSON. -/
def Violation.toJson (v : Violation) : Json :=
  .object [
    ("kind", .text "ReferentialIntegrityViolation"),
    ("relationship_id", .text v.relationshipId),
    ("rel_type", .text v.kind.name),
    ("missing_endpoint", .text v.missing.name),
    ("node_id", .text v.nodeId)]

/-- The findings about a graph as fields of a JSON object. -/
def IntegrityReport.fields (r : IntegrityReport) : List (String × Json) :=
  [("violations", .list (r.violations.map Violation.toJson)),
   ("unflagged_files", .list (r.unflaggedFiles.map PropertyValue.toJson)),
   ("isolated_node_counts", countsToJson r.isolatedCounts),
   ("node_count", .int r.nodeCount),
   ("relationship_count", .int r.relationshipCount)]

/-- Counts of calls as JSON. -/
def callCountsToJson (counts : List (Classification × Nat)) : Json :=
  .object (counts.map fun (c, n) => (c.name, .int n))

/-- The report as fields of a JSON object, without the counters of the cache. -/
def Report.fields (r : Report) : List (String × Json) :=
  [("files_processed", .int r.processed),
   ("files_failed", .int r.failed),
   ("files_skipped", .int r.skippedTotal),
   ("skipped_by_reason", countsToJson r.skipped),
   ("definitions_by_type", countsToJson r.definitions),
   ("duplicate_definitions", .int r.duplicates),
   ("imports_total", .int r.importsTotal),
   ("imports_resolved", .int r.importsResolved),
   ("import_resolution_rate", .float r.importRate),
   ("unresolved_imports", .list (r.unresolvedImports.map UnresolvedImport.toJson)),
   ("call_resolution_rate", .float r.callRate),
   ("call_stats", callCountsToJson r.callCounts),
   ("unresolved_calls", .list (r.unresolvedCalls.map UnresolvedCall.toJson)),
   ("heritage_resolved", .int r.heritageResolved),
   ("heritage_unresolved", .int r.heritageUnresolved),
   ("parse_failures", .list (r.parseFailures.map FileFailure.toJson)),
   ("query_failures", .list (r.queryFailures.map QueryFailure.toJson)),
   ("integrity_violations", .list (r.integrity.violations.map Violation.toJson)),
   ("unflagged_files", .list (r.integrity.unflaggedFiles.map PropertyValue.toJson)),
   ("isolated_node_counts", countsToJson r.integrity.isolatedCounts),
   ("node_counts", countsToJson r.nodeCounts),
   ("relationship_counts", countsToJson r.relationshipCounts)]

/-- The report as JSON. -/
def Report.toJson (r : Report) : Json :=
  .object (r.fields ++ [("cache_stats", r.cache.toJson)])

end CodeGraph
