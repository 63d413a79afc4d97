import CodeGraph.Cache.Files
import CodeGraph.Manifest

/-!
# What stops an ingestion

Shortfalls of single files are listed in the report; only what is named here ends an ingestion
without a graph.

## Main definitions

* `Stage`: the stages of an ingestion.
* `IngestError`, `IngestError.message`: what stops one.
* `Interruptions`, `Checks.pass`: cancellation between stages.
-/

namespace CodeGraph

/-- The stages of an ingestion, at whose start it may be cancelled. -/
inductive Stage where
  | structure : Stage
  | parsing : Stage
  | imports : Stage
  | heritage : Stage
  | calls : Stage
  | validation : Stage
deriving DecidableEq, Repr, Inhabited

/-- The name of a stage. -/
def Stage.name : Stage → String
  | .structure => "structure"
  | .parsing => "parsing"
  | .imports => "imports"
  | .heritage => "heritage"
  | .calls => "calls"
  | .validation => "validation"

/-- What ends an ingestion without a graph. -/
inductive IngestError where
  | noFiles
  | filteredOut (count : Nat)
  | cancelled (stage : Stage)
  | corrupted (path : String) (fault : Cache.Corruption)
  | manifest (fault : Manifest.Fault)
  /-- Folders are nested too deep. -/
  | tooDeep
  /-- A parse never ends, and there is no time limit. -/
  | endless (path : String)
  /-- Patterns in a source file are nested too deep. -/
  | patterns (path : String)
  /-- The byte budget of the cache has no low-water mark. -/
  | budget
deriving DecidableEq, Repr

/-- The wording of an error; what no user is told about has none. -/
def IngestError.message : IngestError → String
  | noFiles => "No file paths to ingest"
  | filteredOut count =>
    "Directory / extension filters left no files out of " ++ toString count
  | cancelled stage => "Ingestion cancelled during " ++ stage.name
  | corrupted path fault => "Corrupted cache entry for " ++ path ++ ": " ++ fault.reason
  | manifest _ | tooDeep | endless _ | patterns _ | budget => ""

/-- Number of checks that will pass before an ingestion is cancelled, if it ever is. -/
abbrev Checks := Option Nat

/-- Check for cancellation at the start of a stage; the checks left. -/
def Checks.pass (checks : Checks) (stage : Stage) : Except IngestError Checks :=
  match checks with
  | none => .ok none
  | some 0 => .error (.cancelled stage)
  | some (n + 1) => .ok (some n)

/-- Check for cancellation at the start of several stages. -/
def Checks.passAll (checks : Checks) (stages : List Stage) : Except IngestError Checks :=
  stages.foldlM Checks.pass checks

/-- What happens to an ingestion from outside: files whose parse never ends, and cancellation. -/
structure Interruptions where
  stalled : List String := []
  cancelAfter : Checks := none
deriving DecidableEq, Repr, Inhabited

end CodeGraph
