import CodeGraph.Containment
import CodeGraph.Ingest.Error
import CodeGraph.Selection

/-!
# The plan of an ingestion

Which of the requested files take part. Files that only lack content stay visible in the graph; files
that filters or ignore rules exclude do not.

## Main definitions

* `Plan`: files with their exclusions.
* `Plan.ofRequest`: the plan of a request, if anything is left to ingest.
* `Plan.visible`, `Plan.pending`: the files with nodes, and those to be parsed.
-/

namespace CodeGraph

/-- The files of an ingestion, each with the reason to exclude it, if there is one. -/
structure Plan where
  selection : Selection
  files : List (String × Option SkipReason)

namespace Plan

/-- Whether a file with this exclusion has a node: it is kept, or only lacks content. -/
def isVisible (reason : Option SkipReason) : Bool :=
  reason = none || reason = some .empty

/-- Whether a file was excluded by the user's filters. -/
def isFiltered (reason : Option SkipReason) : Bool :=
  reason = some .directoryFilter || reason = some .extensionFilter

/-- The files that have nodes. -/
def visible (p : Plan) : List String :=
  (p.files.filter fun f => isVisible f.2).map Prod.fst

/-- The files that are parsed. -/
def pending (p : Plan) : List String :=
  (p.files.filter fun f => f.2.isNone).map Prod.fst

/-- The files that are excluded, with the reasons. -/
def excluded (p : Plan) : List (String × SkipReason) :=
  p.files.filterMap fun (path, reason) => reason.map (path, ·)

/-- The plan of a request. -/
def ofRequest (settings : Settings) (request : Request) : Except IngestError Plan :=
  if request.filePaths.isEmpty then .error .noFiles
  else
    let selection := Selection.ofSettings settings request.options
    let files := (splitFiles request.filePaths).1.map fun path =>
      (path, selection.exclusion? path (request.fileContents.get? path))
    if selection.hasFilters && files.all fun f => isFiltered f.2 then
      .error (.filteredOut files.length)
    else .ok { selection, files }

end Plan

end CodeGraph
