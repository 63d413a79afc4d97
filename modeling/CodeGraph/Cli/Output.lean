import CodeGraph.Ingest
import CodeGraph.Json.Printer
import CodeGraph.Language.Availability
import CodeGraph.Terminal.Table

/-!
# Output of commands

A command prints a JSON document, or for people sentences and tables.

## Main definitions

* `Output`: a document, or rows of cells.
* `Block`: a sentence, a table or some lines, as they are shown to people.
* `Printed`: what is printed, up to a block that cannot be shown.
* `Printed.ofResult`, `Printed.ofLanguages`: what the commands print.
-/

namespace CodeGraph.Cli

/-- What a command prints. A sentence is a row of one cell. -/
inductive Output where
  | document (v : Json)
  | rows (lines : List (List String))
deriving Repr, Inhabited

/-- What is shown to people, in markup. -/
inductive Block where
  | sentence (markup : String)
  | table (t : Terminal.Table)
  | lines (ls : List String)
deriving Repr, Inhabited

/-- What was printed, and what kept the rest from being shown. -/
structure Printed where
  output : Output
  fault : Option Markup.Fault := none
deriving Repr, Inhabited

/-- The lines of a markup. -/
def markupLines (markup : String) : Except Markup.Fault (List String) :=
  (Markup.render markup).map Terminal.lines

namespace Block

/-- The rows of a block. -/
def rows : Block → Except Markup.Fault (List (List String))
  | sentence markup => (markupLines markup).map fun ls => ls.map ([·])
  | table t => t.lines
  | lines ls => .ok (ls.map ([·]))

/-- The rows of some blocks, up to one that cannot be shown. -/
def print : List Block → List (List String) × Option Markup.Fault
  | [] => ([], none)
  | b :: bs =>
    match b.rows with
    | .error fault => ([], some fault)
    | .ok rs =>
      let (rest, fault) := print bs
      (rs ++ rest, fault)

/-- A table of counts in order of their names. -/
def counts (title header : String) (counts : OrderedMap String Nat) : Block :=
  let sorted := counts.toList.mergeSort fun a b => decide (a.1 ≤ b.1)
  table ⟨title, [header, "Count"], sorted.map fun (k, n) => [k, toString n]⟩

/-- A table that is left out if it has no rows. -/
def optionalTable (t : Terminal.Table) : List Block :=
  if t.rows.isEmpty then [] else [table t]

/-- The sentence about files. -/
def filesSentence (r : Report) (elapsed : Double) : String :=
  "Files  processed " ++ toString r.processed ++ "  failed " ++ toString r.failed ++ "  skipped "
    ++ toString r.skippedTotal ++ "  (" ++ elapsed.fixed 2 ++ "s)"

/-- The sentence about resolution. -/
def resolutionSentence (r : Report) : String :=
  "Import resolution: " ++ toString r.importsResolved ++ "/" ++ toString r.importsTotal ++ " ("
    ++ r.importRate.percent 1 ++ ")   Call resolution: " ++ r.callRate.percent 1

/-- The sentence about integrity. -/
def integritySentence (r : IntegrityReport) : String :=
  if r.ok then "Integrity check passed."
  else "Integrity: " ++ toString r.violations.length ++ " dangling endpoints, "
    ++ toString r.unflaggedFiles.length ++ " unflagged files"

/-- The report for people. -/
def ofReport (r : Report) (elapsed : Double) : List Block :=
  [sentence (filesSentence r elapsed),
   counts "Nodes" "Label" r.nodeCounts,
   counts "Relationships" "Type" r.relationshipCounts]
  ++ (if r.skipped.toList.isEmpty then [] else [counts "Skipped files" "Reason" r.skipped])
  ++ [table ⟨"Call sites", ["Classification", "Count"],
        r.callCounts.map fun (c, n) => [c.name, toString n]⟩,
      sentence (resolutionSentence r)]
  ++ optionalTable ⟨"Parse failures", ["File", "Error", "Reason"],
      r.parseFailures.map fun f => [f.path, f.errorName, f.reason]⟩
  ++ optionalTable ⟨"Unresolved imports", ["File", "Line", "Module"],
      r.unresolvedImports.map fun i => [i.filePath, toString i.line, i.moduleName]⟩
  ++ [sentence (integritySentence r.integrity)]

/-- The graph for people. -/
def ofGraph (g : Graph) : Block :=
  lines ((g.toJson.lines false 0).map Text.trim)

/-- The listing of languages for people. -/
def ofLanguages (broken : List BrokenQuery) : Block :=
  table ⟨"Grammars", ["Language", "Available", "Queries", "Failed"],
    (Availability.all broken).map fun a =>
      [a.language.name, "yes", toString a.queries, Text.join ", " (a.failed.map QueryName.name)]⟩

end Block

/-- The document of an ingestion. -/
def resultDocument (r : IngestResult) (elapsed : Double) (withGraph : Bool) : Json :=
  let report := Json.object (r.report.fields
    ++ [("cache_stats", r.report.cache.toJson), ("elapsed_seconds", .float elapsed)])
  .object (("report", report) :: if withGraph then [("graph", r.store.graph.toJson)] else [])

namespace Printed

/-- Blocks as they are printed. -/
def ofBlocks (bs : List Block) : Printed :=
  let (rows, fault) := Block.print bs
  { output := .rows rows, fault }

/-- What an ingestion that took some seconds prints. -/
def ofResult (r : IngestResult) (elapsed : Double) (humanize withGraph : Bool) : Printed :=
  if humanize then
    ofBlocks (Block.ofReport r.report elapsed
      ++ if withGraph then [Block.ofGraph r.store.graph] else [])
  else { output := .document (resultDocument r elapsed withGraph) }

/-- What the listing of languages prints. -/
def ofLanguages (broken : List BrokenQuery) (humanize : Bool) : Printed :=
  if humanize then ofBlocks [Block.ofLanguages broken]
  else { output := .document (Availability.allToJson broken) }

end Printed

/-- The printed text: the document with indentation, or cells with bars between them. -/
def Output.text : Output → String
  | document v => v.pretty true
  | rows lines => Text.join "\n" (lines.map (Text.join " | "))

end CodeGraph.Cli
