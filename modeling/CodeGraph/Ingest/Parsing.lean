import CodeGraph.Ingest.Outcome
import CodeGraph.Ingest.Plan
import CodeGraph.Inventory
import CodeGraph.Import

/-!
# The parsing stage

Files are handled in batches, and their outcomes are written into graph and registry in order. After
each batch the cache may release memory; before each batch the ingestion may be cancelled.

## Main definitions

* `Parsing`: what has been written so far.
* `Parsing.writeExcluded`, `Parsing.write`: writing of one file.
* `Engine.handleBatch`, `Engine.handleBatches`: handling of all files.
-/

namespace CodeGraph

/-- The state of the parsing stage. -/
structure Parsing where
  inventory : Inventory := {}
  parsed : ParsedFiles := ∅
  processed : Nat := 0
  failed : Nat := 0
  skipped : OrderedMap String Nat := ∅
  parseFailures : List FileFailure := []
  queryFailures : List QueryFailure := []
deriving Inhabited

/-- The language of a category, if it has a name. -/
def Category.languageName? (c : Category) : Option String :=
  present? c.language?

/-- The properties of a skipped file. -/
def skippedProperties (reason : SkipReason) (hasContent : Bool) (category : Category)
    (details : List (String × PropertyValue)) : Properties :=
  ⟨[("skipReason", .text reason.code),
    ("hasContent", .bool hasContent),
    ("noDefinitions", .bool true),
    ("definitionCount", .int 0),
    ("category", .text category.name)]
  ++ (category.languageName?.map fun l => ("language", PropertyValue.text l)).toList
  ++ details⟩

/-- Digest and size of a file as properties. -/
def contentProperties (contentHash : String) (fileSize : Int) : List (String × PropertyValue) :=
  [("contentHash", .text contentHash), ("fileSize", .int fileSize)]

/-- The properties of a file that gave no parse result. -/
def failedProperties (o : FileOutcome) (failure : FileFailure) : Properties :=
  ⟨[("category", .text o.category.name),
    ("language", .text (o.category.language?.getD "")),
    ("hasContent", .bool true),
    ("parseError", .bool true),
    ("parseErrorReason", .text failure.reason),
    ("noDefinitions", .bool true),
    ("definitionCount", .int 0)]
  ++ contentProperties o.contentHash o.fileSize⟩

/-- The properties of a file with some entered definitions. -/
def parsedProperties (category : Category) (file : ParsedFile) (entered : Nat) : Properties :=
  ⟨[("category", .text category.name),
    ("language", .text file.language),
    ("definitionCount", .int entered),
    ("noDefinitions", .bool (entered = 0)),
    ("hasContent", .bool true)]
  ++ contentProperties file.contentHash file.fileSize
  ++ [("hasSyntaxErrors", .bool file.hasSyntaxErrors)]⟩

/-- A report on a query of a file: what stands before and after the first colon. -/
def QueryFailure.ofReport (path language report : String) : QueryFailure where
  path
  language
  query := Text.before ": " report
  reason := (Text.after? ": " report).getD ""

/-- Whether a text has something other than blanks. -/
def hasContent (content : Option String) : Bool :=
  !Text.allBlank (content.getD "")

namespace Parsing

/-- Set properties of a node. -/
def describe (p : Parsing) (fileId : String) (props : Properties) : Parsing :=
  { p with inventory :=
      { p.inventory with graph := p.inventory.graph.setProperties fileId props } }

/-- Count a skipped file. -/
def countSkipped (p : Parsing) (reason : SkipReason) : Parsing :=
  { p with skipped := p.skipped.increment reason.code }

/-- Write an excluded file: it is counted, and described if it has a node. -/
def writeExcluded (fileIds contents : OrderedMap String String) (p : Parsing)
    (file : String × SkipReason) : Parsing :=
  let (path, reason) := file
  let p := p.countSkipped reason
  match fileIds.get? path with
  | none => p
  | some id =>
    p.describe id (skippedProperties reason (hasContent (contents.get? path)) .other [])

/-- Write a parse result: its definitions, then the description of the file. -/
def writeParsed (p : Parsing) (fileId : String) (o : FileOutcome) (file : ParsedFile) : Parsing :=
  let written := p.inventory.enterAll fileId file.definitions
  let p := { p with
    inventory := written.1
    processed := p.processed + 1
    parsed := p.parsed.insert o.path file
    queryFailures :=
      p.queryFailures ++ file.queryErrors.map (QueryFailure.ofReport o.path file.language) }
  p.describe fileId (parsedProperties o.category file written.2)

/-- Write a failed file. -/
def writeFailed (p : Parsing) (fileId : String) (o : FileOutcome) (failure : FileFailure) :
    Parsing :=
  let p := { p with failed := p.failed + 1, parseFailures := p.parseFailures ++ [failure] }
  p.describe fileId (failedProperties o failure)

/-- Write a file that handling skipped. -/
def writeSkipped (p : Parsing) (fileId : String) (content : Option String) (o : FileOutcome)
    (reason : SkipReason) : Parsing :=
  (p.countSkipped reason).describe fileId
    (skippedProperties reason (hasContent content) o.category
      (contentProperties o.contentHash o.fileSize))

/-- Write the outcome of a file. -/
def write (fileIds contents : OrderedMap String String) (p : Parsing) (o : FileOutcome) : Parsing :=
  let fileId := fileIds.getD o.path ""
  match o.result with
  | .parsed file => p.writeParsed fileId o file
  | .failed failure => p.writeFailed fileId o failure
  | .skipped reason => p.writeSkipped fileId (contents.get? o.path) o reason

end Parsing

/-- The items of a list in groups of `n`, the last one perhaps smaller. -/
def batches {α : Type} (n : Nat) : List α → List (List α)
  | [] => []
  | x :: xs => (x :: xs.take (n - 1)) :: batches n (xs.drop (n - 1))
termination_by xs => xs.length
decreasing_by simp only [List.length_cons, List.length_drop]; omega

namespace Engine

variable (e : Engine)

/-- Handle the files of a batch one after the other. -/
def handleBatch (s : Selection) (stalled : List String) (contents : OrderedMap String String) :
    List String → Cache → Except IngestError (List FileOutcome) × Cache
  | [], cache => (.ok [], cache)
  | path :: rest, cache =>
    match e.handle s stalled path (contents.getD path "") cache with
    | (.error err, cache) => (.error err, cache)
    | (.ok o, cache) =>
      match handleBatch s stalled contents rest cache with
      | (.error err, cache) => (.error err, cache)
      | (.ok os, cache) => (.ok (o :: os), cache)

/-- Handle and write batches; the checks left over. -/
def handleBatches (s : Selection) (stalled : List String)
    (fileIds contents : OrderedMap String String) :
    List (List String) → Checks → Parsing → Cache →
      Except IngestError (Parsing × Checks) × Cache
  | [], checks, p, cache => (.ok (p, checks), cache)
  | batch :: rest, checks, p, cache =>
    match checks.pass .parsing with
    | .error err => (.error err, cache)
    | .ok checks =>
      match e.handleBatch s stalled contents batch cache with
      | (.error err, cache) => (.error err, cache)
      | (.ok outcomes, cache) =>
        match cache.relieve? with
        | none => (.error .budget, cache)
        | some (cache, _) =>
          handleBatches s stalled fileIds contents rest checks
            (outcomes.foldl (Parsing.write fileIds contents) p) cache

end Engine

end CodeGraph
