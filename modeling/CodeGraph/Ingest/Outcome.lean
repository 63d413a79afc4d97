import CodeGraph.Cache
import CodeGraph.Extract
import CodeGraph.Ingest.Error
import CodeGraph.Manifest
import CodeGraph.Report
import CodeGraph.Selection
import CodeGraph.Tree.Forest

/-!
# Handling one file

A file is harvested as configuration, parsed as source, or skipped. Parse results go through the
cache, and only what is really parsed uses the queries of its language.

## Main definitions

* `Engine`: settings, syntax trees and broken queries of an ingestion engine.
* `FileOutcome`: what became of a file.
* `Engine.handle`: the outcome of a file.
-/

namespace CodeGraph

/-- What an ingestion engine works with. -/
structure Engine where
  settings : Settings := {}
  forest : Forest := {}
  broken : List BrokenQuery := []

/-- What handling a file gave. -/
inductive FileResult where
  | parsed (file : ParsedFile)
  | failed (failure : FileFailure)
  | skipped (reason : SkipReason)
deriving DecidableEq, Repr, Inhabited

/-- What became of a file. -/
structure FileOutcome where
  path : String
  category : Category
  contentHash : String
  fileSize : Nat
  result : FileResult
deriving DecidableEq, Repr, Inhabited

/-- Why a parse gives no result. -/
inductive ParseFault where
  | failed (failure : FileFailure)
  /-- It does not end, and nothing stops it. -/
  | endless
  /-- The names in a pattern are nested too deep. -/
  | tooDeep
deriving DecidableEq, Repr, Inhabited

namespace Engine

variable (e : Engine)

/-- The time limit of a parse, if one is set. -/
def timeout? : Option Double :=
  e.settings.parseTimeout.filter fun t => !t.isZero

/-- The wording of an exceeded time limit. -/
def timeoutReason (limit : Double) : String :=
  "parse exceeded " ++ limit.fixed 1 ++ "s budget"

/-- What a parse that never ends leads to: a failure of the file if there is a time limit. -/
def stall (path : String) : ParseFault :=
  match e.timeout? with
  | some limit => .failed { path, isTimeout := true, reason := timeoutReason limit }
  | none => .endless

/-- Parse a source, without the cache. -/
def parse (stalled : List String) (l : Language) (path content : String) :
    Except ParseFault (ParsedFile × Option SyntaxTree) :=
  if path ∈ stalled then .error (e.stall path)
  else match e.forest.tree? l (Digest.ofText content) with
    | none => .error (.failed { path, reason := "parser returned no tree" })
    | some tree =>
      if (⟨tree, content.toUTF8⟩ : SourceTree).isReadable l e.broken then
        .ok (ParsedFile.extract l e.broken path content tree, some tree)
      else .error .tooDeep

/-- Parse a source in a loaded language, or take its result from the cache. -/
def parseCached (stalled : List String) (l : Language) (path content : String) (cache : Cache) :
    Except IngestError FileResult × Cache :=
  let key : Cache.Source := ⟨path, Digest.ofText content⟩
  match cache.files.getOrParse key fun _ => e.parse stalled l path content with
  | (.error (.corrupted fault), files) =>
    (.error (.corrupted path fault), { cache with files })
  | (.error (.parse (.failed failure)), files) => (.ok (.failed failure), { cache with files })
  | (.error (.parse .endless), files) => (.error (.endless path), { cache with files })
  | (.error (.parse .tooDeep), files) => (.error (.patterns path), { cache with files })
  | (.ok (parsed, true), files) => (.ok (.parsed parsed), { cache with files })
  | (.ok (parsed, false), files) =>
    (.ok (.parsed parsed), { files, queries := cache.queries.compileAll e.broken l })

/-- Handle a source file in a language. -/
def handleSource (s : Selection) (stalled : List String) (language path content : String)
    (cache : Cache) : Except IngestError FileResult × Cache :=
  match s.generated? content with
  | some reason => (.ok (.skipped reason), cache)
  | none =>
    match cache.queries.grammar language with
    | (none, queries) => (.ok (.skipped .unsupportedLanguage), { cache with queries })
    | (some g, queries) => e.parseCached stalled g.language path content { cache with queries }

/-- Handle a configuration file. -/
def handleConfig (path content : String) : Except IngestError FileResult :=
  match Manifest.harvest path content with
  | .ok definitions => .ok (.parsed {
      filePath := path
      language := "config"
      contentHash := Digest.ofText content
      fileSize := Text.length content
      definitions })
  | .error (.malformed reason) => .ok (.failed { path, reason })
  | .error (.unusable fault) => .error (.manifest fault)

/-- Handle a file of a category. -/
def handleCategory (s : Selection) (stalled : List String) (category : Category)
    (path content : String) (cache : Cache) : Except IngestError FileResult × Cache :=
  match category with
  | .config => (handleConfig path content, cache)
  | .other => (.ok (.skipped .nonSource), cache)
  | .source language => e.handleSource s stalled language path content cache

/-- Handle a file. -/
def handle (s : Selection) (stalled : List String) (path content : String) (cache : Cache) :
    Except IngestError FileOutcome × Cache :=
  let category := s.classify path
  match e.handleCategory s stalled category path content cache with
  | (.error err, cache) => (.error err, cache)
  | (.ok result, cache) =>
    (.ok {
      path
      category
      contentHash := Digest.ofText content
      fileSize := Text.length content
      result }, cache)

end Engine

end CodeGraph
