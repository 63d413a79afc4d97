import CodeGraph.Path
import CodeGraph.Reading

/-!
# Ingestion requests

The files to ingest with their contents, the filters a user asks for, and the project they belong
to. Paths are normalized when a request is made.
-/

namespace CodeGraph

/-- Filters of a user: comma separated directory parts and extensions to keep. -/
structure Options where
  directoryFilter : Option String := none
  fileExtensions : Option String := none
deriving DecidableEq, Repr, Inhabited

/-- A comma separated text, also as a list of values. -/
def Options.readFilter : Reading (Option String) := fun v =>
  Reading.nullable Reading.text
    (match v with
    | .list items => .text (Text.join "," (items.map Json.display))
    | v => v)

/-- Read options. -/
def Options.read : Reading Options := Reading.record fun fs =>
  Options.mk
    <$> Reading.withDefault fs "directory_filter" Options.readFilter none
    <*> Reading.withDefault fs "file_extensions" Options.readFilter none

/-- What to ingest. -/
structure Request where
  filePaths : List String
  fileContents : OrderedMap String String := ∅
  options : Options := {}
  projectName : String := "project"
  projectRoot : String := ""
deriving DecidableEq, Repr, Inhabited

/--
The request with normalized paths. Empty paths are dropped, and of two contents for one path the
later one counts.
-/
def Request.normalized (r : Request) : Request :=
  { r with
    filePaths := (r.filePaths.map Path.normalize).filter (· ≠ "")
    fileContents := .ofList (r.fileContents.toList.map fun (p, c) => (Path.normalize p, c)) }

/-- Read a request. -/
def Request.read : Reading Request := Reading.record fun fs =>
  Request.normalized <$> (Request.mk
    <$> Reading.required fs "file_paths" (Reading.list Reading.text)
    <*> Reading.withDefault fs "file_contents" (Reading.dict Reading.text) ∅
    <*> Reading.withDefault fs "options" Options.read {}
    <*> Reading.withDefault fs "project_name" Reading.text "project"
    <*> Reading.withDefault fs "project_root" Reading.text "")

/-- An optional text as JSON. -/
def optionalToJson (s : Option String) : Json :=
  (s.map .text).getD .null

/-- Options as JSON. -/
def Options.toJson (o : Options) : Json :=
  .object [
    ("directory_filter", optionalToJson o.directoryFilter),
    ("file_extensions", optionalToJson o.fileExtensions)]

/-- A request as JSON. -/
def Request.toJson (r : Request) : Json :=
  .object [
    ("file_paths", .list (r.filePaths.map .text)),
    ("file_contents", .object (r.fileContents.toList.map fun (p, c) => (p, .text c))),
    ("options", r.options.toJson),
    ("project_name", .text r.projectName),
    ("project_root", .text r.projectRoot)]

end CodeGraph
