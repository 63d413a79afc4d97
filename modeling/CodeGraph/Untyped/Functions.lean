import CodeGraph.Containment
import CodeGraph.Import.Candidates
import CodeGraph.Reading.Records
import CodeGraph.Registry
import CodeGraph.Untyped.Decisions

/-!
# Functions by name

The library's functions on paths, names and identifiers, called by name with untyped arguments.

## Main definitions

* `Untyped.functions`: the functions.
* `Untyped.call`: a call by name.
-/

namespace CodeGraph.Untyped

/-- A function on untyped arguments. -/
abbrev Function := List Json → Answer Json

/-- A function of one argument. -/
def unary (f : Json → Answer Json) : Function
  | [a] => f a
  | _ => .error .wrongKind

/-- A function of two arguments. -/
def binary (f : Json → Json → Answer Json) : Function
  | [a, b] => f a b
  | _ => .error .wrongKind

/-- A function of three arguments. -/
def ternary (f : Json → Json → Json → Answer Json) : Function
  | [a, b, c] => f a b c
  | _ => .error .wrongKind

/-- A function of one text; anything else is refused. -/
def ofText (refusal : Refusal) (f : String → Json) : Function :=
  unary fun a => (text refusal a).map f

/-! ### Identifiers -/

/-- The identifier of a definition; arguments stand in it as they are displayed. -/
def nodeId : Function
  | [kind, path, name, start, stop] => .ok (.text (Identifier.ofDefinition kind.display path.display
      name.display start.display stop.display))
  | _ => .error .wrongKind

/-- The identifier of a project, folder, package or file. -/
def structureId : Function := binary fun kind path => do
  let kind ← member NodeKind.ofName? kind
  return .text (Identifier.ofStructure kind path.display)

/-- The identifier of a relationship. -/
def relationshipId : Function := ternary fun source kind target => do
  let kind ← member RelKind.ofName? kind
  return .text (Identifier.ofRelationship source.display kind target.display)

/-! ### Names -/

/-- A part of a name: a value that counts as absent is left out. -/
def namePart (v : Json) : Answer (Option String) :=
  if v.truthy then (text .wrongKind v).map some else .ok none

/-- The qualified name of a definition, perhaps in a class. -/
def qualified (path name parent : Json) : Answer Json := do
  let path ← text .wrongKind path
  let parent ← namePart parent
  let name ← namePart name
  return .text (qualifiedName path (name.getD "") parent)

/-- The qualified name of a definition; the class may be left out. -/
def qualifiedNameOf : Function
  | [path, name] => qualified path name .null
  | [path, name, parent] => qualified path name parent
  | _ => .error .wrongKind

/-- Whether a name stands between double underscores. -/
def specialName : Function := unary fun v => (isSpecialName v).map Json.bool

/-- The parts of a comma separated text. -/
def commaSeparated : Function := unary fun v => do
  if v.truthy then return textsToJson (Text.commaSeparated (← text .noOperation v))
  else return .list []

/-! ### Files -/

/-- The distance between two files. -/
def distance : Function := binary fun a b => do
  return .int (importDistance (← text .noOperation a) (← text .noOperation b))

/-- The nearest of some candidates. -/
def nearest (source candidates : Json) : Answer Json := do
  let items ← elements candidates
  if items.isEmpty then return .null
  else
    let source ← text .noOperation source
    let paths ← items.mapM (text .noOperation)
    return optionalToJson (closest source paths)

/-- Files and directories among some paths. A path that counts as absent is left out. -/
def splitPaths (v : Json) : Answer (List String × List String) := do
  let items ← elements v
  let given := items.filter Json.truthy
  let _ ← given.mapM Key.ofJson
  let paths ← given.mapM (text .noOperation)
  return splitFiles paths

/-- Files and directories among some paths, the directories in order. -/
def filesAndDirectories : Function := unary fun v => do
  let (files, directories) ← splitPaths v
  return .list [textsToJson files, textsToJson (Text.sort directories)]

/-! ### Candidates of imports -/

/-- The candidates of a script import; the importing file matters for relative ones. -/
def scriptPaths : Function := binary fun importer moduleName => do
  let name ← text .noOperation moduleName
  let importer ← if Text.startsWith "." name then text .wrongKind importer else .ok ""
  return textsToJson (scriptCandidates importer name)

/-- The path of a module; the importing file matters for relative imports. -/
def modulePathOf : Function := ternary fun importer moduleName level => do
  match ImportSpec.read (.object [("module", moduleName), ("level", level)]) with
  | .failed issues => throw (.invalid issues)
  | .ok spec =>
    let importer ← if 0 < spec.level then text .wrongKind importer else .ok ""
    return .text (pythonBase importer spec.moduleName spec.level)

/-- The candidates of a module path. -/
def modulePaths : Function := unary fun base => do
  if base.truthy then return textsToJson (pythonCandidates (← text .wrongKind base))
  else return .list []

/-! ### Calls -/

/-- The functions by name. -/
def functions : List (String × Function) :=
  [("node_id", nodeId),
   ("structure_id", structureId),
   ("relationship_id", relationshipId),
   ("normalize_path", ofText .noOperation fun s => .text (Path.normalize s)),
   ("module_path", ofText .wrongKind fun s => .text (modulePath s)),
   ("qualified_name", qualifiedNameOf),
   ("import_distance", distance),
   ("closest", binary nearest),
   ("split_csv", commaSeparated),
   ("file_extension", ofText .wrongKind fun s => .text (Path.lowerExtension s)),
   ("is_config_file", ofText .wrongKind fun s => .bool (isConfigFile s)),
   ("is_dunder", specialName),
   ("hash_content", ofText .noOperation fun s => .text (Digest.ofText s)),
   ("js_candidates", scriptPaths),
   ("java_candidates", ofText .noOperation fun s => textsToJson (javaCandidates s)),
   ("python_base", modulePathOf),
   ("python_candidates", modulePaths),
   ("meaningful_stem", ofText .noOperation fun s => .text (meaningfulStem s)),
   ("split_paths", filesAndDirectories)]

/-- A call by name; an unknown name gives nothing. -/
def call (name : String) (arguments : List Json) : Answer Json :=
  match functions.lookup name with
  | some f => f arguments
  | none => .ok .null

end CodeGraph.Untyped
