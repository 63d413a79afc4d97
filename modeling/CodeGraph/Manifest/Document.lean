import CodeGraph.Json.Reader
import CodeGraph.Manifest.Fault
import CodeGraph.Manifest.Lines

/-!
# Definitions of JSON documents

Only the names of objects matter. They may hold lone surrogates; such a name has no identifier, and
the first one stops the file.

## Main definitions

* `Manifest.Document`: the objects of a JSON document.
* `Manifest.harvestPackage`, `Manifest.harvestTsconfig`: the definitions of the two formats.
-/

namespace CodeGraph.Manifest

/-- A JSON document reduced to its objects. -/
inductive Document where
  | leaf
  | object (fields : List (CodeText × Document))
deriving Repr, Inhabited

/-- Reading into documents. -/
def Document.builder : Json.Builder Document where
  null := leaf
  bool _ := leaf
  int _ := leaf
  float _ := leaf
  text _ := leaf
  list _ := leaf
  object := object

/--
How deep lists and objects of a document may be nested. Each level takes a frame of the stack, so
this is the interpreter's limit on recursion, 1000, less the frames in use where a document is read.
-/
def maxNesting : Nat := 988

/-- How large a document may be. -/
def Document.limits : Json.Limits :=
  { depth := some maxNesting, digits := some maxDigits }

/-- The fields of an object. -/
abbrev Document.Fields := List (CodeText × Document)

/-- Why a document was not read. -/
def jsonFailure (content : String) (fault : Json.Fault) : Failure :=
  match fault.kind with
  | .tooManyDigits => .unusable .tooManyDigits
  | .tooDeep => .unusable .tooDeep
  | _ => .malformed ("invalid JSON: " ++ fault.describe content)

/-- The fields of a document that has to be an object. -/
def loadJson (content : String) : Except Failure Document.Fields :=
  match Json.read Document.builder Document.limits content with
  | .error fault => .error (jsonFailure content fault)
  | .ok (.object fields) => .ok fields
  | .ok .leaf => .error (.malformed "expected a JSON object at top level")

/-- The field of an object with a given name. -/
def Document.Fields.field? (fields : Document.Fields) (name : String) : Option Document :=
  fields.lookup (.ofString name)

/-- The names in a section of a document, or none if it is not an object. -/
def sectionNames (fields : Document.Fields) (name : String) : List CodeText :=
  match fields.field? name with
  | some (.object inner) => inner.map Prod.fst
  | _ => []

/-- A name between double quotes. -/
def inQuotes (name : String) : String :=
  "\"" ++ name ++ "\""

/-- The name of a definition of a kind, if it can be identified. -/
def identifiable (path : String) (kind : DefinitionKind) (name : CodeText) :
    Except Fault String :=
  match name.toString? with
  | some n => .ok n
  | none =>
    let source := CodeText.ofString (kind.name ++ ":" ++ path ++ ":") ++ name
    .error (.unencodable (source.unencodable?.getD default))

/-- Definitions for names that stand, quoted, from the line of their section on. -/
def definitionsBelow (path : String) (ls : Lines) (heading : String) (kind : DefinitionKind)
    (names : List CodeText) : Except Fault (List Definition) :=
  let anchor := ls.find (inQuotes heading) 1
  names.mapM fun name => do
    let n ← identifiable path kind name
    return ls.define path n kind (ls.find (inQuotes n) anchor)

/-- The sections of a package description, with the kinds of what they list. -/
def packageSections : List (String × DefinitionKind) :=
  [("scripts", .functionDecl), ("dependencies", .variableDecl), ("devDependencies", .variableDecl),
   ("peerDependencies", .variableDecl), ("optionalDependencies", .variableDecl)]

/-- Scripts and dependencies of a package description. -/
def harvestPackage (path content : String) (ls : Lines) : Except Failure (List Definition) := do
  let fields ← loadJson content
  let sections ← packageSections.mapM fun (heading, kind) =>
    Failure.lift (definitionsBelow path ls heading kind (sectionNames fields heading))
  return sections.flatten

/-- The compiler options and path aliases of a compiler configuration. -/
def harvestTsconfig (path content : String) (ls : Lines) : Except Failure (List Definition) := do
  let fields ← loadJson content
  match fields.field? "compilerOptions" with
  | some (.object options) =>
    let head := ls.define path "TypeScriptConfig" .variableDecl
      (ls.find (inQuotes "compilerOptions") 1)
    let given ← Failure.lift
      (definitionsBelow path ls "paths" .variableDecl (sectionNames options "paths"))
    return head :: given
  | _ => return []

end CodeGraph.Manifest
