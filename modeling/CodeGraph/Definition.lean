import CodeGraph.Identifier
import CodeGraph.Path
import CodeGraph.Property

/-!
# Definitions, imports and call sites

What extraction finds in one file, before anything is resolved.

## Main definitions

* `Definition`: a named entity with its place, and for an import its `ImportSpec`.
* `CallSite`: one call expression with its innermost caller.
* `ParsedFile`: all definitions and call sites of a file.
* `qualifiedName`: dotted module path, class and name.
-/

namespace CodeGraph

/-- One name that an import statement binds. A wildcard binds no local name. -/
structure ImportedName where
  localName : Option String := none
  importedName : Option String := none
  kind : ImportKind := .named
deriving DecidableEq, Repr, Inhabited

/-- The name an import is listed under: what it imports, else what it binds, else a star. -/
def ImportedName.display (n : ImportedName) : String :=
  match n.importedName, n.localName with
  | some i, some l => if i ≠ "" then i else if l ≠ "" then l else "*"
  | some i, none => if i ≠ "" then i else "*"
  | none, some l => if l ≠ "" then l else "*"
  | none, none => "*"

/-- An import statement: module, number of leading dots of a relative one, and bound names. -/
structure ImportSpec where
  moduleName : String
  level : Int := 0
  names : List ImportedName := []
  isReexport : Bool := false
  line : Int := 0
deriving DecidableEq, Repr, Inhabited

/-- A named entity of one file. -/
structure Definition where
  nodeId : String
  qualifiedName : String
  filePath : String
  name : String
  kind : DefinitionKind
  startLine : Int
  endLine : Int
  startByte : Int := 0
  endByte : Int := 0
  language : String := ""
  parentClass : Option String := none
  parameters : List String := []
  bases : List String := []
  interfaces : List String := []
  decorators : List String := []
  decoratedTarget : Option String := none
  isDefaultExport : Bool := false
  isAsync : Bool := false
  importSpec : Option ImportSpec := none
deriving DecidableEq, Repr, Inhabited

/-- The text whose digest identifies a definition. -/
def Definition.idSource (d : Definition) : String :=
  Identifier.definitionSource d.kind.name d.filePath d.name (toString d.startByte)
    (toString d.endByte)

/-- The definition under the identifier derived from its kind, path, name and span. -/
def Definition.identified (d : Definition) : Definition :=
  { d with nodeId := Identifier.digest d.idSource }

/-- Number of bytes that a definition spans. -/
def Definition.span (d : Definition) : Int :=
  d.endByte - d.startByte

/-- An optional text that is there and not empty. -/
def present? (s : Option String) : Option String :=
  s.filter (· ≠ "")

/-- Dotted module path of a file: its path without extension, with dots for slashes. -/
def modulePath (path : String) : String :=
  Text.replaceChar '/' '.' (Path.stem path)

/-- Module path, class and name, joined by dots; empty parts are left out. -/
def qualifiedName (path name : String) (parentClass : Option String) : String :=
  Text.join "." ([modulePath path, parentClass.getD "", name].filter (· ≠ ""))

/-- An optional property. -/
def property? (key : String) (holds : Bool) (v : PropertyValue) : List (String × PropertyValue) :=
  if holds then [(key, v)] else []

/-- The properties of a definition's node. -/
def Definition.properties (d : Definition) : Properties :=
  let isFunction := d.kind = .functionDecl || d.kind = .methodDecl
  let isPlain := d.kind = .variableDecl || d.kind = .typeAlias
  let isNote := d.kind = .decorator || d.kind = .importDecl
  let spec := if d.kind = .importDecl then d.importSpec else none
  ⟨[("name", .text d.name),
    ("qualifiedName", .text d.qualifiedName),
    ("filePath", .text d.filePath),
    ("startLine", .int d.startLine),
    ("endLine", .int d.endLine),
    ("language", .text d.language)]
  ++ property? "parentClass" (present? d.parentClass).isSome (.text (d.parentClass.getD ""))
  ++ property? "parameters" isFunction (.texts d.parameters)
  ++ property? "isAsync" isFunction (.bool d.isAsync)
  ++ property? "decorators" (!d.decorators.isEmpty && !isPlain && !isNote) (.texts d.decorators)
  ++ property? "extends" (d.kind.isType && !d.bases.isEmpty) (.texts d.bases)
  ++ property? "implements" (d.kind.isType && !d.interfaces.isEmpty) (.texts d.interfaces)
  ++ property? "isDefaultExport" (d.isDefaultExport && !isNote) (.bool true)
  ++ property? "decoratedTarget"
      (d.kind = .decorator && (present? d.decoratedTarget).isSome)
      (.text (d.decoratedTarget.getD ""))
  ++ match spec with
    | none => []
    | some spec =>
      [("module", .text spec.moduleName),
       ("level", .int spec.level),
       ("importedNames", .texts (spec.names.map ImportedName.display)),
       ("isReexport", .bool spec.isReexport)]⟩

/-- One call expression. A call outside every function, method and class has no caller. -/
structure CallSite where
  filePath : String
  calledName : String
  receiver : Option String := none
  line : Int
  column : Int := 0
  callerId : Option String := none
  callerName : Option String := none
  callerClass : Option String := none
deriving DecidableEq, Repr, Inhabited

/-- The part of a dotted receiver before its first dot. -/
def CallSite.receiverRoot (site : CallSite) : Option String :=
  (present? site.receiver).map (Text.beforeChar '.')

/-- What resolution needs from one file. -/
structure ParsedFile where
  filePath : String
  language : String
  contentHash : String
  fileSize : Int
  definitions : List Definition := []
  callSites : List CallSite := []
  hasSyntaxErrors : Bool := false
  queryErrors : List String := []
deriving DecidableEq, Repr, Inhabited

/-- The import definitions of a file. -/
def ParsedFile.imports (f : ParsedFile) : List Definition :=
  f.definitions.filter (·.kind = .importDecl)

/-- A name of an importing file, bound to something in another file. -/
structure ImportBinding where
  localName : String
  targetFile : String
  importedName : Option String := none
  kind : ImportKind := .named
deriving DecidableEq, Repr, Inhabited

end CodeGraph
