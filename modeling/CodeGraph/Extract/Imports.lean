import CodeGraph.Definition
import CodeGraph.Extract.Naming
import CodeGraph.Language.Queries

/-!
# Import statements

Three readers of import statements, one for each family of languages. A statement may import several
modules; each gives a specification of its own.

## Main definitions

* `SourceTree.pythonImports`, `SourceTree.scriptImports`, `SourceTree.javaImports`: the readers.
* `SourceTree.importDefinitions`: the definitions of a match.
-/

namespace CodeGraph

namespace SourceTree

variable (src : SourceTree)

/-- The trimmed text in a field of a node, empty if there is none. -/
def fieldText (i : Nat) (field : String) : String :=
  src.optionalText (src.tree.childByField? i field)

/-! ### Python -/

/-- What a name in an import list imports, and under which name. -/
def importedAs (i : Nat) : String × String :=
  if src.tree.kind i = "aliased_import" then (src.fieldText i "name", src.fieldText i "alias")
  else (src.text i, src.text i)

/-- One specification for each module of a plain import. -/
def moduleImports (i : Nat) : List ImportSpec :=
  (src.tree.childrenByField i "name").filterMap fun item =>
    let (name, given) := src.importedAs item
    if name = "" then none
    else some {
      moduleName := name
      names := [{ localName := some given, kind := .namespaced }]
      line := src.startLine i }

/-- Number of leading dots and name of the module that names are imported from. -/
def fromModule (i : Nat) : Nat × String :=
  match src.tree.childByField? i "module_name" with
  | none => (0, "")
  | some m =>
    if src.tree.kind m = "relative_import" then
      (src.tree.children m).foldl (fun (level, name) c =>
        if src.tree.kind c = "import_prefix" then (Text.count '.' (src.text c), name)
        else if src.tree.kind c = "dotted_name" then (level, src.text c)
        else (level, name)) (0, "")
    else (0, src.text m)

/-- The specification of an import of names from a module. -/
def fromImports (i : Nat) : List ImportSpec :=
  let (level, name) := src.fromModule i
  let names := (src.tree.childrenByField i "name").filterMap fun item =>
    let (imported, given) := src.importedAs item
    if imported = "" then none
    else some { localName := some given, importedName := some imported, kind := .named }
  let star : List ImportedName :=
    if src.tree.hasChild i "wildcard_import" then [{ kind := .wildcard }] else []
  if name = "" && level = 0 then []
  else [{ moduleName := name, level, names := names ++ star, line := src.startLine i }]

/-- The imports of a Python statement. -/
def pythonImports (i : Nat) : List ImportSpec :=
  if src.tree.kind i = "import_statement" then src.moduleImports i
  else if src.tree.kind i = "import_from_statement" then src.fromImports i
  else []

/-! ### JavaScript and TypeScript -/

/-- What a specifier in braces names, and the name it is given, if it names something. -/
def specifier? (kind : String) (i : Nat) : Option (String × String) :=
  if src.tree.kind i ≠ kind then none
  else
    let name := src.fieldText i "name"
    let given := src.fieldText i "alias"
    if name = "" then none else some (name, if given = "" then name else given)

/-- The names that one part of an import clause binds. -/
def clauseNames (i : Nat) : List ImportedName :=
  let kind := src.tree.kind i
  if kind = "identifier" then
    [{ localName := some (src.text i), importedName := some "default", kind := .default }]
  else if kind = "namespace_import" then
    ((src.tree.namedChild? i ["identifier"]).map fun c =>
      { localName := some (src.text c), kind := .namespaced }).toList
  else if kind = "named_imports" then
    (src.tree.namedChildren i).filterMap fun c =>
      (src.specifier? "import_specifier" c).map fun (name, given) =>
        { localName := some given
          importedName := some name
          kind := if name = "default" then .default else .named }
  else []

/-- The name that one part of an object pattern takes from a required module. -/
def requiredName? (i : Nat) : Option ImportedName :=
  let kind := src.tree.kind i
  if kind = "shorthand_property_identifier_pattern" then
    some { localName := some (src.text i), importedName := some (src.text i) }
  else if kind = "pair_pattern" then
    let key := src.fieldText i "key"
    let name := match src.tree.childByField? i "value" with
      | some v => if src.tree.kind v = "identifier" then src.text v else key
      | none => key
    if key = "" then none else some { localName := some name, importedName := some key }
  else none

/-- The names that the declarator around a required module binds. -/
def requiredNames (i : Nat) : List ImportedName :=
  match src.tree.parent? i with
  | none => []
  | some p =>
    if src.tree.kind p ≠ "variable_declarator" then []
    else match src.tree.childByField? p "name" with
      | none => []
      | some target =>
        if src.tree.kind target = "identifier" then
          [{ localName := some (src.text target), kind := .namespaced }]
        else if src.tree.kind target = "object_pattern" then
          (src.tree.namedChildren target).filterMap src.requiredName?
        else []

/-- The names that one part of an export statement passes on. -/
def reexportedNames (i : Nat) : List ImportedName :=
  let kind := src.tree.kind i
  if kind = "export_clause" then
    (src.tree.namedChildren i).filterMap fun c =>
      (src.specifier? "export_specifier" c).map fun (name, given) =>
        { localName := some given, importedName := some name }
  else if kind = "namespace_export" then
    ((src.tree.namedChild? i ["identifier", "string"]).map fun c =>
      { localName := some (unquoted (src.text c)), kind := .namespaced }).toList
  else if kind = "*" then [{ kind := .wildcard }]
  else []

/-- The imports of a statement with a module text; an empty module imports nothing. -/
def scriptImports (query : QueryName) (i : Nat) (source : Option Nat) : List ImportSpec :=
  let name := unquoted (src.optionalText source)
  let line : Int := src.startLine i
  if name = "" then []
  else if query = .requires then [{ moduleName := name, names := src.requiredNames i, line }]
  else if query = .reexports then
    [{ moduleName := name
       names := (src.tree.children i).flatMap src.reexportedNames
       isReexport := true
       line }]
  else
    let clauses := (src.tree.namedChildren i).filter fun c => src.tree.kind c = "import_clause"
    [{ moduleName := name
       names := (clauses.flatMap src.tree.namedChildren).flatMap src.clauseNames
       line }]

/-! ### Java -/

/-- The import of a Java statement; a static one names a member of its module. -/
def javaImports (i : Nat) : List ImportSpec :=
  let path := src.optionalText (src.tree.namedChild? i ["scoped_identifier", "identifier"])
  let line : Int := src.startLine i
  let last := Text.afterLast '.' path
  let names : List ImportedName := [{ localName := some last, importedName := some last }]
  if path = "" then []
  else if src.tree.hasChild i "asterisk" then
    [{ moduleName := path, names := [{ kind := .wildcard }], line }]
  else if src.tree.hasChild i "static" then
    [{ moduleName := Text.beforeLast '.' path, names, line }]
  else [{ moduleName := path, names, line }]

/-! ### Definitions -/

/-- The imports of a match. -/
def imports (l : Language) (query : QueryName) (m : Match) (i : Nat) : List ImportSpec :=
  match l with
  | .python => src.pythonImports i
  | .java => src.javaImports i
  | .javascript | .typescript | .tsx => src.scriptImports query i (m.node? "source")

/-- The module of an import with a dot for each level. -/
def dottedModule (spec : ImportSpec) : String :=
  Text.replicate spec.level.toNat '.' ++ spec.moduleName

/-- The definition of an import. -/
def importDefinition (l : Language) (path : String) (i : Nat) (spec : ImportSpec) : Definition :=
  let name := dottedModule spec
  let plain := Text.replaceChar '.' '_' name
  let n := src.tree.node i
  let d : Definition := {
    nodeId := ""
    qualifiedName := qualifiedName path (if plain = "" then "import" else plain) none
    filePath := path
    name
    kind := .importDecl
    startLine := src.startLine i
    endLine := src.endLine i
    startByte := n.start
    endByte := n.stop
    language := l.name
    importSpec := some spec }
  d.identified

/-- The import definitions of a match. -/
def importDefinitions (l : Language) (path : String) (query : QueryName) (m : Match) :
    List Definition :=
  match m.node? "node" with
  | some i => (src.imports l query m i).map (src.importDefinition l path i)
  | none => []

end SourceTree

end CodeGraph
