import CodeGraph.Import.Candidates
import CodeGraph.Registry

/-!
# Resolving one import

An import is matched against the registered files: first exactly, then by the trailing segments of
a path, and last by name alone. Among several matches the nearest one counts.

## Main definitions

* `Strategy`, `Strategy.confidence`: how a file was found, and how far that is trusted.
* `Resolution`: a file with the way it was found and the confidence in it.
* `Registry.resolvePath`: the file that a list of candidates means.
* `Registry.resolveImport`: the targets of an import statement with what they bind.
-/

namespace CodeGraph

/-- How the target of an import was found. -/
inductive Strategy where
  | exact
  | rootRelative
  | basename
deriving DecidableEq, Repr, Inhabited

namespace Strategy

/-- The name a strategy is written under. -/
def name : Strategy → String
  | exact => "exact"
  | rootRelative => "root_relative"
  | basename => "basename"

/-- How far a strategy is trusted, in tenths. -/
def tenths : Strategy → Nat
  | exact => 10
  | rootRelative => 8
  | basename => 4

/-- How far a strategy is trusted, between zero and one. -/
def confidence (s : Strategy) : Double :=
  .ratio s.tenths 10

end Strategy

/-- The file that an import means, how far that is trusted, and how it was found. -/
structure Resolution where
  target : String
  confidence : Double
  strategy : Strategy
deriving DecidableEq, Repr, Inhabited

/-- A file found in some way, trusted as that way is. -/
def Resolution.found (target : String) (strategy : Strategy) : Resolution :=
  ⟨target, strategy.confidence, strategy⟩

@[simp]
theorem Resolution.target_found (target : String) (strategy : Strategy) :
    (found target strategy).target = target :=
  rfl

/-- A target of an import statement with the names it binds, and whether it binds all names. -/
structure ImportTarget where
  resolution : Resolution
  bindings : List ImportBinding := []
  isWildcard : Bool := false
deriving DecidableEq, Repr, Inhabited

/-- The binding of an imported name that has a local name. -/
def ImportedName.binding? (target : String) (n : ImportedName) : Option ImportBinding :=
  if n.kind = .wildcard then none
  else (present? n.localName).map fun l =>
    { localName := l, targetFile := target, importedName := n.importedName, kind := n.kind }

/-- A resolved module with the bindings of the names imported from it. -/
def ImportTarget.ofNames (r : Resolution) (names : List ImportedName) : ImportTarget where
  resolution := r
  bindings := names.filterMap (ImportedName.binding? r.target)
  isWildcard := names.any (·.kind = .wildcard)

namespace Registry

/-- The first candidate that is a registered file. -/
def exactMatch? (r : Registry) (candidates : List String) : Option Resolution :=
  (candidates.find? r.hasFile).map (.found · .exact)

/-- The nearest of some files other than the importer. -/
def nearestOther? (importer : String) (files : List String) (strategy : Strategy) :
    Option Resolution :=
  (closest importer (files.filter (· ≠ importer))).map (.found · strategy)

/-- The nearest file that ends with the longest possible part of a candidate with a directory. -/
def suffixMatch? (r : Registry) (importer candidate : String) : Option Resolution :=
  (Path.suffixes candidate).dropLast.findSome? fun s =>
    nearestOther? importer (r.filesEndingWith s) .rootRelative

/-- The nearest file of a language with the name of a candidate. -/
def stemMatch? (r : Registry) (importer language candidate : String) : Option Resolution :=
  let stem := meaningfulStem candidate
  let family := extensionFamily language
  if stem = "" then none
  else nearestOther? importer ((r.filesWithStem stem).filter fun p =>
    family.any fun e => Text.endsWith e (Text.lower p)) .basename

/-- The file that a list of candidates means to an importer. -/
def resolvePath (r : Registry) (importer : String) (candidates : List String) (language : String)
    (allowBasename : Bool := true) : Option Resolution :=
  let candidates := candidates.filter fun c => c ≠ "" && c ≠ importer
  r.exactMatch? candidates
    <|> candidates.findSome? (r.suffixMatch? importer)
    <|> (if allowBasename then candidates.findSome? (r.stemMatch? importer language) else none)

/-! ### Python -/

/-- The first module file of a base path other than the importer. -/
def moduleFile? (r : Registry) (importer base : String) : Option String :=
  (pythonCandidates base).find? fun c => c ≠ importer && r.hasFile c

/--
The file of a name that is a module inside a package: below the base path, or else in the package
directory that the base path was resolved to, trusted as the package is.
-/
def submodule? (r : Registry) (importer base : String) (package : Option Resolution)
    (name : String) : Option Resolution :=
  match r.moduleFile? importer (if base = "" then name else Path.join base name) with
  | some file => some (.found file .exact)
  | none =>
    match package with
    | none => none
    | some p =>
      if p.strategy = .exact || !Text.endsWith "/__init__.py" p.target then none
      else (r.moduleFile? importer (Path.join (Path.directory p.target) name)).map
        (⟨·, p.confidence, p.strategy⟩)

/-- The submodule that an imported name means, unless its module defines the name. -/
def namedSubmodule? (r : Registry) (importer base : String) (package : Option Resolution)
    (n : ImportedName) : Option ImportTarget := do
  let name ← present? n.importedName
  let isDefined := match package with
    | some p => !(r.namedIn p.target name).isEmpty
    | none => false
  if n.kind ≠ .named || isDefined then none
  else
    let file ← r.submodule? importer base package name
    some {
      resolution := file
      bindings := [{
        localName := (present? n.localName).getD name
        targetFile := file.target
        kind := .namespaced }] }

/-- The targets of an import: submodules first, then the module with the names left over. -/
def resolvePython (r : Registry) (importer : String) (spec : ImportSpec) : List ImportTarget :=
  let base := pythonBase importer spec.moduleName spec.level
  let package := r.resolvePath importer (pythonCandidates base) "python"
  let submodules := spec.names.filterMap (r.namedSubmodule? importer base package)
  let remaining := spec.names.filter fun n =>
    (r.namedSubmodule? importer base package n).isNone
  match package with
  | some p =>
    if !remaining.isEmpty || spec.names.isEmpty then submodules ++ [.ofNames p remaining]
    else submodules
  | none => submodules

/-! ### Java -/

/-- Whether a file lies in a package directory, perhaps below a source root. -/
def isMember (directory path : String) : Bool :=
  Path.directory path = directory || Text.endsWith ("/" ++ directory) (Path.directory path)

/-- The files of a package other than the importer, in order of their paths. -/
def packageMembers (r : Registry) (importer directory : String) : List String :=
  Text.sort (r.files.filter fun p =>
    Text.endsWith ".java" p && p ≠ importer && isMember directory p)

/-- All files of the package with the longest possible trailing part of a directory. -/
def resolvePackage (r : Registry) (importer directory : String) : List ImportTarget :=
  let found := (Path.suffixes directory).findSome? fun suffix =>
    let members := r.packageMembers importer suffix
    members.head?.map fun first =>
      let strategy : Strategy :=
        if suffix = directory && Path.directory first = suffix then .exact else .rootRelative
      members.map fun m => { resolution := .found m strategy, isWildcard := true }
  found.getD []

/-- The targets of an import of a class or of all classes of a package. -/
def resolveJava (r : Registry) (importer : String) (spec : ImportSpec) : List ImportTarget :=
  if spec.names.any (·.kind = .wildcard) then
    r.resolvePackage importer (Text.replaceChar '.' '/' spec.moduleName)
  else
    ((r.resolvePath importer (javaCandidates spec.moduleName) "java").map
      (ImportTarget.ofNames · spec.names)).toList

/-! ### All languages -/

/-- The target of an import of a script; package names are not looked up by name alone. -/
def resolveScript (r : Registry) (importer language : String) (spec : ImportSpec) :
    List ImportTarget :=
  ((r.resolvePath importer (scriptCandidates importer spec.moduleName) language
    (!isBareModule spec.moduleName)).map (ImportTarget.ofNames · spec.names)).toList

/-- The targets of an import statement; none if it is not resolved. -/
def resolveImport (r : Registry) (importer language : String) (spec : ImportSpec) :
    List ImportTarget :=
  if language = "python" then r.resolvePython importer spec
  else if language = "java" then r.resolveJava importer spec
  else r.resolveScript importer language spec

end Registry

end CodeGraph
