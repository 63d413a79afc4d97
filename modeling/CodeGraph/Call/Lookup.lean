import CodeGraph.Builtin
import CodeGraph.Import

/-!
# Looking up what a file offers

A name that a file does not define itself may be passed on by one of its imports. The search follows
bindings and wildcard imports for a limited number of hops and visits each name of each file once.
The stack that a search takes, a frame or two for each hop, has no limit here.

## Main definitions

* `Export`: a name that a file offers, or its default export.
* `Symbols`: the registry and import map that names are looked up in.
* `Symbols.search`, `Symbols.lookup`: the definition behind an export.
* `Symbols.methodsOf`, `Symbols.callables`: look-up without imports.
-/

namespace CodeGraph

/-- What a file offers: a named definition or its default. -/
inductive Export where
  | named (name : String)
  | default
deriving DecidableEq, Repr, Inhabited

/-- The name that an export is bound and visited under. -/
def Export.key : Export → String
  | named name => name
  | default => "default"

/-- What a binding takes from its target; a namespace stands for the default. -/
def ImportBinding.export (b : ImportBinding) : Export :=
  match b.kind with
  | .default | .namespaced => .default
  | .named | .wildcard => .named b.takenName

/-- The registry and import map that names are looked up in. -/
structure Symbols where
  registry : Registry
  imports : ImportMap

/-- A name of a file. -/
abbrev Visit := String × String

namespace Symbols

variable (s : Symbols)

/-- The order of callables: outside classes first, then by position. -/
def callableLe (a b : Definition) : Bool :=
  if a.parentClass.isSome = b.parentClass.isSome then a.startByte ≤ b.startByte
  else a.parentClass.isNone

/-- The callables of a file with a given name, those outside classes first. -/
def callables (path name : String) : List Definition :=
  Sorting.sort callableLe ((s.registry.namedIn path name).filter (·.kind.isCallable))

/-- The methods of a class with a given name, in order of position. -/
def methodsOf (path className name : String) : List Definition :=
  Sorting.sort (fun a b => a.startByte ≤ b.startByte)
    ((s.registry.qualified (qualifiedName path name (some className))).filter fun d =>
      d.filePath = path && d.kind.isCallable)

/-- The definition that a file itself holds for an export. -/
def held? (path : String) : Export → Option Definition
  | .named name => ((s.callables path name).filter (·.parentClass.isNone)).head?
  | .default =>
    ((s.registry.inFile path).filter fun d => d.isDefaultExport && d.kind.isCallable).head?

/-- The files that a search moves on to under the same name. -/
def passedOn (path : String) : Export → List String
  | .named _ => s.imports.wildcards path
  | .default => []

/-- Try several starting points one after the other, keeping what was visited. -/
def firstFound (search : List Visit → String → Option Definition × List Visit) :
    List Visit → List String → Option Definition × List Visit
  | visited, [] => (none, visited)
  | visited, path :: paths =>
    match search visited path with
    | (some d, visited) => (some d, visited)
    | (none, visited) => firstFound search visited paths

/--
The definition behind an export of a file, within a number of hops, and what was visited. A name of
a file that was visited before gives nothing.
-/
def search : (hops : Nat) → List Visit → String → Export → Option Definition × List Visit
  | 0, visited, path, e =>
    if (path, e.key) ∈ visited then (none, visited)
    else (s.held? path e, (path, e.key) :: visited)
  | hops + 1, visited, path, e =>
    if (path, e.key) ∈ visited then (none, visited)
    else
      let visited := (path, e.key) :: visited
      match s.held? path e with
      | some d => (some d, visited)
      | none =>
        let (found, visited) := match s.imports.binding? path e.key with
          | some b => search hops visited b.targetFile b.export
          | none => (none, visited)
        match found with
        | some d => (some d, visited)
        | none => firstFound (fun v p => search hops v p e) visited (s.passedOn path e)

/-- The definition behind an export of a file, within a number of hops. -/
def lookup (hops : Nat) (path : String) (e : Export) : Option Definition :=
  (s.search hops [] path e).1

/-- The definition behind a binding, within a number of hops. -/
def follow (hops : Nat) (b : ImportBinding) : Option Definition :=
  s.lookup hops b.targetFile b.export

/-- The class of a given name that a wildcard import offers. -/
def wildcardClass? (path name : String) : Option Definition :=
  (s.imports.wildcards path).findSome? fun target =>
    (s.registry.namedIn target name).find? fun d =>
      d.kind = .classDecl && d.parentClass.isNone

end Symbols

end CodeGraph
