import CodeGraph.Json.Basic
import CodeGraph.Kind

/-!
# Property maps

Nodes and relationships carry scalars and lists of scalars under fixed keys: which keys are
allowed depends on the label or type.

## Main definitions

* `Scalar`, `PropertyValue`, `Properties`: the values and maps.
* `NodeKind.properties`, `RelKind.properties`: the allowed keys.
* `Properties.check`: a map read from untyped data, or the first offence.
-/

namespace CodeGraph

/-- A property value that is not a list. -/
inductive Scalar where
  | null
  | bool (b : Bool)
  | int (n : Int)
  | float (d : Double)
  | text (s : String)
deriving DecidableEq, Repr, Inhabited

namespace Scalar

/-- The scalar that a JSON value is, if it is one. -/
def ofJson? : Json → Option Scalar
  | .null => some null
  | .bool b => some (bool b)
  | .int n => some (int n)
  | .float d => some (float d)
  | .text s => some (text s)
  | .list _ => none
  | .object _ => none

/-- The scalar as a JSON value. -/
def toJson : Scalar → Json
  | null => .null
  | bool b => .bool b
  | int n => .int n
  | float d => .float d
  | text s => .text s

/-- Whether a scalar counts as present: not null, false, zero or empty. -/
def truthy : Scalar → Bool
  | null => false
  | bool b => b
  | int n => n ≠ 0
  | float d => !d.isZero
  | text s => s ≠ ""

end Scalar

/-- A property value: a scalar or a list of scalars. -/
inductive PropertyValue where
  | scalar (s : Scalar)
  | list (items : List Scalar)
deriving DecidableEq, Repr, Inhabited

namespace PropertyValue

/-- A text value. -/
def text (s : String) : PropertyValue :=
  scalar (.text s)

/-- A whole number. -/
def int (n : Int) : PropertyValue :=
  scalar (.int n)

/-- A number. -/
def float (d : Double) : PropertyValue :=
  scalar (.float d)

/-- A truth value. -/
def bool (b : Bool) : PropertyValue :=
  scalar (.bool b)

/-- A list of whole numbers. -/
def ints (ns : List Int) : PropertyValue :=
  list (ns.map .int)

/-- A list of texts. -/
def texts (xs : List String) : PropertyValue :=
  list (xs.map .text)

/-- The value as JSON. -/
def toJson : PropertyValue → Json
  | scalar s => s.toJson
  | list items => .list (items.map Scalar.toJson)

/-- Whether a value counts as present: a true scalar or a list with items. -/
def truthy : PropertyValue → Bool
  | scalar s => s.truthy
  | list items => !items.isEmpty

end PropertyValue

/-- A property map, in the order in which keys were first set. -/
abbrev Properties := OrderedMap String PropertyValue

/-- The map as a JSON object. -/
def Properties.toJson (props : Properties) : Json :=
  .object (props.toList.map fun (k, v) => (k, v.toJson))

/-- Keys of file nodes. -/
def fileProperties : List String :=
  ["name", "path", "extension", "language", "category", "definitionCount", "noDefinitions",
   "hasContent", "parseError", "parseErrorReason", "skipReason", "contentHash", "fileSize",
   "hasSyntaxErrors"]

/-- Keys that every definition node may have. -/
def definitionProperties : List String :=
  ["name", "qualifiedName", "filePath", "startLine", "endLine", "language", "parentClass"]

/-- Keys of functions and methods. -/
def callableProperties : List String :=
  definitionProperties ++ ["parameters", "decorators", "isAsync", "isDefaultExport"]

/-- Keys of classes, interfaces and enumerations. -/
def typeProperties : List String :=
  definitionProperties ++ ["extends", "implements", "decorators", "isDefaultExport"]

/-- The keys that a node of a given label may have. -/
def NodeKind.properties : NodeKind → List String
  | .project => ["name", "path"]
  | .package | .folder => ["name", "path", "depth"]
  | .file | .sourceModule => fileProperties
  | .functionDecl | .methodDecl => callableProperties
  | .classDecl | .interfaceDecl | .enumDecl => typeProperties
  | .typeAlias | .variableDecl => definitionProperties ++ ["isDefaultExport"]
  | .decorator => definitionProperties ++ ["decoratedTarget"]
  | .importDecl => definitionProperties ++ ["module", "level", "importedNames", "isReexport"]

/-- The keys that a relationship of a given type may have. -/
def RelKind.properties : RelKind → List String
  | .contains | .defines | .belongsTo => []
  | .imports => ["module", "confidence", "strategy", "names"]
  | .calls => ["callType", "calledName", "lines", "callCount"]
  | .inherits | .implements => ["typeName", "resolution"]

/-- An offence against the schema of a property map. -/
inductive PropertyFault where
  | notAllowed (key owner : String)
  | notScalars (key owner : String)
  | unsupported (key owner : String)
deriving DecidableEq, Repr

/-- The wording of an offence. -/
def PropertyFault.message : PropertyFault → String
  | notAllowed key owner => "Property '" ++ key ++ "' is not allowed on " ++ owner
  | notScalars key owner => "Property '" ++ key ++ "' on " ++ owner ++ " must be a list of scalars"
  | unsupported key owner => "Property '" ++ key ++ "' on " ++ owner ++ " has unsupported type dict"

/-- One property read from untyped data. -/
def PropertyValue.check (owner : String) (allowed : List String) (key : String) (v : Json) :
    Except PropertyFault PropertyValue :=
  if key ∉ allowed then .error (.notAllowed key owner)
  else match v with
    | .list items =>
      match items.mapM Scalar.ofJson? with
      | some scalars => .ok (.list scalars)
      | none => .error (.notScalars key owner)
    | v =>
      match Scalar.ofJson? v with
      | some s => .ok (.scalar s)
      | none => .error (.unsupported key owner)

/-- A property map read from untyped data, or the first offence in the order of the fields. -/
def Properties.check (owner : String) (allowed : List String) :
    List (String × Json) → Except PropertyFault Properties
  | [] => .ok .empty
  | (key, v) :: rest =>
    match PropertyValue.check owner allowed key v, Properties.check owner allowed rest with
    | .ok v, .ok props => .ok ⟨(key, v) :: props.entries⟩
    | .error e, _ => .error e
    | _, .error e => .error e

/-- The properties of a node with a given label, read from untyped data. -/
def NodeKind.checkProperties (label : NodeKind) (raw : List (String × Json)) :
    Except PropertyFault Properties :=
  Properties.check label.name label.properties raw

/-- The properties of a relationship of a given type, read from untyped data. -/
def RelKind.checkProperties (kind : RelKind) (raw : List (String × Json)) :
    Except PropertyFault Properties :=
  Properties.check kind.name kind.properties raw

end CodeGraph
