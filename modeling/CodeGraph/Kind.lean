/-!
# Kinds of nodes, relationships, definitions, imports and calls

The closed vocabularies of the graph, each with the name it is written under.

## Main definitions

* `NodeKind`, `RelKind`: labels of nodes and types of relationships.
* `DefinitionKind`: what a definition defines, with its node label `DefinitionKind.label`.
* `ImportKind`: how an import binds a name.
* `Classification`: what became of a call site.
-/

namespace CodeGraph

/-- Labels of graph nodes. A package is a folder with an initialiser file. -/
inductive NodeKind where
  | project
  | package
  | sourceModule
  | folder
  | file
  | classDecl
  | functionDecl
  | methodDecl
  | variableDecl
  | interfaceDecl
  | enumDecl
  | decorator
  | importDecl
  | typeAlias
deriving DecidableEq, Repr, Inhabited

namespace NodeKind

/-- All labels. -/
def all : List NodeKind :=
  [project, package, sourceModule, folder, file, classDecl, functionDecl, methodDecl, variableDecl,
   interfaceDecl, enumDecl, decorator, importDecl, typeAlias]

/-- The name a label is written under. -/
def name : NodeKind → String
  | project => "Project"
  | package => "Package"
  | sourceModule => "Module"
  | folder => "Folder"
  | file => "File"
  | classDecl => "Class"
  | functionDecl => "Function"
  | methodDecl => "Method"
  | variableDecl => "Variable"
  | interfaceDecl => "Interface"
  | enumDecl => "Enum"
  | decorator => "Decorator"
  | importDecl => "Import"
  | typeAlias => "Type"

/-- The label with a given name. -/
def ofName? (s : String) : Option NodeKind :=
  all.find? (·.name = s)

end NodeKind

/-- Types of relationships. -/
inductive RelKind where
  | contains
  | defines
  | imports
  | calls
  | inherits
  | implements
  | belongsTo
deriving DecidableEq, Repr, Inhabited

namespace RelKind

/-- All types. -/
def all : List RelKind :=
  [contains, defines, imports, calls, inherits, implements, belongsTo]

/-- The name a type is written under. -/
def name : RelKind → String
  | contains => "CONTAINS"
  | defines => "DEFINES"
  | imports => "IMPORTS"
  | calls => "CALLS"
  | inherits => "EXTENDS"
  | implements => "IMPLEMENTS"
  | belongsTo => "BELONGS_TO"

/-- The type with a given name. -/
def ofName? (s : String) : Option RelKind :=
  all.find? (·.name = s)

end RelKind

/-- What a definition defines. -/
inductive DefinitionKind where
  | functionDecl
  | classDecl
  | methodDecl
  | variableDecl
  | interfaceDecl
  | typeAlias
  | enumDecl
  | decorator
  | importDecl
deriving DecidableEq, Repr, Inhabited

namespace DefinitionKind

/-- All kinds. -/
def all : List DefinitionKind :=
  [functionDecl, classDecl, methodDecl, variableDecl, interfaceDecl, typeAlias, enumDecl,
   decorator, importDecl]

/-- The name a kind is written under. -/
def name : DefinitionKind → String
  | functionDecl => "function"
  | classDecl => "class"
  | methodDecl => "method"
  | variableDecl => "variable"
  | interfaceDecl => "interface"
  | typeAlias => "type"
  | enumDecl => "enum"
  | decorator => "decorator"
  | importDecl => "import"

/-- The kind with a given name. -/
def ofName? (s : String) : Option DefinitionKind :=
  all.find? (·.name = s)

/-- The label of the node of a definition. -/
def label : DefinitionKind → NodeKind
  | functionDecl => .functionDecl
  | classDecl => .classDecl
  | methodDecl => .methodDecl
  | variableDecl => .variableDecl
  | interfaceDecl => .interfaceDecl
  | typeAlias => .typeAlias
  | enumDecl => .enumDecl
  | decorator => .decorator
  | importDecl => .importDecl

/-- Whether a call can reach it: functions, methods and classes. -/
def isCallable : DefinitionKind → Bool
  | functionDecl | methodDecl | classDecl => true
  | _ => false

/-- Whether it can own methods and be extended or implemented. -/
def isType : DefinitionKind → Bool
  | classDecl | interfaceDecl | enumDecl => true
  | _ => false

end DefinitionKind

/-- How an import binds a name. -/
inductive ImportKind where
  | named
  | default
  | namespaced
  | wildcard
deriving DecidableEq, Repr, Inhabited

namespace ImportKind

/-- All kinds. -/
def all : List ImportKind :=
  [named, default, namespaced, wildcard]

/-- The name a kind is written under. -/
def name : ImportKind → String
  | named => "named"
  | default => "default"
  | namespaced => "namespace"
  | wildcard => "wildcard"

/-- The kind with a given name. -/
def ofName? (s : String) : Option ImportKind :=
  all.find? (·.name = s)

end ImportKind

/-- What became of a call site. -/
inductive Classification where
  | builtin
  | imported
  | localTarget
  | unresolved
deriving DecidableEq, Repr, Inhabited

namespace Classification

/-- All classifications. -/
def all : List Classification :=
  [builtin, imported, localTarget, unresolved]

/-- The name a classification is written under. -/
def name : Classification → String
  | builtin => "BuiltinIgnored"
  | imported => "ImportResolved"
  | localTarget => "LocalResolved"
  | unresolved => "Unresolved"

end Classification

end CodeGraph
