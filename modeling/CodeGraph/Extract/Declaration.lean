import CodeGraph.Definition
import CodeGraph.Extract.Naming
import CodeGraph.Language.Queries

/-!
# Declarations

What the syntax says about a declaration: its enclosing class, its parameters, the types it extends
and implements, its decorators, and whether it is asynchronous or exported by default.

## Main definitions

* `SourceTree.enclosingClass?`: the class around a node.
* `SourceTree.parameters`, `SourceTree.bases`, `SourceTree.interfaces`, `SourceTree.decorators`.
* `SourceTree.decoratedTarget?`: what a decorator stands on.
* `SourceTree.declaration?`: the definition of a match.
-/

namespace CodeGraph

/-- Kinds of values that make a declarator a function. -/
def functionValueKinds : List String :=
  ["arrow_function", "function_expression", "function", "generator_function"]

namespace SourceTree

variable (src : SourceTree)

/-! ### Scopes -/

/-- The name of the nearest class among some scopes, unless a function comes first. -/
def classAmong (l : Language) : List Nat → Option String
  | [] => none
  | i :: outer =>
    let kind := src.tree.kind i
    if kind ∈ l.functionKinds then none
    else if kind ∈ l.classKinds then
      present? (some (src.optionalText (src.tree.childByField? i "name")))
    else classAmong l outer

/-- The name of the nearest class around a node, unless a function comes first. -/
def enclosingClass? (l : Language) (i : Nat) : Option String :=
  src.classAmong l (src.tree.ancestors i)

/-! ### Functions -/

/-- The node with the parameters of a definition: the value of a declarator, else itself. -/
def functionNode (i : Nat) : Nat :=
  if src.tree.kind i = "variable_declarator" then
    (src.tree.childByField? i "value").getD i
  else i

/-- The name of one parameter. -/
def parameterName? (i : Nat) : Option String :=
  let kind := src.tree.kind i
  if kind = "comment" then none
  else if kind = "identifier" then some (src.text i)
  else
    let target := src.tree.childByField? i "name" <|> src.tree.childByField? i "pattern"
      <|> src.tree.namedChild? i ["identifier"]
    present? (target.map src.text)

/-- Names of the parameters of a definition. -/
def parameters (i : Nat) : List String :=
  let fn := src.functionNode i
  match src.tree.childByField? fn "parameters" with
  | some params => (src.tree.namedChildren params).filterMap src.parameterName?
  | none => ((src.tree.childByField? fn "parameter").map src.text).toList

/-- Whether a definition is marked as asynchronous. -/
def isAsync (i : Nat) : Bool :=
  src.tree.hasChild (src.functionNode i) "async"

/-- Whether a definition stands in a default export. -/
def isDefaultExport (i : Nat) : Bool :=
  let outer := (src.tree.parent? i).bind fun p =>
    if src.tree.kind p ∈ ["lexical_declaration", "variable_declaration"] then src.tree.parent? p
    else some p
  match outer with
  | some p => src.tree.kind p = "export_statement" && src.tree.hasChild p "default"
  | none => false

/-! ### Types -/

/-- The types listed below a node, with nested lists at most `fuel` deep. -/
def typesWithin : (fuel : Nat) → Nat → List String
  | 0, _ => []
  | fuel + 1, i =>
    ((src.tree.namedChildren i).flatMap fun c =>
      let kind := src.tree.kind c
      if kind = "type_list" then typesWithin fuel c
      else if kind ∈ ["type_arguments", "comment"] then []
      else [src.typeName c]).filter (· ≠ "")

/-- The types listed below a node. -/
def types (i : Nat) : List String :=
  src.typesWithin src.tree.nodes.size i

/-- The types listed in a field of a node. -/
def typesInField (i : Nat) (field : String) : List String :=
  ((src.tree.childByField? i field).map src.types).getD []

/-- The superclasses in an argument list, where keyword arguments do not count. -/
def superclasses (i : Nat) : List String :=
  match src.tree.childByField? i "superclasses" with
  | none => []
  | some list => ((src.tree.namedChildren list).filter fun c =>
      src.tree.kind c ∈ ["identifier", "attribute", "subscript"]).map src.typeName

/-- The children of the heritage parts of a class. -/
def heritageClauses (i : Nat) : List Nat :=
  ((src.tree.children i).filter fun c => src.tree.kind c = "class_heritage").flatMap
    src.tree.namedChildren

/-- The types that one part of a class's heritage extends. -/
def basesOfClause (i : Nat) : List String :=
  let kind := src.tree.kind i
  if kind = "extends_clause" then
    match src.tree.childrenByField i "value" with
    | [] => src.types i
    | values => values.map src.typeName
  else if kind = "implements_clause" then []
  else [src.typeName i]

/-- The types that one child of a class-like node extends. -/
def basesOfChild (i : Nat) : List String :=
  let kind := src.tree.kind i
  if kind = "class_heritage" then (src.tree.namedChildren i).flatMap src.basesOfClause
  else if kind ∈ ["extends_interfaces", "extends_type_clause"] then src.types i
  else []

/-- The types that a class-like node extends. -/
def bases (i : Nat) : List String :=
  (src.superclasses i ++ src.typesInField i "superclass"
    ++ (src.tree.children i).flatMap src.basesOfChild).filter (· ≠ "")

/-- The types that a class-like node implements. -/
def interfaces (i : Nat) : List String :=
  (src.typesInField i "interfaces"
    ++ ((src.heritageClauses i).filter fun c => src.tree.kind c = "implements_clause").flatMap
      src.types).filter (· ≠ "")

/-! ### Decorators -/

/-- The decorators and annotations among the children of a definition. -/
def ownDecorators (i : Nat) : List Nat :=
  (src.tree.children i).flatMap fun c =>
    let kind := src.tree.kind c
    if kind = "decorator" then [c]
    else if kind = "modifiers" then
      (src.tree.children c).filter fun m =>
        src.tree.kind m ∈ ["annotation", "marker_annotation"]
    else []

/-- The decorators that stand before a definition in a decorated one. -/
def outerDecorators (i : Nat) : List Nat :=
  match src.tree.parent? i with
  | some p =>
    if src.tree.kind p = "decorated_definition" then
      (src.tree.children p).filter fun c => src.tree.kind c = "decorator"
    else []
  | none => []

/-- Names of the decorators of a definition. -/
def decorators (i : Nat) : List String :=
  (src.outerDecorators i ++ src.ownDecorators i).filterMap src.decoratorName?

/-- The node that a decorator stands on. -/
def decoratedNode? (i : Nat) : Option Nat :=
  (src.tree.parent? i).bind fun p =>
    let kind := src.tree.kind p
    if kind = "decorated_definition" then src.tree.childByField? p "definition"
    else if kind = "modifiers" then src.tree.parent? p
    else if kind = "class_body" then
      (src.tree.namedChildren p).find? fun c => i < c && src.tree.kind c ≠ "decorator"
    else some p

/-- The name of what a decorator stands on. -/
def decoratedTarget? (i : Nat) : Option String :=
  (src.decoratedNode? i).bind fun target =>
    let name := match src.tree.childByField? target "name" with
      | some n => some n
      | none =>
        if src.tree.kind target = "field_declaration" then
          (src.tree.childByField? target "declarator").bind (src.tree.childByField? · "name")
        else none
    present? (name.map src.text)

/-! ### Definitions -/

/-- The name that a match gives to an entity of a kind. -/
def entityName? (kind : DefinitionKind) (m : Match) (i : Nat) : Option String :=
  if kind = .decorator then src.decoratorName? i else (m.node? "name").bind src.declaredName?

/-- Whether a variable is a function, which another query finds. -/
def isFunctionVariable (kind : DefinitionKind) (i : Nat) : Bool :=
  kind = .variableDecl && src.tree.kind i = "variable_declarator"
    && ((src.tree.childByField? i "value").map fun v =>
      decide (src.tree.kind v ∈ functionValueKinds)).getD false

/-- The kind of an entity in its class: functions of a class are methods, and only those. -/
def kindInside (kind : DefinitionKind) (parentClass : Option String) (i : Nat) : DefinitionKind :=
  if kind = .functionDecl && parentClass.isSome && src.tree.kind i ≠ "variable_declarator" then
    .methodDecl
  else if kind = .methodDecl && parentClass.isNone then .functionDecl
  else kind

/-- The definition of an entity of a kind in a file. -/
def declaration? (l : Language) (path : String) (kind : DefinitionKind) (m : Match) :
    Option Definition := do
  let i ← m.node? "node"
  let name ← src.entityName? kind m i
  if src.isFunctionVariable kind i then none
  else
    let parentClass := src.enclosingClass? l i
    let kind := src.kindInside kind parentClass i
    let isFunction := kind = .functionDecl || kind = .methodDecl
    let n := src.tree.node i
    let d : Definition := {
      nodeId := ""
      qualifiedName := qualifiedName path name parentClass
      filePath := path
      name
      kind
      startLine := src.startLine i
      endLine := src.endLine i
      startByte := n.start
      endByte := n.stop
      language := l.name
      parentClass
      parameters := if isFunction then src.parameters i else []
      bases := if kind.isType then src.bases i else []
      interfaces := if kind.isType then src.interfaces i else []
      decorators :=
        if kind ∈ [.decorator, .variableDecl, .typeAlias] then [] else src.decorators i
      decoratedTarget := if kind = .decorator then src.decoratedTarget? i else none
      isDefaultExport := src.isDefaultExport i
      isAsync := isFunction && src.isAsync i }
    some d.identified

end SourceTree

end CodeGraph
