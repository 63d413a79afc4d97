import CodeGraph.Kind
import CodeGraph.Text.Basic

/-!
# Source languages

The languages that definitions are extracted from, the named queries that search their syntax
trees, and the node kinds that open a class or function scope.

## Main definitions

* `Language`, `Language.ofName?`: the languages.
* `QueryName`, `QueryName.definitionKind?`: the queries, and what their matches define.
* `Language.classKinds`, `Language.functionKinds`: kinds of scopes.
-/

namespace CodeGraph

/-- A source language. -/
inductive Language where
  | python
  | javascript
  | typescript
  | tsx
  | java
deriving DecidableEq, Repr, Inhabited

namespace Language

/-- All languages, in order of their names. -/
def all : List Language :=
  [java, javascript, python, tsx, typescript]

/-- The name of a language. -/
def name : Language → String
  | python => "python"
  | javascript => "javascript"
  | typescript => "typescript"
  | tsx => "tsx"
  | java => "java"

/-- The language with a given name. -/
def ofName? (s : String) : Option Language :=
  all.find? (·.name = s)

end Language

/-- A named query. -/
inductive QueryName where
  | functions
  | arrowFunctions
  | functionExpressions
  | classes
  | methods
  | interfaces
  | types
  | enums
  | variableDecls
  | decorators
  | imports
  | requires
  | reexports
  | calls
deriving DecidableEq, Repr, Inhabited

namespace QueryName

/-- All queries. -/
def all : List QueryName :=
  [functions, arrowFunctions, functionExpressions, classes, methods, interfaces, types, enums,
   variableDecls, decorators, imports, requires, reexports, calls]

/-- The name a query is written under. -/
def name : QueryName → String
  | functions => "functions"
  | arrowFunctions => "arrow_functions"
  | functionExpressions => "function_expressions"
  | classes => "classes"
  | methods => "methods"
  | interfaces => "interfaces"
  | types => "types"
  | enums => "enums"
  | variableDecls => "variables"
  | decorators => "decorators"
  | imports => "imports"
  | requires => "requires"
  | reexports => "reexports"
  | calls => "calls"

/-- The query with a given name. -/
def ofName? (s : String) : Option QueryName :=
  all.find? (·.name = s)

/-- What a match of a query defines; imports and calls are read in ways of their own. -/
def definitionKind? : QueryName → Option DefinitionKind
  | functions | arrowFunctions | functionExpressions => some .functionDecl
  | classes => some .classDecl
  | methods => some .methodDecl
  | interfaces => some .interfaceDecl
  | types => some .typeAlias
  | enums => some .enumDecl
  | variableDecls => some .variableDecl
  | decorators => some .decorator
  | imports | requires | reexports | calls => none

end QueryName

namespace Language

/-- Node kinds of functions in script languages. -/
def scriptFunctionKinds : List String :=
  ["function_declaration", "generator_function_declaration", "function_expression", "function",
   "generator_function", "arrow_function", "method_definition"]

/-- Node kinds that open a class scope. -/
def classKinds : Language → List String
  | python => ["class_definition"]
  | javascript => ["class_declaration", "class"]
  | typescript | tsx =>
    ["class_declaration", "abstract_class_declaration", "class", "interface_declaration"]
  | java =>
    ["class_declaration", "interface_declaration", "enum_declaration", "record_declaration"]

/-- Node kinds that open a function scope. -/
def functionKinds : Language → List String
  | python => ["function_definition", "lambda"]
  | javascript => scriptFunctionKinds
  | typescript | tsx => scriptFunctionKinds ++ ["method_signature"]
  | java => ["method_declaration", "constructor_declaration", "lambda_expression"]

end Language

end CodeGraph
