import CodeGraph.Language.Basic
import CodeGraph.Tree.Pattern

/-!
# Query tables

For each language, its queries in the order in which they run. All tables capture alike: `node` is
the whole entity, `name` its identifier, `callee` and `receiver` the parts of a call, and `source`
the module text of an import.

## Main definitions

* `Language.queries`: the table of a language.
* `Language.query?`: one query of it.
* `Language.failedQueries`: which of its queries do not compile.
-/

namespace CodeGraph

open Pattern

/-- The patterns for an entity of a kind with a name of a kind. -/
def declaration (kind : String) (nameKind : String) : Pattern :=
  (node kind [(node nameKind).inField "name" |>.captured "name"]).captured "node"

/-- The pattern for an entity of a kind with any name. -/
def declarationAny (kind : String) : Pattern :=
  (node kind [any.inField "name" |>.captured "name"]).captured "node"

/-- The pattern for any node of a kind. -/
def whole (kind : String) : Pattern :=
  (node kind).captured "node"

/-- A declarator whose value is of a kind. -/
def declaratorWith (valueKind : String) : Pattern :=
  (node "variable_declarator" [
    (node "identifier").inField "name" |>.captured "name",
    (node valueKind).inField "value"]).captured "node"

/-- A call of a plain name. -/
def plainCall (kind field calleeKind : String) : Pattern :=
  (node kind [(node calleeKind).inField field |>.captured "callee"]).captured "node"

/-- A call of a member of a receiver. -/
def memberCall (kind memberKind nameField nameKind : String) : Pattern :=
  (node kind [
    (node memberKind [
      any.inField "object" |>.captured "receiver",
      (node nameKind).inField nameField |>.captured "callee"]).inField "function"]).captured "node"

/-- A statement with a module text. -/
def sourced (kind : String) : Pattern :=
  (node kind [(node "string").inField "source" |>.captured "source"]).captured "node"

/-- The queries of Python. Functions inside classes are told apart by extraction. -/
def pythonQueries : List (QueryName × Query) :=
  [(.functions, { patterns := [declaration "function_definition" "identifier"] }),
   (.classes, { patterns := [declaration "class_definition" "identifier"] }),
   (.variableDecls, { patterns := [
      node "module" [
        node "expression_statement" [
          (node "assignment" [any.inField "left" |>.captured "name"]).captured "node"]]] }),
   (.decorators, { patterns := [whole "decorator"] }),
   (.imports, { patterns := [whole "import_statement", whole "import_from_statement"] }),
   (.calls, { patterns := [
      plainCall "call" "function" "identifier",
      memberCall "call" "attribute" "attribute" "identifier"] })]

/-- The queries that the script languages share. -/
def scriptQueries : List (QueryName × Query) :=
  [(.functions, { patterns := [
      declaration "function_declaration" "identifier",
      declaration "generator_function_declaration" "identifier"] }),
   (.arrowFunctions, { patterns := [declaratorWith "arrow_function"] }),
   (.functionExpressions, { patterns := [declaratorWith "function_expression"] }),
   (.variableDecls, { patterns := [
      node "program" [node "lexical_declaration" [declarationAny "variable_declarator"]],
      node "program" [node "variable_declaration" [declarationAny "variable_declarator"]],
      node "program" [
        node "export_statement" [
          (node "lexical_declaration" [declarationAny "variable_declarator"]).inField
            "declaration"]]] }),
   (.decorators, { patterns := [whole "decorator"] }),
   (.imports, { patterns := [sourced "import_statement"] }),
   (.requires, {
      patterns := [
        (node "call_expression" [
          (node "identifier").inField "function" |>.captured "fn",
          (node "arguments" [(node "string").captured "source"]).inField
            "arguments"]).captured "node"]
      condition := some ("fn", "require") }),
   (.reexports, { patterns := [sourced "export_statement"] }),
   (.calls, { patterns := [
      plainCall "call_expression" "function" "identifier",
      memberCall "call_expression" "member_expression" "property" "property_identifier",
      plainCall "new_expression" "constructor" "identifier"] })]

/-- The queries of JavaScript. -/
def javascriptQueries : List (QueryName × Query) :=
  scriptQueries ++
  [(.classes, { patterns := [declaration "class_declaration" "identifier"] }),
   (.methods, { patterns := [declarationAny "method_definition"] })]

/-- The queries of TypeScript. -/
def typescriptQueries : List (QueryName × Query) :=
  scriptQueries ++
  [(.classes, { patterns := [
      declaration "class_declaration" "type_identifier",
      declaration "abstract_class_declaration" "type_identifier"] }),
   (.methods, { patterns := [
      declarationAny "method_definition",
      declarationAny "method_signature"] }),
   (.interfaces, { patterns := [declaration "interface_declaration" "type_identifier"] }),
   (.types, { patterns := [declaration "type_alias_declaration" "type_identifier"] }),
   (.enums, { patterns := [declaration "enum_declaration" "identifier"] })]

/-- The queries of Java. -/
def javaQueries : List (QueryName × Query) :=
  [(.classes, { patterns := [declaration "class_declaration" "identifier"] }),
   (.interfaces, { patterns := [declaration "interface_declaration" "identifier"] }),
   (.enums, { patterns := [declaration "enum_declaration" "identifier"] }),
   (.methods, { patterns := [
      declaration "method_declaration" "identifier",
      declaration "constructor_declaration" "identifier"] }),
   (.variableDecls, { patterns := [
      (node "field_declaration" [
        (node "variable_declarator" [
          (node "identifier").inField "name" |>.captured "name"]).inField
            "declarator"]).captured "node"] }),
   (.decorators, { patterns := [whole "marker_annotation", whole "annotation"] }),
   (.imports, { patterns := [whole "import_declaration"] }),
   (.calls, { patterns := [
      (node "method_invocation" [
        any.inField "object" |>.ifPresent |>.captured "receiver",
        (node "identifier").inField "name" |>.captured "callee"]).captured "node",
      plainCall "object_creation_expression" "type" "type_identifier"] })]

/-- A query of a language that does not compile. -/
structure BrokenQuery where
  language : Language
  query : QueryName
deriving DecidableEq, Repr, Inhabited

/-- Why a query does not compile. -/
def compileFailure : String := "failed to compile: Unexpected EOF"

/-- Why a name that is not in a table gives no query. -/
def unknownQuery : String := "unknown query"

namespace Language

/-- The queries of a language in table order. -/
def queries : Language → List (QueryName × Query)
  | python => pythonQueries
  | javascript => javascriptQueries
  | typescript | tsx => typescriptQueries
  | java => javaQueries

/-- The names of the queries of a language in table order. -/
def queryNames (l : Language) : List QueryName :=
  l.queries.map Prod.fst

/-- The order in which the queries of a language run: calls come last. -/
def queryOrder (l : Language) : List QueryName :=
  l.queryNames.filter (· ≠ .calls) ++ l.queryNames.filter (· = .calls)

/-- A query of a language. -/
def query? (l : Language) (q : QueryName) : Option Query :=
  l.queries.lookup q

/-- A query of a language by its name. -/
def queryNamed? (l : Language) (name : String) : Option (QueryName × Query) :=
  l.queries.find? (·.1.name = name)

/-- Whether a query of a language compiles. -/
def compiles (l : Language) (broken : List BrokenQuery) (q : QueryName) : Bool :=
  ⟨l, q⟩ ∉ broken

/-- The queries of a language that do not compile, in table order. -/
def failedQueries (l : Language) (broken : List BrokenQuery) : List QueryName :=
  l.queryNames.filter fun q => !l.compiles broken q

end Language

end CodeGraph
