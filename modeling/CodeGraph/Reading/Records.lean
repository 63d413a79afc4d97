import CodeGraph.Graph
import CodeGraph.Ingest.Request
import CodeGraph.Ingest.Settings

/-!
# Reading and writing records

The records of extraction and of the graph, to and from JSON.
-/

namespace CodeGraph

open Reading

/-! ### Imports -/

/-- Read an imported name. -/
def ImportedName.read : Reading ImportedName := record fun fs =>
  ImportedName.mk
    <$> withDefault fs "local_name" (nullable text) none
    <*> withDefault fs "imported_name" (nullable text) none
    <*> withDefault fs "kind" (member ImportKind.ofName?) .named

/-- An imported name as JSON. -/
def ImportedName.toJson (n : ImportedName) : Json :=
  .object [
    ("local_name", optionalToJson n.localName),
    ("imported_name", optionalToJson n.importedName),
    ("kind", .text n.kind.name)]

/-- Read an import statement. -/
def ImportSpec.read : Reading ImportSpec := record fun fs =>
  ImportSpec.mk
    <$> required fs "module" text
    <*> withDefault fs "level" int 0
    <*> withDefault fs "names" (tuple ImportedName.read) []
    <*> withDefault fs "is_reexport" bool false
    <*> withDefault fs "line" int 0

/-- An import statement as JSON. -/
def ImportSpec.toJson (s : ImportSpec) : Json :=
  .object [
    ("module", .text s.moduleName),
    ("level", .int s.level),
    ("names", .list (s.names.map ImportedName.toJson)),
    ("is_reexport", .bool s.isReexport),
    ("line", .int s.line)]

/-- Read an import binding. -/
def ImportBinding.read : Reading ImportBinding := record fun fs =>
  ImportBinding.mk
    <$> required fs "local_name" text
    <*> required fs "target_file" text
    <*> withDefault fs "imported_name" (nullable text) none
    <*> withDefault fs "kind" (member ImportKind.ofName?) .named

/-- An import binding as JSON. -/
def ImportBinding.toJson (b : ImportBinding) : Json :=
  .object [
    ("local_name", .text b.localName),
    ("target_file", .text b.targetFile),
    ("imported_name", optionalToJson b.importedName),
    ("kind", .text b.kind.name)]

/-! ### Definitions and call sites -/

/-- The text of a field inside an identifier. -/
def fieldText (fs : Fields) (name default : String) : String :=
  ((fs.lookup name).map Json.display).getD default

/-- The identifier given in a record, or else the one derived from its fields as written. -/
def Definition.givenId (fs : Fields) : Json :=
  match fs.lookup "node_id" with
  | some v => if v.truthy then v else .text (derived fs)
  | none => .text (derived fs)
where
  /-- The identifier derived from the fields as written. -/
  derived (fs : Fields) : String :=
    Identifier.ofDefinition (fieldText fs "kind" "None") (fieldText fs "file_path" "")
      (fieldText fs "name" "") (fieldText fs "start_byte" "0") (fieldText fs "end_byte" "0")

/-- Read a definition. -/
def Definition.read : Reading Definition := record fun fs =>
  Definition.mk
    <$> (text (Definition.givenId fs)).inside "node_id"
    <*> required fs "qualified_name" text
    <*> required fs "file_path" text
    <*> required fs "name" text
    <*> required fs "kind" (member DefinitionKind.ofName?)
    <*> required fs "start_line" int
    <*> required fs "end_line" int
    <*> withDefault fs "start_byte" int 0
    <*> withDefault fs "end_byte" int 0
    <*> withDefault fs "language" text ""
    <*> withDefault fs "parent_class" (nullable text) none
    <*> withDefault fs "parameters" (tuple text) []
    <*> withDefault fs "extends" (tuple text) []
    <*> withDefault fs "implements" (tuple text) []
    <*> withDefault fs "decorators" (tuple text) []
    <*> withDefault fs "decorated_target" (nullable text) none
    <*> withDefault fs "is_default_export" bool false
    <*> withDefault fs "is_async" bool false
    <*> withDefault fs "import_spec" (nullable ImportSpec.read) none

/-- A definition as JSON. -/
def Definition.toJson (d : Definition) : Json :=
  .object [
    ("node_id", .text d.nodeId),
    ("qualified_name", .text d.qualifiedName),
    ("file_path", .text d.filePath),
    ("name", .text d.name),
    ("kind", .text d.kind.name),
    ("start_line", .int d.startLine),
    ("end_line", .int d.endLine),
    ("start_byte", .int d.startByte),
    ("end_byte", .int d.endByte),
    ("language", .text d.language),
    ("parent_class", optionalToJson d.parentClass),
    ("parameters", textsToJson d.parameters),
    ("extends", textsToJson d.bases),
    ("implements", textsToJson d.interfaces),
    ("decorators", textsToJson d.decorators),
    ("decorated_target", optionalToJson d.decoratedTarget),
    ("is_default_export", .bool d.isDefaultExport),
    ("is_async", .bool d.isAsync),
    ("import_spec", (d.importSpec.map ImportSpec.toJson).getD .null)]

/-- Read a call site. -/
def CallSite.read : Reading CallSite := record fun fs =>
  CallSite.mk
    <$> required fs "file_path" text
    <*> required fs "called_name" text
    <*> withDefault fs "receiver" (nullable text) none
    <*> required fs "line" int
    <*> withDefault fs "column" int 0
    <*> withDefault fs "caller_id" (nullable text) none
    <*> withDefault fs "caller_name" (nullable text) none
    <*> withDefault fs "caller_class" (nullable text) none

/-- A call site as JSON. -/
def CallSite.toJson (s : CallSite) : Json :=
  .object [
    ("file_path", .text s.filePath),
    ("called_name", .text s.calledName),
    ("receiver", optionalToJson s.receiver),
    ("line", .int s.line),
    ("column", .int s.column),
    ("caller_id", optionalToJson s.callerId),
    ("caller_name", optionalToJson s.callerName),
    ("caller_class", optionalToJson s.callerClass)]

/-- Read a parsed file. -/
def ParsedFile.read : Reading ParsedFile := record fun fs =>
  ParsedFile.mk
    <$> required fs "file_path" text
    <*> required fs "language" text
    <*> required fs "content_hash" text
    <*> required fs "file_size" int
    <*> withDefault fs "definitions" (tuple Definition.read) []
    <*> withDefault fs "call_sites" (tuple CallSite.read) []
    <*> withDefault fs "has_syntax_errors" bool false
    <*> withDefault fs "query_errors" (tuple text) []

/-- A parsed file as JSON. -/
def ParsedFile.toJson (f : ParsedFile) : Json :=
  .object [
    ("file_path", .text f.filePath),
    ("language", .text f.language),
    ("content_hash", .text f.contentHash),
    ("file_size", .int f.fileSize),
    ("definitions", .list (f.definitions.map Definition.toJson)),
    ("call_sites", .list (f.callSites.map CallSite.toJson)),
    ("has_syntax_errors", .bool f.hasSyntaxErrors),
    ("query_errors", textsToJson f.queryErrors)]

/-! ### Graph records -/

/-- Attach checked properties; an offence is an issue of the whole record. -/
def withProperties {α : Type} (checked : Except PropertyFault Properties) (make : Properties → α) :
    Checked α :=
  match checked with
  | .ok props => .ok (make props)
  | .error fault => .fail (.rejected fault)

/-- Read a node. -/
def Node.read : Reading Node := record fun fs =>
  (Prod.mk <$> required fs "id" text
    <*> (Prod.mk <$> required fs "label" (member NodeKind.ofName?)
      <*> withDefault fs "properties" Reading.fields [])).andThen
    fun (id, label, raw) => withProperties (label.checkProperties raw) (Node.mk id label)

/-- A node as JSON. -/
def Node.toJson (n : Node) : Json :=
  .object [
    ("id", .text n.id),
    ("label", .text n.label.name),
    ("properties", Properties.toJson n.properties)]

/-- Read a relationship; without an identifier it takes the one derived from its end points. -/
def Relationship.read : Reading Relationship := record fun fs =>
  (Prod.mk <$> withDefault fs "id" text ""
    <*> (Prod.mk <$> required fs "type" (member RelKind.ofName?)
      <*> (Prod.mk <$> required fs "source" text
        <*> (Prod.mk <$> required fs "target" text
          <*> withDefault fs "properties" Reading.fields [])))).andThen
    fun (id, kind, source, target, raw) =>
      let id := if id = "" then Identifier.ofRelationship source kind target else id
      withProperties (kind.checkProperties raw) (Relationship.mk id kind source target)

/-- A relationship as JSON. -/
def Relationship.toJson (r : Relationship) : Json :=
  .object [
    ("id", .text r.id),
    ("type", .text r.kind.name),
    ("source", .text r.source),
    ("target", .text r.target),
    ("properties", Properties.toJson r.properties)]

/-- A graph as JSON. -/
def Graph.toJson (g : Graph) : Json :=
  .object [
    ("nodes", .list (g.nodes.map Node.toJson)),
    ("relationships", .list (g.relationships.map Relationship.toJson))]

end CodeGraph
