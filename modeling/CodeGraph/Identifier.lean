import CodeGraph.Digest
import CodeGraph.Kind
import CodeGraph.Text.Basic

/-!
# Stable identifiers

Identifiers of nodes and relationships are digests of what they identify, so the same input always
gives the same identifiers.
-/

namespace CodeGraph.Identifier

/-- The first 24 hexadecimal digits of the digest of a text. -/
def digest (raw : String) : String :=
  Text.take 24 (Digest.ofText raw)

/-- The text that identifies a definition: kind, path, name and byte span. -/
def definitionSource (kind path name start stop : String) : String :=
  Text.join ":" [kind, path, name, start, stop]

/-- Identifier of a definition node. -/
def ofDefinition (kind path name start stop : String) : String :=
  digest (definitionSource kind path name start stop)

/-- Identifier of a project, folder, package or file node. -/
def ofStructure (kind : NodeKind) (path : String) : String :=
  digest (kind.name ++ ":" ++ path)

/-- Identifier of a relationship, derived from its end points and type. -/
def ofRelationship (source : String) (kind : RelKind) (target : String) : String :=
  digest (source ++ ":" ++ kind.name ++ ":" ++ target)

end CodeGraph.Identifier
