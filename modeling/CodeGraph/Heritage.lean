import CodeGraph.Import

/-!
# Heritage resolution

Names of extended and implemented types are looked up through the imports of a file, and then in the
file itself.

## Main definitions

* `TypeSource`: where a type was found.
* `Heritage.resolveType`: the definition that a type name means in a file.
* `Heritage.links`: the names of extended and implemented types, with what they mean.
* `Heritage.add`, `Heritage.ofFiles`: relationships and counts, link by link.
-/

namespace CodeGraph

/-- Where the definition of a type name was found. -/
inductive TypeSource where
  | imported
  | sameFile
deriving DecidableEq, Repr, Inhabited

/-- The name a source is written under. -/
def TypeSource.name : TypeSource → String
  | imported => "import"
  | sameFile => "local"

/-- The types of a file with a given name. -/
def Registry.typesIn (r : Registry) (path name : String) : List Definition :=
  (r.namedIn path name).filter (·.kind.isType)

/-- A name of an extended or implemented type, and what it was resolved to. -/
structure HeritageLink where
  owner : Definition
  kind : RelKind
  typeName : String
  target : Option (Definition × TypeSource)
deriving DecidableEq, Repr, Inhabited

/-- The relationship of a link that leads to another definition. -/
def HeritageLink.relationship? (l : HeritageLink) : Option Relationship := do
  let (target, source) ← l.target
  if target.nodeId = l.owner.nodeId then none
  else some (.between l.kind l.owner.nodeId target.nodeId
    ⟨[("typeName", .text l.typeName), ("resolution", .text source.name)]⟩)

/-- The relationships of heritage, and how many names were resolved and left over. -/
structure Heritage where
  relationships : List Relationship := []
  resolved : Nat := 0
  unresolved : Nat := 0
deriving DecidableEq, Repr, Inhabited

namespace Heritage

/-- The name under which a binding's target defines a type. -/
def definedName (b : ImportBinding) (simple : String) : String :=
  if b.kind = .named then (present? b.importedName).getD simple else simple

/-- The type that a simple name means through its binding. -/
def throughBinding? (r : Registry) (m : ImportMap) (path simple : String) : Option Definition := do
  let b ← m.binding? path simple
  (r.typesIn b.targetFile (definedName b simple)).head?

/-- The type that a dotted name means through the binding of its front part. -/
def throughNamespace? (r : Registry) (m : ImportMap) (path : String) (front : List String)
    (simple : String) : Option Definition :=
  if front.isEmpty then none
  else do
    let b ← m.binding? path (Text.join "." front)
    (r.typesIn b.targetFile simple).head?

/-- The type that a simple name means through a wildcard import. -/
def throughWildcard? (r : Registry) (m : ImportMap) (path simple : String) : Option Definition :=
  (m.wildcards path).findSome? fun target => (r.typesIn target simple).head?

/-- The definition that a type name means in a file. -/
def resolveType (r : Registry) (m : ImportMap) (path typeName : String) :
    Option (Definition × TypeSource) :=
  let segments := Text.split '.' typeName
  let simple := segments.getLast?.getD ""
  let found := throughBinding? r m path simple
    <|> throughNamespace? r m path segments.dropLast simple
    <|> throughWildcard? r m path simple
  found.map (·, .imported) <|> (r.typesIn path simple).head?.map (·, .sameFile)

/-- The links of a definition. -/
def linksOf (r : Registry) (m : ImportMap) (path : String) (d : Definition) : List HeritageLink :=
  (d.bases.map fun n => ⟨d, .inherits, n, resolveType r m path n⟩)
    ++ d.interfaces.map fun n => ⟨d, .implements, n, resolveType r m path n⟩

/-- The links of the types that have nodes, in order of the paths. -/
def links (r : Registry) (m : ImportMap) (g : Graph) (parsed : ParsedFiles) : List HeritageLink :=
  (ParsedFiles.sorted parsed).flatMap fun (path, p) =>
    (p.definitions.filter fun d => d.kind.isType && g.hasNode d.nodeId).flatMap (linksOf r m path)

/-- Count a link as resolved, with its relationship, or as left over. -/
def add (h : Heritage) (l : HeritageLink) : Heritage :=
  match l.relationship? with
  | none => { h with unresolved := h.unresolved + 1 }
  | some r => { h with relationships := h.relationships ++ [r], resolved := h.resolved + 1 }

/-- The heritage of the types of parsed files. -/
def ofFiles (r : Registry) (m : ImportMap) (g : Graph) (parsed : ParsedFiles) : Heritage :=
  (links r m g parsed).foldl add {}

/-- The graph with the relationships of the links. -/
def addTo (h : Heritage) (g : Graph) : Graph :=
  h.relationships.foldl Graph.insertRelationship g

end Heritage

end CodeGraph
