import CodeGraph.Proofs.Offers
import CodeGraph.Reading.Records

/-!
# Property maps and their schema

A typed property map passes the check for a label or type exactly if its keys are allowed there.
The maps that the stages of an ingestion write all pass: those of definitions, whatever their kind
and optional fields, those of project, folders and files, what is said about files later, and those
of relationships.

## Main definitions

* `Properties.fields`: a property map as untyped data.
* `Node.Fits`, `Relationship.Fits`, `Graph.Fits`: records whose properties pass the check.
* `Guarded.insertNode`, `Guarded.insertRelationship`, `Guarded.describe`: writing that refuses
  properties against the schema.
* `Store.Reached`: a store that operations on untyped data can lead to.

## Main results

* `Properties.check_fields_iff`: when a typed map passes the check.
* `Definition.fits_properties`: the properties of a definition pass the check for its label.
* `FileOutcome.fits_description`: what is said about a file passes the check for files.
* `Imports.fits_of_mem`, `Heritage.fits_of_mem`, `Calls.fits_of_mem`: resolved relationships pass.
* `Store.Reached.sound`: no operation on a store leaves a record that does not pass.
-/

namespace CodeGraph

/-! ### The check on typed maps -/

/-- Scalars survive the way through untyped data. -/
theorem Scalar.ofJson?_toJson (s : Scalar) : ofJson? s.toJson = some s := by
  cases s <;> rfl

/-- An allowed property survives the check. -/
theorem PropertyValue.check_toJson {owner key : String} {allowed : List String}
    (h : key ∈ allowed) (v : PropertyValue) : check owner allowed key v.toJson = .ok v := by
  have hmap : ∀ items : List Scalar,
      (items.map Scalar.toJson).mapM Scalar.ofJson? = some items := by
    intro items
    induction items with
    | nil => rfl
    | cons s items ih => simp [List.mapM_cons, Scalar.ofJson?_toJson, ih]
  unfold check
  rw [if_neg (not_not_intro h)]
  cases v with
  | scalar s => cases s <;> rfl
  | list items => simp only [toJson, hmap]

namespace Properties

/-- A property map as untyped data. -/
def fields (props : Properties) : List (String × Json) :=
  props.toList.map fun (k, v) => (k, v.toJson)

/-- A typed map survives the check if its keys are allowed. -/
theorem check_fields (owner : String) {allowed : List String} {props : Properties}
    (h : ∀ k ∈ props.keys, k ∈ allowed) : check owner allowed props.fields = .ok props := by
  obtain ⟨es⟩ := props
  induction es with
  | nil => rfl
  | cons e es ih =>
    obtain ⟨k, v⟩ := e
    have hk : k ∈ allowed := h k List.mem_cons_self
    have hrest := ih fun k' hk' => h k' (List.mem_cons_of_mem k hk')
    have hfields : fields ⟨(k, v) :: es⟩ = (k, v.toJson) :: fields ⟨es⟩ := rfl
    rw [hfields, check, PropertyValue.check_toJson hk, hrest]

/-- Whatever passes the check has allowed keys only. -/
theorem mem_allowed_of_check {owner : String} {allowed : List String}
    {raw : List (String × Json)} {props : Properties} (h : check owner allowed raw = .ok props) :
    ∀ k ∈ props.keys, k ∈ allowed := by
  induction raw generalizing props with
  | nil =>
    obtain rfl := Except.ok.inj h
    exact fun k hk => absurd hk List.not_mem_nil
  | cons field raw ih =>
    obtain ⟨key, v⟩ := field
    rw [check] at h
    split at h
    · next value rest hvalue hrest =>
      obtain rfl := Except.ok.inj h
      have hkey : key ∈ allowed := by
        by_contra hnot
        unfold PropertyValue.check at hvalue
        rw [if_pos hnot] at hvalue
        cases hvalue
      intro k hk
      rcases List.mem_cons.mp hk with rfl | hk
      · exact hkey
      · exact ih hrest k hk
    · cases h
    · cases h

/-- A typed map passes the check exactly if its keys are allowed. -/
theorem check_fields_iff {owner : String} {allowed : List String} {props : Properties} :
    check owner allowed props.fields = .ok props ↔ ∀ k ∈ props.keys, k ∈ allowed :=
  ⟨mem_allowed_of_check, check_fields owner⟩

/-- Merging allowed properties leaves allowed ones. -/
theorem mem_keys_insertAll {props : Properties} {es : List (String × PropertyValue)} {k : String}
    (h : k ∈ (props.insertAll es).keys) : k ∈ props.keys ∨ k ∈ es.map Prod.fst := by
  by_contra hnot
  rw [not_or] at hnot
  rw [← OrderedMap.contains_iff_mem_keys, OrderedMap.contains,
    OrderedMap.get?_insertAll_of_notMem _ hnot.2] at h
  exact hnot.1 ((OrderedMap.contains_iff_mem_keys _ _).mp h)

end Properties

/-! ### Records that fit -/

/-- The properties of a node pass the check for its label. -/
def Node.Fits (n : Node) : Prop :=
  n.label.checkProperties n.properties.fields = .ok n.properties

/-- The properties of a relationship pass the check for its type. -/
def Relationship.Fits (r : Relationship) : Prop :=
  r.kind.checkProperties r.properties.fields = .ok r.properties

/-- All records of a graph fit. -/
structure Graph.Fits (g : Graph) : Prop where
  nodes : ∀ n ∈ g.nodes, n.Fits
  relationships : ∀ r ∈ g.relationships, r.Fits

/-- A node fits exactly if its keys are those of its label. -/
theorem Node.fits_iff {n : Node} : n.Fits ↔ ∀ k ∈ n.properties.keys, k ∈ n.label.properties :=
  Properties.check_fields_iff

/-- A relationship fits exactly if its keys are those of its type. -/
theorem Relationship.fits_iff {r : Relationship} :
    r.Fits ↔ ∀ k ∈ r.properties.keys, k ∈ r.kind.properties :=
  Properties.check_fields_iff

/-- A relationship without properties fits. -/
theorem Relationship.fits_between (kind : RelKind) (source target : String) :
    (between kind source target).Fits :=
  rfl

/-! ### Definitions -/

/-- An optional key is allowed if it is wherever its condition holds. -/
theorem mem_of_mem_property? {key k : String} {holds : Bool} {v : PropertyValue}
    {allowed : List String} (hk : k ∈ (property? key holds v).map Prod.fst)
    (h : holds = true → key ∈ allowed) : k ∈ allowed := by
  unfold property? at hk
  split at hk
  · next hholds =>
    rw [List.mem_singleton.mp hk]
    exact h hholds
  · cases hk

/-- The keys that every definition has are allowed for all labels of definitions. -/
theorem DefinitionKind.mem_properties (kind : DefinitionKind) :
    ∀ k ∈ definitionProperties, k ∈ kind.label.properties := by
  cases kind <;> decide

/-- The properties of a definition pass the check for its label, whatever fields it has. -/
theorem Definition.fits_properties (d : Definition) :
    d.kind.label.checkProperties d.properties.fields = .ok d.properties := by
  refine Properties.check_fields _ fun k hk => ?_
  simp only [properties, OrderedMap.keys, List.map_append, List.mem_append] at hk
  -- which of the optional keys there are depends on the kind
  generalize d.kind = kind at hk ⊢
  rcases hk with ((((((((hk | hk) | hk) | hk) | hk) | hk) | hk) | hk) | hk) | hk
  · exact kind.mem_properties k (List.mem_of_mem_take (i := 6) hk)
  · exact mem_of_mem_property? hk fun _ => kind.mem_properties _ (by decide)
  · exact mem_of_mem_property? hk (by cases kind <;> decide)
  · exact mem_of_mem_property? hk (by cases kind <;> decide)
  · generalize d.decorators.isEmpty = bare at hk
    exact mem_of_mem_property? hk (by cases bare <;> cases kind <;> decide)
  · generalize d.bases.isEmpty = bare at hk
    exact mem_of_mem_property? hk (by cases bare <;> cases kind <;> decide)
  · generalize d.interfaces.isEmpty = bare at hk
    exact mem_of_mem_property? hk (by cases bare <;> cases kind <;> decide)
  · generalize d.isDefaultExport = exported at hk
    exact mem_of_mem_property? hk (by cases exported <;> cases kind <;> decide)
  · generalize (present? d.decoratedTarget).isSome = targeted at hk
    exact mem_of_mem_property? hk (by cases targeted <;> cases kind <;> decide)
  · split at hk
    · cases hk
    · next hspec =>
      obtain rfl : kind = .importDecl := by
        by_contra hne
        rw [if_neg hne] at hspec
        cases hspec
      exact List.mem_append_right definitionProperties hk

/-- The node of a definition fits. -/
theorem Inventory.fits_nodeOf (d : Definition) : (nodeOf d).Fits :=
  d.fits_properties

/-- The relationship of a method to its class fits. -/
theorem Inventory.fits_of_membership? {types : List Definition} {d : Definition} {r : Relationship}
    (h : membership? types d = some r) : r.Fits := by
  obtain ⟨owner, -, rfl⟩ := exists_of_membership? h
  exact Relationship.fits_between _ _ _

/-! ### Project, folders and files -/

namespace Containment

theorem fits_projectNode (name root : String) : (projectNode name root).Fits :=
  Node.fits_iff.mpr fun _ hk => hk

/-- The node of a folder fits, be it a package or not. -/
theorem fits_folderNode (packages : List String) (d : String) : (folderNode packages d).Fits := by
  refine Node.fits_iff.mpr fun k hk => ?_
  simp only [folderNode] at hk ⊢
  split
  · exact hk
  · exact hk

theorem fits_fileNode (path : String) : (fileNode path).Fits :=
  Node.fits_iff.mpr fun _ hk => List.mem_of_mem_take (i := 3) hk

end Containment

/-- What is said about a skipped file passes the check for files. -/
theorem fits_skippedProperties (reason : SkipReason) (hasContent : Bool) (category : Category)
    {details : List (String × PropertyValue)}
    (h : ∀ k ∈ details.map Prod.fst, k ∈ fileProperties) :
    NodeKind.file.checkProperties (skippedProperties reason hasContent category details).fields =
      .ok (skippedProperties reason hasContent category details) := by
  refine Properties.check_fields _ fun k hk => ?_
  simp only [skippedProperties, OrderedMap.keys, List.map_append, List.mem_append] at hk
  rcases hk with (hk | hk) | hk
  · have hknown : ∀ k ∈ ["skipReason", "hasContent", "noDefinitions", "definitionCount",
        "category"], k ∈ fileProperties := by
      decide
    exact hknown k hk
  · cases hlanguage : category.languageName? with
    | none =>
      rw [hlanguage] at hk
      cases hk
    | some l =>
      rw [hlanguage] at hk
      have hk' : k = "language" := List.mem_singleton.mp hk
      rw [hk']
      decide
  · exact h k hk

/-- What is said about a file passes the check for files. -/
theorem FileOutcome.fits_description (contents : OrderedMap String String) (o : FileOutcome)
    (count : Nat) :
    NodeKind.file.checkProperties (o.description contents count).fields =
      .ok (o.description contents count) := by
  obtain ⟨path, category, contentHash, fileSize, result⟩ := o
  cases result with
  | parsed file =>
    refine Properties.check_fields _ fun k hk => ?_
    have hknown : ∀ k ∈ ["category", "language", "definitionCount", "noDefinitions", "hasContent",
        "contentHash", "fileSize", "hasSyntaxErrors"], k ∈ fileProperties := by
      decide
    exact hknown k hk
  | failed failure =>
    refine Properties.check_fields _ fun k hk => ?_
    have hknown : ∀ k ∈ ["category", "language", "hasContent", "parseError", "parseErrorReason",
        "noDefinitions", "definitionCount", "contentHash", "fileSize"], k ∈ fileProperties := by
      decide
    exact hknown k hk
  | skipped reason =>
    have hknown : ∀ k ∈ ["contentHash", "fileSize"], k ∈ fileProperties := by
      decide
    exact fits_skippedProperties reason _ _ hknown

/-! ### Resolved relationships -/

theorem Imports.fits_of_mem {i : Imports} {fileIds : OrderedMap String String} {r : Relationship}
    (h : r ∈ i.relationships fileIds) : r.Fits := by
  obtain ⟨f, -, h⟩ := List.mem_flatMap.mp h
  obtain ⟨⟨target, edge⟩, -, h⟩ := List.mem_filterMap.mp h
  obtain ⟨sourceId, -, h⟩ := Option.bind_eq_some_iff.mp h
  obtain ⟨targetId, -, h⟩ := Option.bind_eq_some_iff.mp h
  obtain rfl := Option.some.inj h
  exact Relationship.fits_iff.mpr fun _ hk => hk

theorem Heritage.fits_of_mem {r : Registry} {m : ImportMap} {g : Graph} {parsed : ParsedFiles}
    {rel : Relationship} (h : rel ∈ (ofFiles r m g parsed).relationships) : rel.Fits := by
  obtain ⟨link, hlink, h⟩ := exists_link_of_mem h
  obtain ⟨_, _, -, -, -, -, -, hkind, -⟩ := exists_of_mem_links hlink
  obtain ⟨target, source, -, -, rfl⟩ := exists_of_relationship? h
  refine Relationship.fits_iff.mpr fun k hk => ?_
  rcases hkind with hkind | hkind
  · rw [show (Relationship.between link.kind _ _ _).kind = .inherits from hkind]
    exact hk
  · rw [show (Relationship.between link.kind _ _ _).kind = .implements from hkind]
    exact hk

theorem Calls.fits_of_mem {calls : Calls} {r : Relationship} (h : r ∈ calls.relationships) :
    r.Fits := by
  obtain ⟨⟨⟨source, target⟩, edge⟩, -, rfl⟩ := List.mem_map.mp h
  exact Relationship.fits_iff.mpr fun _ hk => hk

/-! ### Writing with the check -/

namespace Guarded

/-- Append a node whose properties pass the check, unless its identifier is taken. -/
def insertNode (g : Graph) (n : Node) : Except StoreError Graph :=
  match n.label.checkProperties n.properties.fields with
  | .error fault => .error (.property fault)
  | .ok properties => .ok (g.insertNode { n with properties })

/-- Append a relationship whose properties pass the check, unless its identifier is taken. -/
def addRelationship (g : Graph) (r : Relationship) : Except StoreError (Graph × Bool) :=
  match r.kind.checkProperties r.properties.fields with
  | .error fault => .error (.property fault)
  | .ok properties => .ok (g.addRelationship { r with properties })

/-- The same, without saying whether the relationship was new. -/
def insertRelationship (g : Graph) (r : Relationship) : Except StoreError Graph :=
  (addRelationship g r).map Prod.fst

/-- Merge properties into a node, if there is one and they pass the check for its label. -/
def describe (g : Graph) (id : String) (props : Properties) : Except StoreError Graph :=
  (Store.updateProperties { graph := g } id props.fields).map Store.graph

/-- A node that fits is appended. -/
theorem insertNode_eq {n : Node} (h : n.Fits) (g : Graph) :
    insertNode g n = .ok (g.insertNode n) := by
  rw [insertNode, show n.label.checkProperties n.properties.fields = .ok n.properties from h]

/-- A relationship that fits is appended. -/
theorem addRelationship_eq {r : Relationship} (h : r.Fits) (g : Graph) :
    addRelationship g r = .ok (g.addRelationship r) := by
  rw [addRelationship,
    show r.kind.checkProperties r.properties.fields = .ok r.properties from h]

theorem insertRelationship_eq {r : Relationship} (h : r.Fits) (g : Graph) :
    insertRelationship g r = .ok (g.insertRelationship r) := by
  rw [insertRelationship, addRelationship_eq h]
  rfl

/-- Properties that fit a node are merged. -/
theorem describe_eq {g : Graph} {n : Node} (hn : g.node? n.id = some n) {props : Properties}
    (h : n.label.checkProperties props.fields = .ok props) :
    describe g n.id props = .ok (g.setProperties n.id props) := by
  simp only [describe, Store.updateProperties, hn, h]
  rfl

end Guarded

/-! ### Graphs that fit -/

namespace Graph

/-- The records of a graph fit, its identifiers are different, and some files have nodes. -/
structure Sound (files : List String) (g : Graph) : Prop where
  fits : g.Fits
  nodup : g.ids.Nodup
  known : ∀ path ∈ files, ∃ n ∈ g.nodes, n.id = Containment.fileId path ∧ n.label = .file

theorem sound_empty : empty.Sound [] where
  fits := ⟨fun _ hn => absurd hn List.not_mem_nil, fun _ hr => absurd hr List.not_mem_nil⟩
  nodup := List.nodup_nil
  known _ hpath := absurd hpath List.not_mem_nil

namespace Sound

variable {files : List String} {g : Graph}

/-- Appending a node that fits keeps a graph sound. -/
theorem insertNode (h : g.Sound files) {n : Node} (hn : n.Fits) : (g.insertNode n).Sound files where
  fits := by
    refine ⟨fun m hm => ?_, fun r hr => ?_⟩
    · rw [nodes_insertNode] at hm
      rcases List.mem_append.mp hm with hm | hm
      · exact h.fits.nodes m hm
      · rwa [List.mem_singleton.mp (mem_of_mem_fresh hm).1]
    · rw [relationships_insertNode] at hr
      exact h.fits.relationships r hr
  nodup := nodup_ids_insertNode h.nodup n
  known path hpath := by
    obtain ⟨m, hm, hknown⟩ := h.known path hpath
    refine ⟨m, ?_, hknown⟩
    rw [nodes_insertNode]
    exact List.mem_append_left _ hm

/-- Appending a relationship that fits keeps a graph sound. -/
theorem insertRelationship (h : g.Sound files) {r : Relationship} (hr : r.Fits) :
    (g.insertRelationship r).Sound files where
  fits := by
    refine ⟨fun n hn => ?_, fun r' hr' => ?_⟩
    · rw [nodes_insertRelationship] at hn
      exact h.fits.nodes n hn
    · rw [relationships_insertRelationship] at hr'
      rcases List.mem_append.mp hr' with hr' | hr'
      · exact h.fits.relationships r' hr'
      · rwa [List.mem_singleton.mp (mem_of_mem_fresh hr').1]
  nodup := by
    rw [ids_insertRelationship]
    exact h.nodup
  known path hpath := by
    rw [nodes_insertRelationship]
    exact h.known path hpath

/-- Merging properties that fit a node keeps a graph sound. -/
theorem setProperties (h : g.Sound files) {id : String} {n : Node} (hn : g.node? id = some n)
    {props : Properties} (hprops : n.label.checkProperties props.fields = .ok props) :
    (g.setProperties id props).Sound files where
  fits := by
    refine ⟨fun m' hm' => ?_, fun r hr => h.fits.relationships r hr⟩
    rw [nodes_setProperties] at hm'
    obtain ⟨m, hm, rfl⟩ := List.mem_map.mp hm'
    by_cases hid : m.id = id
    · -- there is only one node with the identifier
      subst hid
      obtain rfl := Option.some.inj ((node?_eq_some h.nodup hm).symm.trans hn)
      refine Node.fits_iff.mpr fun k hk => ?_
      have hk' : k ∈ (m.properties.insertAll props.toList).keys := by
        simpa [Node.described] using hk
      rcases Properties.mem_keys_insertAll hk' with hk | hk
      · exact Node.fits_iff.mp (h.fits.nodes m hm) k hk
      · exact Properties.mem_allowed_of_check hprops k hk
    · rw [Node.described_of_notMem (by simpa using hid)]
      exact h.fits.nodes m hm
  nodup := by
    rw [ids_setProperties]
    exact h.nodup
  known path hpath := by
    obtain ⟨m, hm, hknown⟩ := h.known path hpath
    refine ⟨m.described [(id, props)], ?_, hknown⟩
    rw [nodes_setProperties]
    exact List.mem_map_of_mem hm

/-- The node of a known file. -/
theorem exists_node? (h : g.Sound files) {path : String} (hpath : path ∈ files) :
    ∃ n, g.node? (Containment.fileId path) = some n ∧ n.id = Containment.fileId path ∧
      n.label = .file := by
  obtain ⟨n, hn, hid, hlabel⟩ := h.known path hpath
  exact ⟨n, hid ▸ node?_eq_some h.nodup hn, hid, hlabel⟩

end Sound

end Graph

/-! ### Stores that operations lead to -/

/-- Checked properties come from a check that passed. -/
theorem eq_ok_of_withProperties {α : Type} {checked : Except PropertyFault Properties}
    {make : Properties → α} {a : α} (h : withProperties checked make = .ok a) :
    ∃ props, checked = .ok props ∧ a = make props := by
  unfold withProperties at h
  split at h
  · next props => exact ⟨props, rfl, (Checked.ok.inj h).symm⟩
  · cases h

/-- Reading on takes a result. -/
theorem Checked.exists_of_andThen {α β : Type} {f : α → Checked β} {x : Checked α} {b : β}
    (h : x.andThen f = .ok b) : ∃ a, f a = .ok b := by
  cases x with
  | ok a => exact ⟨a, h⟩
  | failed issues => cases h

/-- A node that can be read fits. -/
theorem Node.fits_of_read {v : Json} {n : Node} (h : read v = .ok n) : n.Fits := by
  unfold read Reading.record at h
  split at h
  · obtain ⟨⟨id, label, raw⟩, hread⟩ := Checked.exists_of_andThen h
    obtain ⟨props, hcheck, rfl⟩ := eq_ok_of_withProperties hread
    exact fits_iff.mpr (Properties.mem_allowed_of_check hcheck)
  · cases h

/-- A relationship that can be read fits. -/
theorem Relationship.fits_of_read {v : Json} {r : Relationship} (h : read v = .ok r) :
    r.Fits := by
  unfold read Reading.record at h
  split at h
  · obtain ⟨⟨id, kind, source, target, raw⟩, hread⟩ := Checked.exists_of_andThen h
    obtain ⟨props, hcheck, rfl⟩ := eq_ok_of_withProperties hread
    exact fits_iff.mpr (Properties.mem_allowed_of_check hcheck)
  · cases h

namespace Store

/-- A store that operations on untyped data can lead to. -/
inductive Reached : Store → Prop
  | empty : Reached {}
  | node {s s' : Store} {v : Json} {n : Node} {added : Bool} :
      Reached s → Node.read v = .ok n → s.addNode n = .ok (s', added) → Reached s'
  | relationship {s s' : Store} {v : Json} {r : Relationship} {added : Bool} :
      Reached s → Relationship.read v = .ok r → s.addRelationship r = .ok (s', added) → Reached s'
  | properties {s s' : Store} {id : String} {raw : List (String × Json)} :
      Reached s → s.updateProperties id raw = .ok s' → Reached s'
  | freeze {s : Store} : Reached s → Reached s.freeze

variable {s s' : Store}

/-- Appending a node to a store appends it to the graph. -/
theorem graph_of_addNode {n : Node} {added : Bool} (h : s.addNode n = .ok (s', added)) :
    s'.graph = s.graph.insertNode n := by
  unfold addNode at h
  split at h
  · cases h
  · obtain ⟨rfl, -⟩ := Prod.mk.inj (Except.ok.inj h)
    rfl

/-- Appending a relationship to a store appends it to the graph. -/
theorem graph_of_addRelationship {r : Relationship} {added : Bool}
    (h : s.addRelationship r = .ok (s', added)) : s'.graph = s.graph.insertRelationship r := by
  unfold addRelationship at h
  split at h
  · cases h
  · obtain ⟨rfl, -⟩ := Prod.mk.inj (Except.ok.inj h)
    rfl

/-- Only properties that pass the check for a node are merged into it. -/
theorem exists_of_updateProperties {id : String} {raw : List (String × Json)}
    (h : s.updateProperties id raw = .ok s') :
    ∃ n props, s.graph.node? id = some n ∧ n.label.checkProperties raw = .ok props ∧
      s'.graph = s.graph.setProperties id props := by
  unfold updateProperties at h
  split at h
  · cases h
  · split at h
    · cases h
    · next n hn =>
      split at h
      · cases h
      · next props hcheck =>
        obtain rfl := Except.ok.inj h
        exact ⟨n, props, hn, hcheck, rfl⟩

/-- Operations lead to sound graphs. -/
theorem Reached.sound (h : s.Reached) : s.graph.Sound [] := by
  induction h with
  | empty => exact Graph.sound_empty
  | node _ hread hadd ih =>
    rw [graph_of_addNode hadd]
    exact ih.insertNode (Node.fits_of_read hread)
  | relationship _ hread hadd ih =>
    rw [graph_of_addRelationship hadd]
    exact ih.insertRelationship (Relationship.fits_of_read hread)
  | properties _ hupdate ih =>
    obtain ⟨n, props, hn, hcheck, hgraph⟩ := exists_of_updateProperties hupdate
    rw [hgraph]
    exact ih.setProperties hn
      (Properties.check_fields _ (Properties.mem_allowed_of_check hcheck))
  | freeze _ ih => exact ih

end Store

end CodeGraph
