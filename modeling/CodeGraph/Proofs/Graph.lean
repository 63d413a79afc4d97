import CodeGraph.Integrity
import CodeGraph.Proofs.Fresh
import CodeGraph.Proofs.Identifier

/-!
# Graphs as lists of kept records

What insertion and description do to the two lists of a graph. A guarded insertion appends what is
`fresh`; a description changes the properties of a node and nothing else.

## Main definitions

* `Graph.ids`, `Graph.linkIds`: the identifiers that are taken.
* `Graph.attach`: insertion of a node with relationships.
* `Graph.Keeps`: the relationships of a graph as what is kept of offers.
* `Node.described`: a node after a sequence of descriptions, each for one identifier.

## Main results

* `Graph.nodes_insertNode`, `Graph.relationships_insertRelationship`: insertion appends what is new.
* `Graph.relationships_foldl_insertRelationship`: the same for a sequence of relationships.
* `Graph.nodes_foldl_attach`, `Graph.relationships_foldl_attach`: the same for a sequence of nodes
  with their relationships.
* `Graph.nodes_setProperties`: a description is a map over the nodes.
* `Graph.violations_validate_eq_nil`, `Graph.unflaggedFiles_validate_eq_nil`: when nothing is found.
-/

namespace CodeGraph

/-! ### Taken identifiers -/

namespace Graph

/-- The identifiers of the nodes. -/
def ids (g : Graph) : List String :=
  g.nodes.map Node.id

/-- The identifiers of the relationships. -/
def linkIds (g : Graph) : List String :=
  g.relationships.map Relationship.id

/-- A graph has a node exactly if the identifier is taken. -/
theorem hasNode_iff (g : Graph) (id : String) : g.hasNode id = true ↔ id ∈ g.ids := by
  simp [hasNode, node?, ids]

/-- A node is found under its identifier, if identifiers are different. -/
theorem node?_eq_some {g : Graph} (h : g.ids.Nodup) {n : Node} (hn : n ∈ g.nodes) :
    g.node? n.id = some n := by
  obtain ⟨m, hm⟩ := Option.isSome_iff_exists.mp
    ((hasNode_iff g n.id).mpr (List.mem_map_of_mem hn))
  have hid : m.id = n.id :=
    of_decide_eq_true (List.find?_some (p := fun k : Node => decide (k.id = n.id)) hm)
  rw [hm, List.inj_on_of_nodup_map h (List.mem_of_find?_eq_some hm) hn hid]

theorem hasNode_eq_of_ids_eq {g g' : Graph} (h : ∀ id, id ∈ g.ids ↔ id ∈ g'.ids) :
    g.hasNode = g'.hasNode := by
  funext id
  rw [Bool.eq_iff_iff, hasNode_iff, hasNode_iff, h]

/-- A relationship is known exactly if its identifier is taken. -/
theorem relationship?_isSome_iff (g : Graph) (id : String) :
    (g.relationship? id).isSome = true ↔ id ∈ g.linkIds := by
  simp [relationship?, linkIds]

/-! ### Insertion -/

/-- Inserting a node appends it if its identifier is new. -/
theorem nodes_insertNode (g : Graph) (n : Node) :
    (g.insertNode n).nodes = g.nodes ++ fresh Node.id g.ids [n] := by
  simp only [insertNode, addNode, fresh]
  by_cases h : g.hasNode n.id = true
  · simp [h, (hasNode_iff g n.id).mp h]
  · have hnew : n.id ∉ g.ids := fun hmem => h ((hasNode_iff g n.id).mpr hmem)
    simp [h, hnew]

@[simp]
theorem relationships_insertNode (g : Graph) (n : Node) :
    (g.insertNode n).relationships = g.relationships := by
  simp only [insertNode, addNode]
  split <;> rfl

/-- Inserting a relationship appends it if its identifier is new. -/
theorem relationships_insertRelationship (g : Graph) (r : Relationship) :
    (g.insertRelationship r).relationships =
      g.relationships ++ fresh Relationship.id g.linkIds [r] := by
  simp only [insertRelationship, addRelationship, fresh]
  by_cases h : (g.relationship? r.id).isSome = true
  · simp [h, (relationship?_isSome_iff g r.id).mp h]
  · have hnew : r.id ∉ g.linkIds := fun hmem => h ((relationship?_isSome_iff g r.id).mpr hmem)
    simp [h, hnew]

@[simp]
theorem nodes_insertRelationship (g : Graph) (r : Relationship) :
    (g.insertRelationship r).nodes = g.nodes := by
  simp only [insertRelationship, addRelationship]
  split <;> rfl

@[simp]
theorem ids_insertRelationship (g : Graph) (r : Relationship) :
    (g.insertRelationship r).ids = g.ids := by
  rw [ids, nodes_insertRelationship, ids]

@[simp]
theorem linkIds_insertNode (g : Graph) (n : Node) : (g.insertNode n).linkIds = g.linkIds := by
  rw [linkIds, relationships_insertNode, linkIds]

/-- Inserting a node keeps the identifiers of the nodes different. -/
theorem nodup_ids_insertNode {g : Graph} (h : g.ids.Nodup) (n : Node) :
    (g.insertNode n).ids.Nodup := by
  rw [ids, nodes_insertNode, List.map_append]
  exact nodup_append_keys_fresh h [n]

/-- Inserting a relationship keeps the identifiers of the relationships different. -/
theorem nodup_linkIds_insertRelationship {g : Graph} (h : g.linkIds.Nodup) (r : Relationship) :
    (g.insertRelationship r).linkIds.Nodup := by
  rw [linkIds, relationships_insertRelationship, List.map_append]
  exact nodup_append_keys_fresh h [r]

@[simp]
theorem nodes_foldl_insertRelationship (g : Graph) (rs : List Relationship) :
    (rs.foldl insertRelationship g).nodes = g.nodes := by
  induction rs generalizing g with
  | nil => rfl
  | cons r rs ih => rw [List.foldl_cons, ih, nodes_insertRelationship]

@[simp]
theorem ids_foldl_insertRelationship (g : Graph) (rs : List Relationship) :
    (rs.foldl insertRelationship g).ids = g.ids := by
  rw [ids, nodes_foldl_insertRelationship, ids]

/-- Inserting relationships one after the other appends those under new identifiers. -/
theorem relationships_foldl_insertRelationship (g : Graph) (rs : List Relationship) :
    (rs.foldl insertRelationship g).relationships =
      g.relationships ++ fresh Relationship.id g.linkIds rs := by
  induction rs generalizing g with
  | nil => simp
  | cons r rs ih =>
    rw [List.foldl_cons, ih, relationships_insertRelationship, List.append_assoc,
      show r :: rs = [r] ++ rs from rfl, fresh_append]
    congr 2
    refine fresh_congr (fun id => ?_) rs
    rw [linkIds, relationships_insertRelationship, List.map_append]
    exact (mem_append_keys_fresh Relationship.id g.linkIds [r] id).trans List.mem_append.symm

/-- Inserting relationships and counting those that are new is inserting them. -/
theorem fst_addRelationships (g : Graph) (rs : List Relationship) :
    (g.addRelationships rs).1 = rs.foldl insertRelationship g :=
  Count.fst_steps _ _ _

/-- Append a node and then relationships, unless their identifiers are taken. -/
def attach (g : Graph) (x : Node × List Relationship) : Graph :=
  x.2.foldl insertRelationship (g.insertNode x.1)

/-- What is known already is not attached again. -/
theorem attach_eq_self {g : Graph} {n : Node} {r : Relationship} (hn : n.id ∈ g.ids)
    (hr : r.id ∈ g.linkIds) : g.attach (n, [r]) = g := by
  have hnode : g.insertNode n = g := by
    simp [insertNode, addNode, (hasNode_iff g n.id).mpr hn]
  have hlink : g.insertRelationship r = g := by
    simp [insertRelationship, addRelationship, (relationship?_isSome_iff g r.id).mpr hr]
  simp only [attach, List.foldl_cons, List.foldl_nil, hnode, hlink]

/-- Attaching one after the other appends the nodes under new identifiers. -/
theorem nodes_foldl_attach (g : Graph) (xs : List (Node × List Relationship)) :
    (xs.foldl attach g).nodes = g.nodes ++ fresh Node.id g.ids (xs.map Prod.fst) := by
  induction xs generalizing g with
  | nil => simp
  | cons x xs ih =>
    have hnodes : (g.attach x).nodes = g.nodes ++ fresh Node.id g.ids [x.1] := by
      rw [attach, nodes_foldl_insertRelationship, nodes_insertNode]
    rw [List.foldl_cons, ih, hnodes, List.append_assoc, List.map_cons,
      show x.1 :: xs.map Prod.fst = [x.1] ++ xs.map Prod.fst from rfl, fresh_append]
    congr 2
    refine fresh_congr (fun id => ?_) _
    rw [ids, hnodes, List.map_append]
    exact (mem_append_keys_fresh Node.id g.ids [x.1] id).trans List.mem_append.symm

/-- Attaching one after the other appends the relationships under new identifiers. -/
theorem relationships_foldl_attach (g : Graph) (xs : List (Node × List Relationship)) :
    (xs.foldl attach g).relationships =
      g.relationships ++ fresh Relationship.id g.linkIds (xs.flatMap Prod.snd) := by
  induction xs generalizing g with
  | nil => simp
  | cons x xs ih =>
    have hlinks : (g.attach x).relationships =
        g.relationships ++ fresh Relationship.id g.linkIds x.2 := by
      rw [attach, relationships_foldl_insertRelationship, relationships_insertNode,
        linkIds_insertNode]
    rw [List.foldl_cons, ih, hlinks, List.append_assoc, List.flatMap_cons, fresh_append]
    congr 2
    refine fresh_congr (fun id => ?_) _
    rw [linkIds, hlinks, List.map_append]
    exact (mem_append_keys_fresh Relationship.id g.linkIds x.2 id).trans List.mem_append.symm

/-- After attaching, exactly the old identifiers and those of the attached nodes are taken. -/
theorem mem_ids_foldl_attach (g : Graph) (xs : List (Node × List Relationship)) (id : String) :
    id ∈ (xs.foldl attach g).ids ↔ id ∈ g.ids ∨ id ∈ xs.map fun x => x.1.id := by
  rw [ids, nodes_foldl_attach, List.map_append]
  refine (mem_append_keys_fresh Node.id g.ids _ id).trans ?_
  rw [List.map_map]
  rfl

/-- After attaching, exactly the old identifiers and those of the new relationships are taken. -/
theorem mem_linkIds_foldl_attach (g : Graph) (xs : List (Node × List Relationship)) (id : String) :
    id ∈ (xs.foldl attach g).linkIds ↔
      id ∈ g.linkIds ∨ id ∈ (xs.flatMap Prod.snd).map Relationship.id := by
  rw [linkIds, relationships_foldl_attach, List.map_append]
  exact mem_append_keys_fresh Relationship.id g.linkIds _ id

end Graph

/-! ### Description -/

/-- A node after descriptions; each of them is for the node with one identifier. -/
def Node.described (ds : List (String × Properties)) (n : Node) : Node :=
  { n with
    properties := (ds.filter (·.1 = n.id)).foldl (fun ps d => ps.insertAll d.2.toList)
      n.properties }

namespace Node

@[simp]
theorem id_described (ds : List (String × Properties)) (n : Node) : (n.described ds).id = n.id :=
  rfl

@[simp]
theorem label_described (ds : List (String × Properties)) (n : Node) :
    (n.described ds).label = n.label :=
  rfl

@[simp]
theorem described_nil (n : Node) : n.described [] = n :=
  rfl

/-- Descriptions are carried out one after the other. -/
theorem described_append (ds es : List (String × Properties)) (n : Node) :
    n.described (ds ++ es) = (n.described ds).described es := by
  rw [described, List.filter_append, List.foldl_append]
  rfl

/-- Descriptions of other nodes leave a node alone. -/
theorem described_of_notMem {ds : List (String × Properties)} {n : Node}
    (h : n.id ∉ ds.map Prod.fst) : n.described ds = n := by
  have hnone : ds.filter (·.1 = n.id) = [] := by
    rw [List.filter_eq_nil_iff]
    intro d hd heq
    exact h (List.mem_map.mpr ⟨d, hd, of_decide_eq_true heq⟩)
  rw [described, hnone, List.foldl_nil]

/-- The order of descriptions does not matter if each is for another node. -/
theorem described_eq_of_perm {ds ds' : List (String × Properties)} (h : ds.Perm ds')
    (hkey : ∀ d ∈ ds, ∀ d' ∈ ds, d.1 = d'.1 → d = d') (n : Node) :
    n.described ds = n.described ds' := by
  rw [described, described, filter_eq_of_perm h hkey]

/-- What holds of the properties of a node at first and after each description holds in the end. -/
theorem described_induction {ds : List (String × Properties)} {n : Node} {I : Properties → Prop}
    (hstart : I n.properties)
    (hstep : ∀ d ∈ ds, d.1 = n.id → ∀ ps, I ps → I (ps.insertAll d.2.toList)) :
    I (n.described ds).properties := by
  refine List.foldlRecOn _ _ hstart fun ps hps d hd => ?_
  obtain ⟨hmem, hid⟩ := List.mem_filter.mp hd
  exact hstep d hmem (of_decide_eq_true hid) ps hps

end Node

namespace Graph

/-- Setting properties is describing one node. -/
theorem nodes_setProperties (g : Graph) (id : String) (props : Properties) :
    (g.setProperties id props).nodes = g.nodes.map (Node.described [(id, props)]) := by
  simp only [setProperties]
  refine List.map_congr_left fun n _ => ?_
  by_cases h : n.id = id
  · simp [h, Node.described]
  · simp [h, Node.described, Ne.symm h]

@[simp]
theorem relationships_setProperties (g : Graph) (id : String) (props : Properties) :
    (g.setProperties id props).relationships = g.relationships :=
  rfl

@[simp]
theorem linkIds_setProperties (g : Graph) (id : String) (props : Properties) :
    (g.setProperties id props).linkIds = g.linkIds :=
  rfl

@[simp]
theorem ids_setProperties (g : Graph) (id : String) (props : Properties) :
    (g.setProperties id props).ids = g.ids := by
  rw [ids, nodes_setProperties, List.map_map, ids]
  rfl

/-- Describe nodes one after the other. -/
def describeAll (g : Graph) (ds : List (String × Properties)) : Graph :=
  ds.foldl (fun g d => g.setProperties d.1 d.2) g

/-- Descriptions are a map over the nodes. -/
theorem nodes_describeAll (g : Graph) (ds : List (String × Properties)) :
    (g.describeAll ds).nodes = g.nodes.map (Node.described ds) := by
  induction ds generalizing g with
  | nil =>
    have hid : Node.described [] = id := funext Node.described_nil
    rw [describeAll, List.foldl_nil, hid, List.map_id]
  | cons d ds ih =>
    rw [describeAll, List.foldl_cons]
    refine (ih _).trans ?_
    rw [nodes_setProperties, List.map_map]
    exact List.map_congr_left fun n _ => (Node.described_append [d] ds n).symm

@[simp]
theorem relationships_describeAll (g : Graph) (ds : List (String × Properties)) :
    (g.describeAll ds).relationships = g.relationships := by
  induction ds generalizing g with
  | nil => rfl
  | cons d ds ih => exact ih _

@[simp]
theorem linkIds_describeAll (g : Graph) (ds : List (String × Properties)) :
    (g.describeAll ds).linkIds = g.linkIds := by
  rw [linkIds, relationships_describeAll, linkIds]

@[simp]
theorem ids_describeAll (g : Graph) (ds : List (String × Properties)) :
    (g.describeAll ds).ids = g.ids := by
  rw [ids, nodes_describeAll, List.map_map, ids]
  rfl

/-- The relationships of a graph are those of a sequence of offers that found their place. -/
def Keeps (g : Graph) (offers : List Relationship) : Prop :=
  g.relationships = fresh Relationship.id [] offers

/-- Further offers are kept after the others. -/
theorem Keeps.foldl_insertRelationship {g : Graph} {offers : List Relationship}
    (h : g.Keeps offers) (rs : List Relationship) :
    (rs.foldl insertRelationship g).Keeps (offers ++ rs) := by
  rw [Keeps, relationships_foldl_insertRelationship, fresh_append, h]
  congr 1
  refine fresh_congr (fun id => ?_) rs
  rw [linkIds, h]
  exact mem_append_keys_fresh Relationship.id [] offers id |>.trans List.mem_append.symm

/-! ### Findings -/

/-- Nothing dangles if all end points of relationships are nodes. -/
theorem violations_validate_eq_nil {g : Graph}
    (h : ∀ r ∈ g.relationships, r.source ∈ g.ids ∧ r.target ∈ g.ids) :
    g.validate.violations = [] := by
  simp only [validate, List.flatMap_eq_nil_iff]
  intro r hr
  obtain ⟨hs, ht⟩ := h r hr
  simp [violationsOf, Relationship.endpoint, (hasNode_iff g _).mpr hs, (hasNode_iff g _).mpr ht]

/-- No file is unaccounted for if each of them defines something or says that it does not. -/
theorem unflaggedFiles_validate_eq_nil {g : Graph}
    (h : ∀ n ∈ g.nodes, n.label = .file → n.flagged "hasContent" = true →
      n.flagged "noDefinitions" = true ∨ ∃ r ∈ g.relationships, r.kind = .defines ∧
        r.source = n.id) :
    g.validate.unflaggedFiles = [] := by
  simp only [validate, List.map_eq_nil_iff, List.filter_eq_nil_iff]
  intro n hn hun
  simp only [isUnflagged, Bool.and_eq_true, decide_eq_true_eq, Bool.not_eq_true'] at hun
  obtain ⟨⟨⟨hfile, hcontent⟩, hdefines⟩, hflag⟩ := hun
  rcases h n hn hfile hcontent with hyes | ⟨r, hr, hkind, hsource⟩
  · rw [hyes] at hflag
    exact Bool.noConfusion hflag
  · simp only [definesSomething, List.any_eq_false, Bool.and_eq_true, decide_eq_true_eq,
      not_and] at hdefines
    exact hdefines r hr hkind hsource

/-- A node is connected exactly if some relationship starts or ends there. -/
theorem isConnected_iff (g : Graph) (id : String) :
    g.isConnected id = true ↔ ∃ r ∈ g.relationships, r.source = id ∨ r.target = id := by
  simp [isConnected]

end Graph

end CodeGraph
