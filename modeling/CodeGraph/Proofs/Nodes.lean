import CodeGraph.Proofs.Offers

/-!
# The nodes of a graph

If no two of the texts behind identifiers have the same digest, then every visible file and every
entered definition has its own node: file nodes are described by the outcomes of their files, and
nothing is said about the others.

## Main definitions

* `Stages.descriptions`: all that is said about files.
* `Stages.bareNodes`: the nodes before anything is said about them.
* `Stages.fullRegistry`, `Stages.full`: the registry of all files and definitions, and the stages
  with it.

## Main results

* `Stages.Complete.full_eq`: the registry of a run whose definitions have different texts.
* `Stages.Complete.nodes`: the nodes of the graph.
* `Stages.Complete.node?_fileId`, `Stages.Complete.node?_entered`: the nodes of files and
  definitions.
-/

namespace CodeGraph

open Inventory (Entry entriesOf)

namespace Stages

variable {s : Stages} {os : List FileOutcome} {e : Engine}

/-! ### Definitions beside project, folders and files -/

/-- An identifier of the skeleton is the digest of a text about project, folders and files. -/
theorem exists_structureText {id : String} (hid : id ∈ s.skeleton.graph.ids) :
    ∃ kind path, Identifier.structureText kind path ∈ s.structureTexts ∧
      id = Identifier.digest (Identifier.structureText kind path) := by
  rcases (Containment.mem_ids_build _ _ _ _).mp hid with rfl | ⟨d, hd, rfl⟩ | ⟨path, hp, rfl⟩
  · exact ⟨.project, s.request.projectName, List.mem_cons_self, rfl⟩
  · exact ⟨_, d, List.mem_append_left _ (List.mem_cons_of_mem _ (List.mem_map_of_mem hd)), rfl⟩
  · exact ⟨.file, path, List.mem_append_right _ (List.mem_map_of_mem hp), rfl⟩

/-- No definition has an identifier of the skeleton. -/
theorem Complete.id_notMem_skeleton (h : s.Complete os) (hinj : s.NodesInjective) {x : Entry}
    (hx : x ∈ s.entries) : x.id ∉ s.skeleton.graph.ids := by
  intro hmem
  obtain ⟨_, f, hf, -, hd, -, hauth⟩ := h.exists_of_mem_entries hx
  obtain ⟨kind, path, htext, hid⟩ := exists_structureText hmem
  have hdigest : Identifier.digest x.definition.idSource =
      Identifier.digest (Identifier.structureText kind path) := by
    rw [← hauth.nodeId, ← hid]
    rfl
  exact Definition.idSource_ne_structureText _ _ _
    (hinj (idSource_mem_nodeTexts hf hd) (List.mem_append_left _ htext) hdigest)

/-- No definition has the identifier of a file. -/
theorem Complete.id_ne_fileId (h : s.Complete os) (hinj : s.Injective e) {x : Entry}
    (hx : x ∈ s.entries) {path : String} (hp : path ∈ s.plan.visible) :
    x.id ≠ Containment.fileId path := by
  intro heq
  refine h.id_notMem_skeleton hinj.nodes hx ?_
  rw [heq]
  exact (Containment.mem_ids_build _ _ _ _).mpr (.inr (.inr ⟨path, hp, rfl⟩))

/-- Entries of a run have the same identifier exactly if their definitions have the same text. -/
theorem Complete.id_eq_iff (h : s.Complete os) (hinj : s.NodesInjective) {x y : Entry}
    (hx : x ∈ s.entries) (hy : y ∈ s.entries) :
    y.id = x.id ↔ y.definition.idSource = x.definition.idSource := by
  obtain ⟨_, f, hf, -, hdef, -, hauth⟩ := h.exists_of_mem_entries hx
  obtain ⟨_, g, hg, -, hdef', -, hauth'⟩ := h.exists_of_mem_entries hy
  rw [Entry.id, Entry.id, hauth.nodeId, hauth'.nodeId]
  exact ⟨fun hid => hinj (idSource_mem_nodeTexts hg hdef') (idSource_mem_nodeTexts hf hdef) hid,
    fun htext => congrArg Identifier.digest htext⟩

/-! ### Definitions with different texts -/

/-- The entries are those of the definitions of the parsed files. -/
theorem map_definition_entries (s : Stages) : s.entries.map Entry.definition = s.definitions := by
  rw [entries, definitions, List.map_flatMap]
  refine List.flatMap_congr fun f _ => ?_
  rw [entriesOf, List.map_map]
  exact List.map_id _

/-- If the texts of all definitions are different, then all of them are entered. -/
theorem Complete.entered_eq_entries (h : s.Complete os) (hinj : s.NodesInjective)
    (hnodup : (s.definitions.map Definition.idSource).Nodup) : s.entered = s.entries := by
  rw [← s.map_definition_entries, List.map_map] at hnodup
  refine fresh_eq_self (hnodup.of_map.map_on fun x hx y hy hid => ?_)
    fun x hx => h.id_notMem_skeleton hinj hx
  exact List.inj_on_of_nodup_map hnodup hx hy ((h.id_eq_iff hinj hy hx).mp hid)

/-- The registry of all visible files and all definitions. -/
def fullRegistry (s : Stages) : Registry :=
  s.definitions.foldl Registry.addDefinition
    (s.plan.visible.foldl Registry.registerFile Registry.empty)

/-- The stages with the registry of all visible files and all definitions. -/
def full (s : Stages) : Stages :=
  { s with parsing := { s.parsing with
      inventory := { s.parsing.inventory with registry := s.fullRegistry } } }

/-- If the texts of all definitions are different, then the registry of a run is full. -/
theorem Complete.full_eq (h : s.Complete os) (hinj : s.NodesInjective)
    (hnodup : (s.definitions.map Definition.idSource).Nodup) : s.full = s := by
  have hregistry : s.parsing.inventory.registry = s.fullRegistry := by
    rw [h.written.registry, h.entered_eq, h.entered_eq_entries hinj hnodup,
      s.map_definition_entries, beforeParsing_eq, fullRegistry]
  rw [full, ← hregistry]

/-! ### All nodes -/

/-- The descriptions of all files, the excluded ones first. -/
def descriptions (s : Stages) (os : List FileOutcome) : List (String × Properties) :=
  Parsing.excludedDescriptions s.skeleton.fileIds s.request.fileContents s.plan.excluded
    ++ Parsing.descriptions s.skeleton.fileIds s.request.fileContents s.skeleton.graph.ids os

/-- The nodes before they are described: the skeleton and the entered definitions. -/
def bareNodes (s : Stages) : List Node :=
  s.skeleton.graph.nodes ++ s.entered.map fun x => Inventory.nodeOf x.definition

/-- Descriptions of excluded files are for visible files. -/
theorem mem_visible_of_mem_excludedDescriptions {d : String × Properties}
    (hd : d ∈ Parsing.excludedDescriptions s.skeleton.fileIds s.request.fileContents
      s.plan.excluded) : ∃ path ∈ s.plan.visible, d.1 = Containment.fileId path := by
  obtain ⟨⟨path, reason⟩, -, hd⟩ := List.mem_filterMap.mp hd
  obtain ⟨id, hid, rfl⟩ := Option.map_eq_some_iff.mp hd
  rw [get?_fileIds] at hid
  split at hid
  · next hp => exact ⟨path, hp, (Option.some.inj hid).symm⟩
  · cases hid

/-- The nodes of the graph are those of skeleton and entered definitions, described. -/
theorem Complete.nodes (h : s.Complete os) (hinj : s.Injective e) :
    (s.graph e).nodes = s.bareNodes.map (Node.described (s.descriptions os)) := by
  have hne : ∀ o ∈ os, ∀ x ∈ os.flatMap (FileOutcome.entries s.skeleton.fileIds),
      x.id ≠ s.skeleton.fileIds.getD o.path "" := by
    intro o ho x hx
    rw [← h.entries_eq] at hx
    rw [getD_fileIds (h.mem_visible ho)]
    exact h.id_ne_fileId hinj hx (h.mem_visible ho)
  -- definitions are entered after excluded files are described
  have hexcluded : (s.entered.map fun x => Inventory.nodeOf x.definition).map
      (Node.described (Parsing.excludedDescriptions s.skeleton.fileIds s.request.fileContents
        s.plan.excluded)) = s.entered.map fun x => Inventory.nodeOf x.definition := by
    rw [List.map_map]
    refine List.map_congr_left fun x hx => Node.described_of_notMem fun hmem => ?_
    obtain ⟨d, hd, hid⟩ := List.mem_map.mp hmem
    obtain ⟨path, hp, hfile⟩ := mem_visible_of_mem_excludedDescriptions hd
    exact h.id_ne_fileId hinj (mem_of_mem_fresh hx).1 hp (hid.symm.trans hfile)
  have hentered := h.entered_eq
  rw [nodes_graph, h.parsing, Parsing.nodes_foldl_write _ _ _ _ hne, hentered, beforeParsing_eq]
  simp only [Graph.nodes_describeAll, Graph.ids_describeAll]
  rw [← hexcluded, ← List.map_append, List.map_map]
  exact List.map_congr_left fun n _ => (Node.described_append _ _ n).symm

/-- A node with the label of files is the node of a visible file, described. -/
theorem Complete.exists_of_mem_nodes (h : s.Complete os) (hinj : s.Injective e) {n : Node}
    (hn : n ∈ (s.graph e).nodes) (hlabel : n.label = .file) :
    ∃ path ∈ s.plan.visible, n = (Containment.fileNode path).described (s.descriptions os) := by
  rw [h.nodes hinj] at hn
  obtain ⟨bare, hbare, rfl⟩ := List.mem_map.mp hn
  rw [Node.label_described] at hlabel
  rcases List.mem_append.mp hbare with hbare | hbare
  · rw [skeleton, Engine.skeletonOf, Containment.nodes_build] at hbare
    rcases List.mem_cons.mp hbare with rfl | hbare
    · cases hlabel
    · obtain ⟨x, hx, rfl⟩ := List.mem_map.mp (mem_of_mem_fresh hbare).1
      rcases Containment.mem_offers.mp hx with ⟨d, -, rfl⟩ | ⟨path, hpath, rfl⟩
      · simp only [Containment.folderStep, Containment.folderNode] at hlabel
        split at hlabel <;> cases hlabel
      · exact ⟨path, hpath, rfl⟩
  · obtain ⟨x, -, rfl⟩ := List.mem_map.mp hbare
    simp only [Inventory.nodeOf] at hlabel
    cases hkind : x.definition.kind <;> rw [hkind] at hlabel <;> cases hlabel

/-! ### Single nodes -/

/-- Nodes have different identifiers. -/
theorem Complete.nodup_ids (h : s.Complete os) (hinj : s.Injective e) : (s.graph e).ids.Nodup := by
  have hskeleton : s.skeleton.graph.ids.Nodup := by
    rw [Graph.ids, skeleton, Engine.skeletonOf, Containment.nodes_build]
    exact nodup_keys_fresh Node.id [] (Containment.projectNode _ _ :: _)
  have hentered : (s.entered.map Entry.id).Nodup := nodup_keys_fresh Entry.id _ s.entries
  have hids : (s.graph e).ids = s.skeleton.graph.ids ++ s.entered.map Entry.id := by
    rw [Graph.ids, h.nodes hinj, List.map_map, bareNodes, List.map_append, List.map_map]
    rfl
  rw [hids]
  refine List.nodup_append.mpr ⟨hskeleton, hentered, fun id hid id' hid' heq => ?_⟩
  obtain ⟨x, hx, rfl⟩ := List.mem_map.mp hid'
  exact (mem_of_mem_fresh hx).2 (heq ▸ hid)

/-- Every description is for a visible file. -/
theorem Complete.exists_of_mem_descriptions (h : s.Complete os) {d : String × Properties}
    (hd : d ∈ s.descriptions os) : ∃ path ∈ s.plan.visible, d.1 = Containment.fileId path := by
  rcases List.mem_append.mp hd with hd | hd
  · exact mem_visible_of_mem_excludedDescriptions hd
  · obtain ⟨o, ho, count, rfl, -⟩ := Parsing.exists_of_mem_descriptions _ _ hd
    exact ⟨o.path, h.mem_visible ho, getD_fileIds (h.mem_visible ho)⟩

/-- Nothing is said about an entered definition. -/
theorem Complete.described_entered (h : s.Complete os) (hinj : s.Injective e) {x : Entry}
    (hx : x ∈ s.entered) :
    (Inventory.nodeOf x.definition).described (s.descriptions os) =
      Inventory.nodeOf x.definition := by
  refine Node.described_of_notMem fun hmem => ?_
  obtain ⟨d, hd, hid⟩ := List.mem_map.mp hmem
  obtain ⟨path, hp, hfile⟩ := h.exists_of_mem_descriptions hd
  exact h.id_ne_fileId hinj (mem_of_mem_fresh hx).1 hp (hid.symm.trans hfile)

/-- The node of an entered definition. -/
theorem Complete.node?_entered (h : s.Complete os) (hinj : s.Injective e) {x : Entry}
    (hx : x ∈ s.entered) :
    (s.graph e).node? x.id = some (Inventory.nodeOf x.definition) := by
  refine Graph.node?_eq_some (h.nodup_ids hinj) (n := Inventory.nodeOf x.definition) ?_
  rw [h.nodes hinj, ← h.described_entered hinj hx]
  exact List.mem_map_of_mem (List.mem_append_right _ (List.mem_map_of_mem hx))

/-- The nodes that are offered for the skeleton. -/
def skeletonNodes (s : Stages) : List Node :=
  Containment.offeredNodes s.request.projectName s.request.projectRoot s.plan.visible

/-- The skeleton has the offered nodes under new identifiers. -/
theorem nodes_skeleton (s : Stages) :
    s.skeleton.graph.nodes = fresh Node.id [] s.skeletonNodes :=
  Containment.nodes_build_eq_fresh _ _ _

/-- The texts of project, folders and files are among those of the run. -/
theorem Injective.structure (hinj : s.Injective e) :
    Set.InjOn Identifier.digest
      {t | t ∈ Containment.structureTexts s.request.projectName s.plan.visible} :=
  hinj.mono fun _ ht => mem_texts_of_structure ht

/-- Nodes of the skeleton under the same identifier are the same. -/
theorem skeletonNodes_inj (hinj : s.Injective e) :
    ∀ a ∈ s.skeletonNodes, ∀ b ∈ s.skeletonNodes, a.id = b.id → a = b :=
  Containment.offeredNodes_inj _ hinj.structure

/-- Visible files have different identifiers. -/
theorem fileId_inj (hinj : s.Injective e) {path path' : String} (hp : path ∈ s.plan.visible)
    (hp' : path' ∈ s.plan.visible) (heq : Containment.fileId path = Containment.fileId path') :
    path = path' :=
  (Identifier.structureText_inj (hinj (fileText_mem_texts hp) (fileText_mem_texts hp') heq)).2

/-- The node of a visible file. -/
theorem Complete.node?_fileId (h : s.Complete os) (hinj : s.Injective e) {path : String}
    (hp : path ∈ s.plan.visible) :
    (s.graph e).node? (Containment.fileId path) =
      some ((Containment.fileNode path).described (s.descriptions os)) := by
  have hskeleton : Containment.fileNode path ∈ s.skeleton.graph.nodes := by
    rw [nodes_skeleton, mem_fresh_iff (skeletonNodes_inj hinj)]
    exact ⟨Containment.mem_offeredNodes.mpr (.inr (.inr ⟨path, hp, rfl⟩)), List.not_mem_nil⟩
  refine Graph.node?_eq_some (h.nodup_ids hinj)
    (n := (Containment.fileNode path).described (s.descriptions os)) ?_
  rw [h.nodes hinj]
  exact List.mem_map_of_mem (List.mem_append_left _ hskeleton)

/-- No description says anything about the path of a file. -/
theorem path_notMem_of_mem_descriptions {d : String × Properties} (hd : d ∈ s.descriptions os) :
    "path" ∉ d.2.toList.map Prod.fst := by
  have hskipped : ∀ reason content category details, "path" ∉ details.map Prod.fst →
      "path" ∉ (skippedProperties reason content category details).toList.map Prod.fst := by
    intro reason content category details hdetails
    simp only [skippedProperties, OrderedMap.toList, List.map_append, List.mem_append, not_or]
    refine ⟨⟨by simp, ?_⟩, hdetails⟩
    cases category.languageName? <;> simp
  rcases List.mem_append.mp hd with hd | hd
  · obtain ⟨⟨path, reason⟩, -, hd⟩ := List.mem_filterMap.mp hd
    obtain ⟨id, -, rfl⟩ := Option.map_eq_some_iff.mp hd
    exact hskipped reason _ _ _ List.not_mem_nil
  · obtain ⟨o, -, count, rfl, -⟩ := Parsing.exists_of_mem_descriptions _ _ hd
    obtain ⟨path, category, contentHash, fileSize, result⟩ := o
    cases result with
    | parsed file =>
      simp [FileOutcome.description, parsedProperties, contentProperties, OrderedMap.toList]
    | failed failure =>
      simp [FileOutcome.description, failedProperties, contentProperties, OrderedMap.toList]
    | skipped reason => exact hskipped reason _ _ _ (by simp [contentProperties])

/-- A file node has the path of its file. -/
theorem get?_path_described (s : Stages) (os : List FileOutcome) (path : String) :
    ((Containment.fileNode path).described (s.descriptions os)).properties.get? "path" =
      some (.text path) := by
  refine Node.described_induction (I := fun ps => ps.get? "path" = some (.text path)) rfl
    fun d hd _ ps hps => ?_
  rw [OrderedMap.get?_insertAll_of_notMem _ (path_notMem_of_mem_descriptions hd), hps]

end Stages

end CodeGraph
