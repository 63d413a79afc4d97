import CodeGraph.Proofs.CallEdges
import CodeGraph.Proofs.FileNodes

/-!
# Graph, registry and report agree on definitions

Five stores are filled along the definitions of the parsed files: nodes, relationships, registry,
counts by kind, and the count of duplicates. All of them are views of one list, the entered
definitions, so that they stay in step whatever is ingested and however often it is repeated.

## Main definitions

* `Graph.definitions`: the nodes of definitions.
* `Graph.definesInto`, `Graph.definesFrom`: the relationships from files to their definitions.
* `Registry.definitions`: the registered definitions, file by file.

## Main results

* `Stages.Complete.definitions_eq`, `Stages.Complete.defines_eq`: nodes and relationships of the
  entered definitions.
* `Stages.Complete.registered_perm`: the registered definitions are the entered ones.
* `Engine.definitions_agree`: the five stores of a run that returns.
-/

namespace CodeGraph

open Inventory (Entry)

/-! ### Views of graph and registry -/

/-- Whether a node is that of a definition. -/
def Node.isDefinition (n : Node) : Bool :=
  DefinitionKind.all.any (·.label = n.label)

namespace Graph

/-- The nodes of definitions. -/
def definitions (g : Graph) : List Node :=
  g.nodes.filter Node.isDefinition

/-- The relationships of files to definitions. -/
def defines (g : Graph) : List Relationship :=
  g.relationships.filter (·.kind = .defines)

/-- The relationships of files to a definition. -/
def definesInto (g : Graph) (id : String) : List Relationship :=
  g.defines.filter (·.target = id)

/-- The relationships of a file to definitions. -/
def definesFrom (g : Graph) (id : String) : List Relationship :=
  g.defines.filter (·.source = id)

end Graph

/-- The registered definitions, file by file. -/
def Registry.definitions (r : Registry) : List Definition :=
  r.files.flatMap r.inFile

theorem DefinitionKind.mem_all (k : DefinitionKind) : k ∈ all := by
  cases k <;> decide

/-- The node of a definition is one. -/
theorem Inventory.isDefinition_nodeOf (d : Definition) : (nodeOf d).isDefinition = true :=
  List.any_eq_true.mpr ⟨d.kind, d.kind.mem_all, decide_eq_true rfl⟩

namespace Stages

variable {s : Stages} {os : List FileOutcome} {e : Engine}

/-! ### Nodes -/

/-- A node of the skeleton is not that of a definition. -/
theorem isDefinition_skeleton {n : Node} (hn : n ∈ s.skeleton.graph.nodes) :
    n.isDefinition = false := by
  rw [nodes_skeleton] at hn
  rcases Containment.mem_offeredNodes.mp (mem_of_mem_fresh hn).1 with
    rfl | ⟨d, -, rfl⟩ | ⟨path, -, rfl⟩
  · rfl
  · rcases Containment.label_folderNode (packageDirectories s.plan.visible) d with hlabel | hlabel
    · rw [Node.isDefinition, hlabel]
      rfl
    · rw [Node.isDefinition, hlabel]
      rfl
  · rfl

/-- The nodes of definitions are those of the entered ones. -/
theorem Complete.definitions_eq (h : s.Complete os) (hinj : s.Injective e) :
    (s.graph e).definitions = s.entered.map fun x => Inventory.nodeOf x.definition := by
  have hskeleton : (s.skeleton.graph.nodes.map (Node.described (s.descriptions os))).filter
      Node.isDefinition = [] := by
    refine List.filter_eq_nil_iff.mpr fun n hn hdef => ?_
    obtain ⟨bare, hbare, rfl⟩ := List.mem_map.mp hn
    exact Bool.false_ne_true ((isDefinition_skeleton hbare).symm.trans hdef)
  have hentered : (s.entered.map fun x => Inventory.nodeOf x.definition).map
      (Node.described (s.descriptions os)) =
      s.entered.map fun x => Inventory.nodeOf x.definition := by
    rw [List.map_map]
    exact List.map_congr_left fun x hx => h.described_entered hinj hx
  rw [Graph.definitions, h.nodes hinj, bareNodes, List.map_append, List.filter_append, hskeleton,
    hentered, List.nil_append]
  refine List.filter_eq_self.mpr fun n hn => ?_
  obtain ⟨x, -, rfl⟩ := List.mem_map.mp hn
  exact Inventory.isDefinition_nodeOf _

/-! ### Relationships -/

/-- Resolution offers no relationships of files to definitions. -/
theorem kind_ne_defines {r : Relationship} (hr : r ∈ s.resolvedRelationships e) :
    r.kind ≠ .defines := by
  rcases List.mem_append.mp hr with hr | hr
  · rcases List.mem_append.mp hr with hr | hr
    · simp [Imports.kind_of_mem_relationships hr]
    · rcases Heritage.kind_of_mem_relationships hr with hkind | hkind <;> simp [hkind]
  · simp [Calls.kind_of_mem_relationships hr]

/-- Of the relationships that an entry brings, one is to its file. -/
theorem filter_links (x : Entry) :
    x.links.filter (·.kind = .defines) = [x.definesEdge] := by
  have hmember : (Inventory.membership? x.types x.definition).toList.filter
      (·.kind = .defines) = [] := by
    refine List.filter_eq_nil_iff.mpr fun r hr hkind => ?_
    obtain ⟨owner, -, rfl⟩ := Inventory.exists_of_membership? (Option.mem_toList.mp hr)
    cases of_decide_eq_true hkind
  have hfirst : x.definesEdge.kind = .defines := rfl
  rw [Entry.links, List.filter_cons, if_pos (decide_eq_true hfirst), hmember]

/-- Of all that is offered, the relationships of files to definitions are those of the entries. -/
theorem filter_offered (s : Stages) (e : Engine) :
    (s.offered e).filter (·.kind = .defines) = s.entered.map Entry.definesEdge := by
  have hskeleton : ∀ r ∈ (Containment.offers s.request.projectName s.plan.visible).flatMap
      Prod.snd, r.kind ≠ .defines := by
    intro r hr
    obtain ⟨x, hx, hr⟩ := List.mem_flatMap.mp hr
    rcases Containment.mem_offers.mp hx with ⟨d, -, rfl⟩ | ⟨path, -, rfl⟩
    · obtain rfl := List.mem_singleton.mp hr
      exact nofun
    · obtain rfl := List.mem_singleton.mp hr
      exact nofun
  rw [offered, heldRelationships, List.filter_append, List.filter_append,
    filter_kind_eq_nil hskeleton, filter_kind_eq_nil fun r hr => kind_ne_defines hr,
    List.nil_append, List.append_nil, List.filter_flatMap]
  simp only [filter_links]
  exact (List.map_eq_flatMap).symm

/-- Every entered definition has its relationship to its file, and there are no others. -/
theorem Complete.defines_eq (h : s.Complete os) (hinj : s.Injective e) :
    (s.graph e).defines = s.entered.map Entry.definesEdge := by
  -- definitions are told apart by their identifiers, and so are the relationships to them
  have htargets : ((s.entered.map Entry.definesEdge).map Relationship.target).Nodup := by
    rw [List.map_map]
    exact nodup_keys_fresh Entry.id _ s.entries
  refine h.ofKind_eq hinj (s.filter_offered e) (List.Nodup.of_map Prod.snd ?_)
  rwa [List.map_map]

/-- An entered definition is the target of the relationship to its file, and of no other one. -/
theorem Complete.definesInto_eq (h : s.Complete os) (hinj : s.Injective e) {x : Entry}
    (hx : x ∈ s.entered) : (s.graph e).definesInto x.id = [x.definesEdge] := by
  have hentered : (s.entered.map Entry.id).Nodup := nodup_keys_fresh Entry.id _ s.entries
  have hone := filter_key_eq_singleton hentered hx
  have htarget : ∀ y : Entry, y.definesEdge.target = y.id := fun _ => rfl
  rw [Graph.definesInto, h.defines_eq hinj, List.filter_map]
  simp only [Function.comp_def, htarget, hone, List.map_cons, List.map_nil]

/-- A file is the source of the relationships to its entered definitions. -/
theorem Complete.definesFrom_eq (h : s.Complete os) (hinj : s.Injective e) (path : String) :
    (s.graph e).definesFrom (Containment.fileId path) =
      (s.enteredIn path).map Entry.definesEdge := by
  have hsource : ∀ x : Entry, x.definesEdge.source = x.fileId := fun _ => rfl
  rw [Graph.definesFrom, h.defines_eq hinj, List.filter_map, enteredIn]
  simp only [Function.comp_def, hsource]

/-! ### Registry -/

/-- An entry belongs to a file by its identifier exactly if its definition does by its path. -/
theorem Complete.fileId_eq_iff (h : s.Complete os) (hinj : s.Injective e) {x : Entry}
    (hx : x ∈ s.entries) {path : String} (hp : path ∈ s.plan.visible) :
    x.fileId = Containment.fileId path ↔ x.definition.filePath = path := by
  obtain ⟨path', f, hf, hid, -, -, hauth⟩ := h.exists_of_mem_entries hx
  rw [hid, hauth.filePath]
  exact ⟨fileId_inj hinj (h.exists_of_mem_files hf).1 hp, fun heq => heq ▸ rfl⟩

/-- The registered definitions of a file are its entered ones. -/
theorem Complete.inFile_eq (h : s.Complete os) (hinj : s.Injective e) {path : String}
    (hp : path ∈ s.plan.visible) :
    s.parsing.inventory.registry.inFile path = (s.enteredIn path).map Entry.definition := by
  rw [h.holds.inFile, List.filter_map, enteredIn]
  refine congrArg (List.map Entry.definition) (List.filter_congr fun x hx => ?_)
  exact decide_eq_decide.mpr (h.fileId_eq_iff hinj (mem_of_mem_fresh hx).1 hp).symm

/-- The registered definitions are the entered ones. -/
theorem Complete.registered_perm (h : s.Complete os) :
    s.parsing.inventory.registry.definitions.Perm (s.entered.map Entry.definition) := by
  have hinFile : s.parsing.inventory.registry.inFile = fun path =>
      (s.entered.map Entry.definition).filter (·.filePath = path) := funext h.holds.inFile
  rw [Registry.definitions, h.holds.files, hinFile]
  exact flatMap_filter_perm (Plan.nodup_visible h.nodup) h.filePath_of_mem_entered

/-! ### Counts -/

/-- The counts by kind are of the entered definitions. -/
theorem Complete.total_byKind (h : s.Complete os) :
    Count.total s.parsing.inventory.byKind.values = s.entered.length := by
  have hempty : (∅ : OrderedMap String Nat).keys.Nodup := List.nodup_nil
  rw [h.written.byKind, h.entered_eq, beforeParsing_eq, OrderedMap.total_foldl_increment hempty,
    List.length_map]
  exact Nat.zero_add _

/-- Each definition of a parsed file is offered once. -/
theorem length_entries (s : Stages) : s.entries.length = s.definitions.length := by
  rw [entries, definitions, List.length_flatMap, List.length_flatMap]
  simp only [Inventory.entriesOf, List.length_map]

/-- What is not entered is a duplicate. -/
theorem Complete.length_entered_add (h : s.Complete os) :
    s.entered.length + s.parsing.inventory.duplicates = s.definitions.length := by
  have hle : s.entered.length ≤ s.entries.length :=
    (fresh_sublist Entry.id s.skeleton.graph.ids s.entries).length_le
  have hduplicates : s.parsing.inventory.duplicates = s.entries.length - s.entered.length := by
    rw [h.written.duplicates, h.entered_eq, ← h.entries_eq, beforeParsing_eq]
    exact Nat.zero_add _
  rw [hduplicates, ← s.length_entries]
  omega

end Stages

/-! ### The five stores -/

/--
Graph, registry and report of a run agree on definitions. Each node of a definition is the target of
one relationship of definition, which comes from the file of its path; every parsed file says how
many such relationships leave it, and so many definitions are registered for it; the nodes of the
registered definitions are those of the graph, each under its own identifier; and with the
duplicates the counts by kind add up to all definitions of the parsed files.
-/
theorem Engine.definitions_agree (e : Engine) (request : Request) (i : Interruptions)
    {cache : Cache} (hcache : cache.Reachable) {res : IngestResult}
    (hrun : (e.run request i cache).1 = .ok res)
    (hinj : Set.InjOn Identifier.digest {t | t ∈ e.hashed request i cache}) :
    ∃ s after, e.stages? request i cache = some s ∧
      res = e.finish s.skeleton s.parsing cache after ∧
      (∀ n ∈ res.store.graph.definitions, ∃ r path,
        res.store.graph.definesInto n.id = [r] ∧ res.store.graph.IsFile path r.source ∧
        n.properties.get? "filePath" = some (.text path)) ∧
      (∀ path ∈ s.parsing.parsed.keys, ∃ (file : Node) (count : Nat),
        res.store.graph.node? (Containment.fileId path) = some file ∧
        res.store.graph.IsFile path file.id ∧
        file.properties.get? "definitionCount" = some (.int count) ∧
        count = (res.store.graph.definesFrom file.id).length ∧
        count = (s.parsing.inventory.registry.inFile path).length) ∧
      (s.parsing.inventory.registry.definitions.map Definition.nodeId).Nodup ∧
      (s.parsing.inventory.registry.definitions.map Inventory.nodeOf).Perm
        res.store.graph.definitions ∧
      Count.total res.report.definitions.values = res.store.graph.definitions.length ∧
      Count.total res.report.definitions.values + res.report.duplicates =
        (e.definitions request i cache).length := by
  obtain ⟨s, os, after, hstages, rfl, -, hs, rfl⟩ := Engine.exists_complete hcache.sound hrun
  have hinj' : s.Injective e := Stages.injective_of_hashed hstages hinj
  have hdefinitions : (e.finish s.skeleton s.parsing cache after).store.graph.definitions =
      s.entered.map fun x => Inventory.nodeOf x.definition := hs.definitions_eq hinj'
  have htotal : Count.total (e.finish s.skeleton s.parsing cache after).report.definitions.values =
      s.entered.length := hs.total_byKind
  refine ⟨s, after, hstages, rfl, fun n hn => ?_, fun path hpath => ?_, ?_, ?_, ?_, ?_⟩
  · rw [hdefinitions] at hn
    obtain ⟨x, hx, rfl⟩ := List.mem_map.mp hn
    obtain ⟨path, f, hf, hid, -, -, hauth⟩ := hs.exists_of_mem_entries (mem_of_mem_fresh hx).1
    refine ⟨x.definesEdge, path, hs.definesInto_eq hinj' hx, ?_, ?_⟩
    · have hfile := hs.isFile hinj' (hs.exists_of_mem_files hf).1
      rwa [← hid] at hfile
    · rw [← hauth.filePath]
      exact x.definition.get?_filePath_properties
  · obtain ⟨⟨path, f⟩, hf, rfl⟩ := List.mem_map.mp hpath
    have hvisible := (hs.exists_of_mem_files hf).1
    rw [hs.parsed_eq] at hf
    obtain ⟨o, ho, hparsed⟩ := List.mem_filterMap.mp hf
    obtain ⟨g, -, heq⟩ := Option.map_eq_some_iff.mp hparsed
    obtain ⟨rfl, rfl⟩ := Prod.mk.inj heq
    refine ⟨s.outcomeNode o, (s.enteredIn o.path).length, ?_, hs.isFile hinj' hvisible,
      (hs.tells_outcome hinj' ho).definitionCount, ?_, ?_⟩
    · rw [← hs.described_outcome hinj' ho]
      exact hs.node?_fileId hinj' hvisible
    · have hfrom := hs.definesFrom_eq hinj' o.path
      exact ((congrArg List.length hfrom).trans (List.length_map _)).symm
    · rw [hs.inFile_eq hinj' hvisible, List.length_map]
  · refine ((hs.registered_perm.map Definition.nodeId).nodup_iff).mpr ?_
    rw [List.map_map]
    exact nodup_keys_fresh Entry.id _ s.entries
  · rw [hdefinitions]
    have hperm := hs.registered_perm.map Inventory.nodeOf
    rwa [List.map_map] at hperm
  · rw [htotal, hdefinitions, List.length_map]
  · rw [htotal, Engine.definitions, hstages]
    exact hs.length_entered_add

/-- The counts of the sample add up to the definitions of its file. -/
theorem Engine.definitions_agree_sample :
    ∃ res, (Sample.engine.run Sample.request {} (Cache.ofSettings {})).1 = .ok res ∧
      Count.total res.report.definitions.values = res.store.graph.definitions.length ∧
      Count.total res.report.definitions.values + res.report.duplicates =
        (Sample.engine.definitions Sample.request {} (Cache.ofSettings {})).length := by
  obtain ⟨res, hres, -⟩ := Sample.exists_result
  obtain ⟨s, after, -, -, -, -, -, -, htotal, hduplicates⟩ :=
    Engine.definitions_agree _ _ _ (Cache.reachable_ofSettings {}) hres Sample.injOn_hashed
  exact ⟨res, hres, htotal, hduplicates⟩

end CodeGraph
