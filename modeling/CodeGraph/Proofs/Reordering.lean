import CodeGraph.Proofs.Integrity
import CodeGraph.Proofs.Resolution

/-!
# The same files in another order

Two finished parsing stages over the same files and outcomes differ in the order of their lists
only. If no identifier is asked for by definitions of two files, then each file enters the same
definitions in both of them, so that both registries are alike, resolution gives the same
relationships, and graphs and reports differ in their order at most.

## Main definitions

* `Stages.Separate`: no identifier is asked for by definitions of two files.
* `Stages.Reordered`: two stages with the same files and outcomes in different orders.
* `Graph.Agrees`, `Report.Agrees`: graphs and reports that differ in their order at most.

## Main results

* `Stages.Reordered.alike`: the registries give resolution the same answers.
* `Stages.Reordered.resolvedRelationships_eq`: resolution offers the same relationships.
* `Stages.Reordered.graph_agrees`, `Stages.Reordered.report_agrees`: graphs and reports agree.
-/

namespace CodeGraph

open Inventory (Entry entriesOf)

/-! ### Agreement -/

/-- Two graphs have the same nodes and relationships. -/
structure Graph.Agrees (g g' : Graph) : Prop where
  nodes : g.nodes.Perm g'.nodes
  relationships : g.relationships.Perm g'.relationships

/-- Graphs that agree have the same number of isolated nodes of each kind. -/
theorem Graph.Agrees.isolatedCounts {g g' : Graph} (h : g.Agrees g') (label : String) :
    g.validate.isolatedCounts.get? label = g'.validate.isolatedCounts.get? label := by
  have hconnected : g.isConnected = g'.isConnected := by
    funext id
    rw [Bool.eq_iff_iff, isConnected_iff, isConnected_iff]
    simp only [h.relationships.mem_iff]
  simp only [validate, hconnected]
  exact OrderedMap.get?_tally_perm ((h.nodes.filter _).map _) label

/-- Two reports agree, but for the order of failures and the counters of the cache. -/
structure Report.Agrees (r r' : Report) : Prop where
  processed : r.processed = r'.processed
  failed : r.failed = r'.failed
  skipped : ∀ code, r.skipped.get? code = r'.skipped.get? code
  skippedTotal : r.skippedTotal = r'.skippedTotal
  definitions : ∀ kind, r.definitions.get? kind = r'.definitions.get? kind
  duplicates : r.duplicates = r'.duplicates
  importsTotal : r.importsTotal = r'.importsTotal
  importsResolved : r.importsResolved = r'.importsResolved
  importRate : r.importRate = r'.importRate
  unresolvedImports : r.unresolvedImports = r'.unresolvedImports
  callRate : r.callRate = r'.callRate
  callCounts : r.callCounts = r'.callCounts
  unresolvedCalls : r.unresolvedCalls = r'.unresolvedCalls
  heritageResolved : r.heritageResolved = r'.heritageResolved
  heritageUnresolved : r.heritageUnresolved = r'.heritageUnresolved
  parseFailures : r.parseFailures.Perm r'.parseFailures
  queryFailures : r.queryFailures.Perm r'.queryFailures
  violations : r.integrity.violations = r'.integrity.violations
  unflaggedFiles : r.integrity.unflaggedFiles = r'.integrity.unflaggedFiles
  isolatedCounts : ∀ label,
    r.integrity.isolatedCounts.get? label = r'.integrity.isolatedCounts.get? label
  nodeCount : r.integrity.nodeCount = r'.integrity.nodeCount
  relationshipCount : r.integrity.relationshipCount = r'.integrity.relationshipCount
  nodeCounts : ∀ label, r.nodeCounts.get? label = r'.nodeCounts.get? label
  relationshipCounts : ∀ kind, r.relationshipCounts.get? kind = r'.relationshipCounts.get? kind

namespace Stages

variable {s s' : Stages} {os os' : List FileOutcome} {e : Engine}

/-! ### Definitions of different files -/

/-- Definitions that ask for the same identifier are in the same file. -/
def Separate (s : Stages) : Prop :=
  ∀ x ∈ s.entries, ∀ y ∈ s.entries, x.id = y.id →
    x.definition.filePath = y.definition.filePath

/-- Definitions are separate if digests tell texts apart, and texts tell files apart. -/
theorem Complete.separate (h : s.Complete os) (hinj : s.Injective e)
    (hfiles : ∀ d ∈ s.definitions, ∀ d' ∈ s.definitions, d.idSource = d'.idSource →
      d.filePath = d'.filePath) : s.Separate := by
  intro x hx y hy hid
  obtain ⟨_, f, hf, -, hd, -, hauth⟩ := h.exists_of_mem_entries hx
  obtain ⟨_, g, hg, -, hd', -, hauth'⟩ := h.exists_of_mem_entries hy
  have hdigest : Identifier.digest x.definition.idSource =
      Identifier.digest y.definition.idSource := by
    rw [← hauth.nodeId, ← hauth'.nodeId]
    exact hid
  exact hfiles _ (List.mem_flatMap.mpr ⟨_, hf, hd⟩) _ (List.mem_flatMap.mpr ⟨_, hg, hd'⟩)
    (hinj (idSource_mem_texts hf hd) (idSource_mem_texts hg hd') hdigest)

/-- The entries of a parsed file are in this file. -/
theorem Complete.filePath_of_mem_entriesOf (h : s.Complete os) {f : String × ParsedFile}
    (hf : f ∈ s.files) {x : Entry} (hx : x ∈ entriesOf (Containment.fileId f.1) f.2.definitions) :
    x ∈ s.entries ∧ x.definition.filePath = f.1 := by
  refine ⟨List.mem_flatMap.mpr ⟨f, hf, hx⟩, ?_⟩
  obtain ⟨d, hd, rfl⟩ := List.mem_map.mp hx
  obtain ⟨-, hpath, hauth⟩ := h.exists_of_mem_files hf
  exact (hauth.definitions d hd).filePath.trans hpath

/-- The entries of an outcome are in its file. -/
theorem Complete.filePath_of_mem_outcome (h : s.Complete os) {o : FileOutcome} (ho : o ∈ os)
    {x : Entry} (hx : x ∈ o.entries s.skeleton.fileIds) :
    x ∈ s.entries ∧ x.definition.filePath = o.path := by
  refine ⟨h.entries_eq ▸ List.mem_flatMap.mpr ⟨o, ho, hx⟩, ?_⟩
  obtain ⟨f, hparsed, d, hd, rfl⟩ := FileOutcome.exists_of_mem_entries hx
  obtain ⟨hpath, hauth⟩ := h.genuine o ho f hparsed
  exact (hauth.definitions d hd).filePath.trans hpath

/-- If definitions are separate, each file enters its own. -/
theorem Complete.entered_eq_flatMap (h : s.Complete os) (hsep : s.Separate) :
    s.entered = s.files.flatMap fun f => Inventory.entered s.skeleton.graph.ids
      (entriesOf (Containment.fileId f.1) f.2.definitions) := by
  have hpaths : s.files.Pairwise fun f g => f.1 ≠ g.1 := List.pairwise_map.mp h.nodup_keys
  refine fresh_flatMap (hpaths.imp_of_mem fun hf hg hne x hx y hy hid => ?_)
  obtain ⟨hx, hxpath⟩ := h.filePath_of_mem_entriesOf hf hx
  obtain ⟨hy, hypath⟩ := h.filePath_of_mem_entriesOf hg hy
  exact hne (hxpath.symm.trans ((hsep y hy x hx hid).symm.trans hypath))

/-- If definitions are separate, each file is described on its own. -/
theorem Complete.descriptions_eq_map (h : s.Complete os) (hsep : s.Separate) :
    Parsing.descriptions s.skeleton.fileIds s.request.fileContents s.skeleton.graph.ids os =
      os.map fun o => (s.skeleton.fileIds.getD o.path "", o.description s.request.fileContents
        (Inventory.entered s.skeleton.graph.ids (o.entries s.skeleton.fileIds)).length) := by
  have hpaths : os.Pairwise fun o o' => o.path ≠ o'.path :=
    List.pairwise_map.mp (h.paths ▸ Plan.nodup_pending h.nodup)
  refine Parsing.descriptions_eq_map _ _ (hpaths.imp_of_mem fun ho ho' hne x hx y hy hid => ?_)
  obtain ⟨hx, hxpath⟩ := h.filePath_of_mem_outcome ho hx
  obtain ⟨hy, hypath⟩ := h.filePath_of_mem_outcome ho' hy
  exact hne (hxpath.symm.trans ((hsep y hy x hx hid).symm.trans hypath))

/-! ### What identifiers determine -/

/-- Each excluded file is described once. -/
theorem Complete.excludedDescriptions_inj (h : s.Complete os) (hinj : s.Injective e) :
    ∀ d ∈ Parsing.excludedDescriptions s.skeleton.fileIds s.request.fileContents s.plan.excluded,
      ∀ d' ∈ Parsing.excludedDescriptions s.skeleton.fileIds s.request.fileContents
        s.plan.excluded, d.1 = d'.1 → d = d' := by
  have hexcluded : ∀ d ∈ Parsing.excludedDescriptions s.skeleton.fileIds s.request.fileContents
      s.plan.excluded, ∃ path reason, path ∈ s.plan.visible ∧ (path, some reason) ∈ s.plan.files ∧
        d = (Containment.fileId path, skippedProperties reason
          (hasContent (s.request.fileContents.get? path)) .other []) := by
    intro d hd
    obtain ⟨⟨path, reason⟩, hmem, hd⟩ := List.mem_filterMap.mp hd
    obtain ⟨id, hid, rfl⟩ := Option.map_eq_some_iff.mp hd
    obtain ⟨⟨path', reason'⟩, hfile, hmap⟩ := List.mem_filterMap.mp hmem
    obtain ⟨reason'', rfl, heq⟩ := Option.map_eq_some_iff.mp hmap
    obtain ⟨rfl, rfl⟩ := Prod.mk.inj heq
    rw [get?_fileIds] at hid
    split at hid
    · next hp => exact ⟨path', reason'', hp, hfile, by rw [Option.some.inj hid]⟩
    · cases hid
  intro d hd d' hd' heq
  obtain ⟨path, reason, hp, hfile, rfl⟩ := hexcluded d hd
  obtain ⟨path', reason', hp', hfile', rfl⟩ := hexcluded d' hd'
  obtain rfl := fileId_inj hinj hp hp' heq
  have hsame := List.inj_on_of_nodup_map h.nodup hfile hfile' rfl
  obtain rfl := Option.some.inj (Prod.mk.inj hsame).2
  rfl

/-- Each file of an outcome is described once. -/
theorem Complete.descriptions_inj (h : s.Complete os) (hsep : s.Separate) (hinj : s.Injective e) :
    ∀ d ∈ Parsing.descriptions s.skeleton.fileIds s.request.fileContents s.skeleton.graph.ids os,
      ∀ d' ∈ Parsing.descriptions s.skeleton.fileIds s.request.fileContents s.skeleton.graph.ids
        os, d.1 = d'.1 → d = d' := by
  rw [h.descriptions_eq_map hsep]
  intro d hd d' hd' heq
  obtain ⟨o, ho, rfl⟩ := List.mem_map.mp hd
  obtain ⟨o', ho', rfl⟩ := List.mem_map.mp hd'
  have hvisible := h.mem_visible ho
  have hvisible' := h.mem_visible ho'
  dsimp only at heq
  rw [getD_fileIds hvisible, getD_fileIds hvisible'] at heq
  have hpaths : (os.map FileOutcome.path).Nodup := h.paths ▸ Plan.nodup_pending h.nodup
  obtain rfl := List.inj_on_of_nodup_map hpaths ho ho' (fileId_inj hinj hvisible hvisible' heq)
  rfl

/-- Relationships that are offered before resolution have no properties. -/
theorem properties_eq_of_mem_held {r : Relationship} (hr : r ∈ s.heldRelationships) :
    r.properties = ∅ := by
  rcases List.mem_append.mp hr with hr | hr
  · obtain ⟨x, hx, hr⟩ := List.mem_flatMap.mp hr
    rcases Containment.mem_offers.mp hx with ⟨d, -, rfl⟩ | ⟨path, -, rfl⟩
    · obtain rfl := List.mem_singleton.mp hr
      rfl
    · obtain rfl := List.mem_singleton.mp hr
      rfl
  · obtain ⟨x, -, hr⟩ := List.mem_flatMap.mp hr
    rcases List.mem_cons.mp hr with rfl | hr
    · rfl
    · obtain ⟨owner, -, rfl⟩ := Inventory.exists_of_membership? (Option.mem_toList.mp hr)
      rfl

/-- Relationships that are offered before resolution are known by their identifiers. -/
theorem Complete.heldRelationships_inj (h : s.Complete os) (hinj : s.Injective e) :
    ∀ r ∈ s.heldRelationships, ∀ r' ∈ s.heldRelationships, r.id = r'.id → r = r' := by
  intro r hr r' hr' hid
  have hoffered : r ∈ s.offered e := List.mem_append_left _ hr
  have hoffered' : r' ∈ s.offered e := List.mem_append_left _ hr'
  obtain ⟨hsource, hkind, htarget⟩ := h.ends_eq_of_id_eq hinj hoffered hoffered' hid
  calc r = .between r.kind r.source r.target r.properties :=
        (h.placed_of_mem_offered hoffered).between
    _ = .between r'.kind r'.source r'.target r'.properties := by
        rw [hsource, hkind, htarget, properties_eq_of_mem_held hr, properties_eq_of_mem_held hr']
    _ = r' := (h.placed_of_mem_offered hoffered').between.symm

/-! ### Stages in different orders -/

/-- Two finished parsing stages with the same files and outcomes in different orders. -/
structure Reordered (s s' : Stages) (os os' : List FileOutcome) : Prop where
  left : s.Complete os
  right : s'.Complete os'
  projectName : s.request.projectName = s'.request.projectName
  projectRoot : s.request.projectRoot = s'.request.projectRoot
  fileContents : s.request.fileContents = s'.request.fileContents
  plan : s.plan.files.Perm s'.plan.files
  outcomes : os.Perm os'

namespace Reordered

/-- The same files are visible. -/
theorem visible (h : Reordered s s' os os') : s.plan.visible.Perm s'.plan.visible :=
  Plan.visible_perm h.plan

/-- The same directories are packages. -/
theorem mem_packages (h : Reordered s s' os os') (d : String) : d ∈ s.packages ↔ d ∈ s'.packages :=
  Containment.mem_packageDirectories_of_perm h.visible d

/-- Files have the same identifiers. -/
theorem get?_fileIds (h : Reordered s s' os os') :
    s.skeleton.fileIds.get? = s'.skeleton.fileIds.get? := by
  funext path
  simp only [Stages.get?_fileIds, h.visible.mem_iff]

/-- The same nodes are offered for the skeleton. -/
theorem skeletonNodes (h : Reordered s s' os os') : s.skeletonNodes.Perm s'.skeletonNodes := by
  rw [Stages.skeletonNodes, Stages.skeletonNodes, Containment.offeredNodes,
    Containment.offeredNodes, h.projectName, h.projectRoot]
  exact ((Containment.offers_perm _ h.visible).map _).cons _

/-- The same identifiers are taken by the skeleton. -/
theorem mem_ids_skeleton (h : Reordered s s' os os') (id : String) :
    id ∈ s.skeleton.graph.ids ↔ id ∈ s'.skeleton.graph.ids := by
  have hids : ∀ s : Stages, id ∈ s.skeleton.graph.ids ↔ id ∈ s.skeletonNodes.map Node.id := by
    intro s
    rw [Graph.ids, nodes_skeleton]
    simpa using mem_append_keys_fresh Node.id [] s.skeletonNodes id
  rw [hids, hids, (h.skeletonNodes.map Node.id).mem_iff]

/-- The same files are parsed. -/
theorem files (h : Reordered s s' os os') : s.files.Perm s'.files := by
  rw [Stages.files, Stages.files, h.left.parsed_eq, h.right.parsed_eq]
  exact h.outcomes.filterMap _

/-- The same definitions are offered. -/
theorem entries (h : Reordered s s' os os') : s.entries.Perm s'.entries :=
  h.files.flatMap_right _

/-- The same nodes are there before resolution. -/
theorem hasNode (h : Reordered s s' os os') :
    s.parsing.inventory.graph.hasNode = s'.parsing.inventory.graph.hasNode := by
  refine Graph.hasNode_eq_of_ids_eq fun id => ?_
  rw [h.left.mem_ids_parsing, h.right.mem_ids_parsing, h.mem_ids_skeleton,
    (h.entries.map Entry.id).mem_iff]

/-- Separate definitions stay separate. -/
theorem separate (h : Reordered s s' os os') (hsep : s.Separate) : s'.Separate :=
  fun x hx y hy => hsep x (h.entries.mem_iff.mpr hx) y (h.entries.mem_iff.mpr hy)

/-- Each file enters the same definitions. -/
theorem enteredOf (h : Reordered s s' os os') (es : List Entry) :
    Inventory.entered s.skeleton.graph.ids es = Inventory.entered s'.skeleton.graph.ids es :=
  fresh_congr h.mem_ids_skeleton es

/-- The same definitions are entered. -/
theorem entered (h : Reordered s s' os os') (hsep : s.Separate) : s.entered.Perm s'.entered := by
  rw [h.left.entered_eq_flatMap hsep, h.right.entered_eq_flatMap (h.separate hsep)]
  simp only [h.enteredOf]
  exact h.files.flatMap_right _

/-- The entered definitions of a file are the same, and in the same order. -/
theorem filter_entered (h : Reordered s s' os os') (hsep : s.Separate) (path : String) :
    (s.entered.map Entry.definition).filter (·.filePath = path) =
      (s'.entered.map Entry.definition).filter (·.filePath = path) := by
  have hfilter : ∀ {s : Stages} {os : List FileOutcome}, s.Complete os → s.Separate →
      (s.entered.map Entry.definition).filter (·.filePath = path) =
        (s.files.filter (·.1 = path)).flatMap fun f => (Inventory.entered s.skeleton.graph.ids
          (entriesOf (Containment.fileId f.1) f.2.definitions)).map Entry.definition := by
    intro s os hs hsep
    rw [hs.entered_eq_flatMap hsep, List.map_flatMap]
    refine filter_flatMap_eq (fun f hf d hd => ?_) path
    obtain ⟨x, hx, rfl⟩ := List.mem_map.mp hd
    exact (hs.filePath_of_mem_entriesOf hf (mem_of_mem_fresh hx).1).2
  have hkeys : ∀ f ∈ s.files, ∀ g ∈ s.files, f.1 = g.1 → f = g :=
    fun f hf g hg heq => List.inj_on_of_nodup_map h.left.nodup_keys hf hg heq
  rw [hfilter h.left hsep, hfilter h.right (h.separate hsep), filter_eq_of_perm h.files hkeys path]
  simp only [h.enteredOf]

/-! ### Resolution -/

/-- The registries give resolution the same answers. -/
theorem alike (h : Reordered s s' os os') (hsep : s.Separate) :
    s.parsing.inventory.registry.Alike s'.parsing.inventory.registry :=
  h.left.holds.alike h.right.holds h.visible (h.filter_entered hsep)

/-- The parsed files are the same in order of their paths. -/
theorem sorted (h : Reordered s s' os os') :
    ParsedFiles.sorted s.parsing.parsed = ParsedFiles.sorted s'.parsing.parsed :=
  ParsedFiles.sorted_eq_of_perm h.files h.left.nodup_keys

/-- Imports are resolved in the same way. -/
theorem imports_eq (h : Reordered s s' os os') (hsep : s.Separate) :
    (s.links e).imports = (s'.links e).imports :=
  Imports.ofFiles_congr (h.alike hsep) h.sorted

/-- Heritage is resolved in the same way. -/
theorem heritage_eq (h : Reordered s s' os os') (hsep : s.Separate) :
    (s.links e).heritage = (s'.links e).heritage := by
  have hnodes : ((s.links e).imports.addTo s.skeleton.fileIds
        s.parsing.inventory.graph).hasNode =
      ((s'.links e).imports.addTo s'.skeleton.fileIds s'.parsing.inventory.graph).hasNode := by
    refine Graph.hasNode_eq_of_ids_eq fun id => ?_
    rw [Imports.addTo, Imports.addTo, Graph.ids_foldl_insertRelationship,
      Graph.ids_foldl_insertRelationship, ← Graph.hasNode_iff, ← Graph.hasNode_iff, h.hasNode]
  have himports := congrArg Imports.map (h.imports_eq (e := e) hsep)
  exact (Heritage.ofFiles_congr (h.alike hsep) _ hnodes h.sorted).trans
    (congrArg (Heritage.ofFiles _ · _ _) himports)

/-- Calls are resolved in the same way. -/
theorem calls_eq (h : Reordered s s' os os') (hsep : s.Separate) :
    (s.links e).calls = (s'.links e).calls := by
  have himports := congrArg Imports.map (h.imports_eq (e := e) hsep)
  rw [Stages.calls_links, Stages.calls_links, Calls.ofFiles_eq_of_hasNode h.hasNode h.get?_fileIds]
  exact (Calls.ofFiles_congr (h.alike hsep) _ _ _ _ _ h.sorted).trans
    (congrArg (fun m => Calls.ofFiles ⟨⟨_, m⟩, _, _⟩ _ _ _) himports)

/-- Resolution offers the same relationships. -/
theorem resolvedRelationships_eq (h : Reordered s s' os os') (hsep : s.Separate) :
    s.resolvedRelationships e = s'.resolvedRelationships e := by
  rw [resolvedRelationships, resolvedRelationships, ← h.imports_eq hsep, ← h.heritage_eq hsep,
    ← h.calls_eq hsep, Imports.relationships_congr h.get?_fileIds]

/-! ### Offered relationships and texts -/

/-- The same relationships are offered before resolution. -/
theorem heldRelationships (h : Reordered s s' os os') (hsep : s.Separate) :
    s.heldRelationships.Perm s'.heldRelationships := by
  rw [Stages.heldRelationships, Stages.heldRelationships, h.projectName]
  exact ((Containment.offers_perm _ h.visible).flatMap_right _).append
    ((h.entered hsep).flatMap_right _)

/-- The same relationships are offered. -/
theorem offered (h : Reordered s s' os os') (hsep : s.Separate) :
    (s.offered e).Perm (s'.offered e) := by
  rw [Stages.offered, Stages.offered, h.resolvedRelationships_eq hsep]
  exact (h.heldRelationships hsep).append_right _

/-- The same texts are behind identifiers, so that digests tell them apart in both orders. -/
theorem injective (h : Reordered s s' os os') (hsep : s.Separate) (hinj : s.Injective e) :
    s'.Injective e := by
  have hstructure : s.structureTexts.Perm s'.structureTexts := by
    rw [structureTexts, structureTexts, h.projectName, Containment.folderNode_congr h.mem_packages]
    exact (((h.visible.flatMap_right _).map _).cons _).append (h.visible.map _)
  have htexts : (s.texts e).Perm (s'.texts e) :=
    (hstructure.append ((h.files.flatMap_right _).map _)).append ((h.offered hsep).map _)
  intro t ht t' ht' heq
  exact hinj (htexts.mem_iff.mpr ht) (htexts.mem_iff.mpr ht') heq

/-! ### Graphs -/

/-- The same is said about excluded files. -/
theorem excludedDescriptions (h : Reordered s s' os os') :
    (Parsing.excludedDescriptions s.skeleton.fileIds s.request.fileContents s.plan.excluded).Perm
      (Parsing.excludedDescriptions s'.skeleton.fileIds s'.request.fileContents
        s'.plan.excluded) := by
  simp only [Parsing.excludedDescriptions, h.get?_fileIds, h.fileContents]
  exact (Plan.excluded_perm h.plan).filterMap _

/-- The same is said about the files of outcomes. -/
theorem descriptions (h : Reordered s s' os os') (hsep : s.Separate) :
    (Parsing.descriptions s.skeleton.fileIds s.request.fileContents s.skeleton.graph.ids os).Perm
      (Parsing.descriptions s'.skeleton.fileIds s'.request.fileContents s'.skeleton.graph.ids
        os') := by
  rw [h.left.descriptions_eq_map hsep, h.right.descriptions_eq_map (h.separate hsep)]
  simp only [FileOutcome.entries, OrderedMap.getD, h.get?_fileIds, h.fileContents, h.enteredOf]
  exact h.outcomes.map _

/-- Every node is described in the same way. -/
theorem described (h : Reordered s s' os os') (hsep : s.Separate) (hinj : s.Injective e)
    (n : Node) : n.described (s.descriptions os) = n.described (s'.descriptions os') := by
  rw [Stages.descriptions, Stages.descriptions, Node.described_append, Node.described_append,
    Node.described_eq_of_perm h.excludedDescriptions (h.left.excludedDescriptions_inj hinj),
    Node.described_eq_of_perm (h.descriptions hsep) (h.left.descriptions_inj hsep hinj)]

/-- The graphs have the same nodes. -/
theorem nodes (h : Reordered s s' os os') (hsep : s.Separate) (hinj : s.Injective e) :
    (s.graph e).nodes.Perm (s'.graph e).nodes := by
  have hbare : s.bareNodes.Perm s'.bareNodes := by
    rw [bareNodes, bareNodes, nodes_skeleton, nodes_skeleton]
    exact (fresh_perm h.skeletonNodes (skeletonNodes_inj hinj) []).append ((h.entered hsep).map _)
  rw [h.left.nodes hinj, h.right.nodes (h.injective hsep hinj),
    funext (h.described hsep hinj)]
  exact hbare.map _

/-- The graphs have the same relationships. -/
theorem relationships (h : Reordered s s' os os') (hsep : s.Separate) (hinj : s.Injective e) :
    (s.graph e).relationships.Perm (s'.graph e).relationships := by
  have hheld := h.heldRelationships hsep
  have hresolved : fresh Relationship.id ([] ++ s.heldRelationships.map Relationship.id)
      (s.resolvedRelationships e) =
      fresh Relationship.id ([] ++ s'.heldRelationships.map Relationship.id)
        (s'.resolvedRelationships e) := by
    rw [h.resolvedRelationships_eq hsep]
    exact fresh_congr (fun id => (hheld.map Relationship.id).mem_iff) _
  rw [h.left.keeps e, h.right.keeps e, Stages.offered, Stages.offered, fresh_append, fresh_append,
    hresolved]
  exact (fresh_perm hheld (h.left.heldRelationships_inj hinj) []).append_right _

/-- The graphs agree. -/
theorem graph_agrees (h : Reordered s s' os os') (hsep : s.Separate) (hinj : s.Injective e) :
    (s.graph e).Agrees (s'.graph e) :=
  ⟨h.nodes hsep hinj, h.relationships hsep hinj⟩

/-! ### Reports -/

/-- The same files are skipped for the same reasons. -/
theorem skipped (h : Reordered s s' os os') (code : String) :
    s.parsing.skipped.get? code = s'.parsing.skipped.get? code := by
  rw [h.left.written.skipped, h.right.written.skipped, beforeParsing_eq, beforeParsing_eq]
  refine OrderedMap.get?_foldl_increment_perm (fun code => ?_)
    ((h.outcomes.filterMap _).map _) code
  exact OrderedMap.get?_foldl_increment_perm (fun _ => rfl)
    ((Plan.excluded_perm h.plan).map _) code

/-- Definitions of the same kinds are entered. -/
theorem byKind (h : Reordered s s' os os') (hsep : s.Separate) (kind : String) :
    s.parsing.inventory.byKind.get? kind = s'.parsing.inventory.byKind.get? kind := by
  rw [h.left.written.byKind, h.right.written.byKind, h.left.entered_eq, h.right.entered_eq,
    beforeParsing_eq, beforeParsing_eq]
  exact OrderedMap.get?_foldl_increment_perm (fun _ => rfl) ((h.entered hsep).map _) kind

/-- The same number of definitions is not entered. -/
theorem duplicates (h : Reordered s s' os os') (hsep : s.Separate) :
    s.parsing.inventory.duplicates = s'.parsing.inventory.duplicates := by
  rw [h.left.written.duplicates, h.right.written.duplicates, h.left.entered_eq,
    h.right.entered_eq, ← h.left.entries_eq, ← h.right.entries_eq, beforeParsing_eq,
    beforeParsing_eq, h.entries.length_eq, (h.entered hsep).length_eq]

/-- The reports agree. -/
theorem report_agrees (h : Reordered s s' os os') (hsep : s.Separate) (hinj : s.Injective e)
    (before after before' after' : Cache) :
    (e.finish s.skeleton s.parsing before after).report.Agrees
      (e.finish s'.skeleton s'.parsing before' after').report := by
  have hgraph := h.graph_agrees hsep hinj
  have himports := h.imports_eq (e := e) hsep
  have hheritage := h.heritage_eq (e := e) hsep
  have hcalls := h.calls_eq (e := e) hsep
  constructor
  case processed =>
    show s.parsing.processed = s'.parsing.processed
    rw [h.left.written.processed, h.right.written.processed, beforeParsing_eq, beforeParsing_eq,
      (h.outcomes.filterMap _).length_eq]
  case failed =>
    show s.parsing.failed = s'.parsing.failed
    rw [h.left.written.failed, h.right.written.failed, beforeParsing_eq, beforeParsing_eq,
      (h.outcomes.filterMap _).length_eq]
  case skipped => exact h.skipped
  case skippedTotal =>
    have hnodup : ∀ {s : Stages} {os : List FileOutcome}, s.Complete os →
        s.parsing.skipped.keys.Nodup := by
      intro s os hs
      have hempty : (∅ : OrderedMap String Nat).keys.Nodup := List.nodup_nil
      rw [hs.written.skipped, beforeParsing_eq]
      exact OrderedMap.nodup_keys_foldl_increment
        (OrderedMap.nodup_keys_foldl_increment hempty _) _
    have hentries := OrderedMap.toList_perm_of_get?_eq (hnodup h.left) (hnodup h.right) h.skipped
    exact (hentries.map Prod.snd).sum_nat
  case definitions => exact h.byKind hsep
  case duplicates => exact h.duplicates hsep
  case importsTotal => exact congrArg Imports.total himports
  case importsResolved => exact congrArg Imports.resolved himports
  case importRate => exact congrArg Imports.rate himports
  case unresolvedImports => exact congrArg Imports.unresolved himports
  case callRate => exact congrArg Calls.rate hcalls
  case callCounts => exact congrArg (·.stats.toList) hcalls
  case unresolvedCalls => exact congrArg Calls.unresolved hcalls
  case heritageResolved => exact congrArg Heritage.resolved hheritage
  case heritageUnresolved => exact congrArg Heritage.unresolved hheritage
  case parseFailures =>
    show s.parsing.parseFailures.Perm s'.parsing.parseFailures
    rw [h.left.written.parseFailures, h.right.written.parseFailures, beforeParsing_eq,
      beforeParsing_eq]
    exact h.outcomes.filterMap _
  case queryFailures =>
    show s.parsing.queryFailures.Perm s'.parsing.queryFailures
    rw [h.left.written.queryFailures, h.right.written.queryFailures, beforeParsing_eq,
      beforeParsing_eq]
    exact h.outcomes.flatMap_right _
  case violations => exact (h.left.violations_eq_nil e).trans (h.right.violations_eq_nil e).symm
  case unflaggedFiles =>
    exact (h.left.accounted hinj).trans (h.right.accounted (h.injective hsep hinj)).symm
  case isolatedCounts => exact hgraph.isolatedCounts
  case nodeCount => exact hgraph.nodes.length_eq
  case relationshipCount => exact hgraph.relationships.length_eq
  case nodeCounts => exact OrderedMap.get?_tally_perm (hgraph.nodes.map _)
  case relationshipCounts => exact OrderedMap.get?_tally_perm (hgraph.relationships.map _)

end Reordered

end Stages

end CodeGraph
