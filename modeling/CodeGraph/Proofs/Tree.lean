import CodeGraph.Proofs.Digests
import CodeGraph.Proofs.Nesting
import CodeGraph.Proofs.Splitting

/-!
# The skeleton is a tree

Over different files without empty pieces in their paths the skeleton is a tree: each folder and
each file is held by exactly one other node, and is reached from the project in as many steps as
there are folders on the way, and one more.

## Main definitions

* `Graph.Contains`, `Graph.holding`: that one node holds another, and the relationships that say so.
* `Containment.hashed`: the texts behind the identifiers of a skeleton.
* `Containment.IsTree`: a tree over files and the directories above them.

## Main results

* `Steps.length_unique`: in a tree, all ways from the root to a node are equally long.
* `Containment.holding_build`: a folder or file is held by exactly one relationship.
* `Containment.steps_parentId`: the way from the project to the folder of a file.
* `Containment.tree_or_deep`: the skeleton is a tree, unless it is nested too deep.
-/

namespace CodeGraph

/-! ### Ways from a root -/

namespace Steps

variable {α : Type} {R : α → α → Prop} {a c : α} {m n : Nat}

/-- The last one of some steps. -/
theorem exists_last (h : Steps R (n + 1) a c) : ∃ b, Steps R n a b ∧ R b c := by
  induction n generalizing a with
  | zero =>
    cases h with
    | step hab hrest =>
      cases hrest
      exact ⟨a, .refl a, hab⟩
  | succ n ih =>
    cases h with
    | step hab hrest =>
      obtain ⟨b, hb, hbc⟩ := ih hrest
      exact ⟨b, .step hab hb, hbc⟩

/-- If nothing leads to the root, and not more than one thing to anything, all ways are equal. -/
theorem length_unique (hroot : ∀ b, ¬R b a) (hunique : ∀ b b' c, R b c → R b' c → b = b')
    (hm : Steps R m a c) (hn : Steps R n a c) : m = n := by
  induction m generalizing n c with
  | zero =>
    cases hm
    cases n with
    | zero => rfl
    | succ n =>
      obtain ⟨b, -, hb⟩ := hn.exists_last
      exact absurd hb (hroot b)
  | succ m ih =>
    obtain ⟨b, hab, hbc⟩ := hm.exists_last
    cases n with
    | zero =>
      cases hn
      exact absurd hbc (hroot b)
    | succ n =>
      obtain ⟨b', hab', hbc'⟩ := hn.exists_last
      obtain rfl := hunique b b' c hbc hbc'
      rw [ih hab hab']

end Steps

namespace Graph

/-- One node holds another. -/
def Contains (g : Graph) (a b : String) : Prop :=
  ∃ r ∈ g.relationships, r.kind = .contains ∧ r.source = a ∧ r.target = b

/-- The relationships that hold a node. -/
def holding (g : Graph) (id : String) : List Relationship :=
  g.relationships.filter fun r => r.kind = .contains ∧ r.target = id

end Graph

namespace Containment

variable {name root : String} {files : List String}

/-- The folders on the way to plain paths are the directories above them. -/
theorem mem_allFolders (hplain : ∀ path ∈ files, Path.Plain path) {d : String} :
    d ∈ allFolders files ↔ ∃ path ∈ files, Path.Above d path := by
  rw [allFolders, List.mem_flatMap]
  refine exists_congr fun path => and_congr_right fun hpath => ?_
  rw [(hplain path hpath).folders, Path.mem_ancestors]

/-- A folder on the way to a plain path is plain. -/
theorem plain_of_mem_allFolders (hplain : ∀ path ∈ files, Path.Plain path) {d : String}
    (hd : d ∈ allFolders files) : Path.Plain d := by
  obtain ⟨path, hpath, habove⟩ := (mem_allFolders hplain).mp hd
  exact (hplain path hpath).of_above habove

/-- A directory is a package exactly if the marker is there. -/
theorem mem_packageDirectories (hplain : ∀ path ∈ files, Path.Plain path) {d : String}
    (hd : Path.Plain d) :
    d ∈ packageDirectories files ↔ d ++ "/" ++ packageMarker ∈ files := by
  have hmarker : '/' ∉ packageMarker.toList := by
    decide
  rw [packageDirectories, List.mem_map]
  constructor
  · rintro ⟨path, hpath, hdir⟩
    obtain ⟨hmem, hname⟩ := List.mem_filter.mp hpath
    have hname' : Path.name path = packageMarker := of_decide_eq_true hname
    rcases Text.exists_last_slash path with hnone | ⟨front, last, rfl, hlast⟩
    · rw [Path.directory_of_notMem hnone] at hdir
      exact absurd hdir.symm hd.ne_empty
    · have hfront : Path.Plain front := (hplain _ hmem).of_above ⟨last, rfl⟩
      rw [Path.directory_append_slash hfront hlast] at hdir
      rw [Path.name_append_slash front hlast] at hname'
      rwa [← hdir, ← hname']
  · intro hmem
    refine ⟨_, List.mem_filter.mpr ⟨hmem, ?_⟩, Path.directory_append_slash hd hmarker⟩
    exact decide_eq_true (Path.name_append_slash d hmarker)

/-! ### Relationships -/

/-- The relationships that are offered. -/
def offeredEdges (name : String) (files : List String) : List Relationship :=
  (offers name files).flatMap Prod.snd

/-- What an offered relationship holds. -/
theorem mem_offeredEdges {r : Relationship} :
    r ∈ offeredEdges name files ↔
      (∃ d ∈ allFolders files,
        r = folderEdge (Identifier.ofStructure .project name) (packageDirectories files) d) ∨
      ∃ path ∈ files,
        r = fileEdge (Identifier.ofStructure .project name) (packageDirectories files) path := by
  rw [offeredEdges, List.mem_flatMap]
  constructor
  · rintro ⟨x, hx, hr⟩
    rcases mem_offers.mp hx with ⟨d, hd, rfl⟩ | ⟨path, hpath, rfl⟩
    · exact .inl ⟨d, hd, List.mem_singleton.mp hr⟩
    · exact .inr ⟨path, hpath, List.mem_singleton.mp hr⟩
  · rintro (⟨d, hd, rfl⟩ | ⟨path, hpath, rfl⟩)
    · exact ⟨_, mem_offers.mpr (.inl ⟨d, hd, rfl⟩), List.mem_singleton_self _⟩
    · exact ⟨_, mem_offers.mpr (.inr ⟨path, hpath, rfl⟩), List.mem_singleton_self _⟩

/-- All texts behind the identifiers of a skeleton. -/
def hashed (name : String) (files : List String) : List String :=
  structureTexts name files ++ (offeredEdges name files).map Relationship.idSource

/-- The digests of the texts behind nodes differ. -/
theorem injOn_structureTexts (hinj : Set.InjOn Identifier.digest {t | t ∈ hashed name files}) :
    Set.InjOn Identifier.digest {t | t ∈ structureTexts name files} :=
  hinj.mono fun _ ht => List.mem_append_left _ ht

/-- A parent's identifier is a digest. -/
theorem colon_notMem_parentId (packages above : List String) :
    ':' ∉ (parentId (Identifier.ofStructure .project name) packages above).toList := by
  rw [parentId]
  cases above.getLast? with
  | none => exact Identifier.colon_notMem_digest _
  | some d => exact Identifier.colon_notMem_digest _

/-- An offered relationship says which node holds which, and nothing else. -/
theorem eq_between_of_mem_offeredEdges {r : Relationship} (hr : r ∈ offeredEdges name files) :
    r = .between .contains r.source r.target := by
  rcases mem_offeredEdges.mp hr with ⟨d, -, rfl⟩ | ⟨path, -, rfl⟩
  · rfl
  · rfl

theorem kind_of_mem_offeredEdges {r : Relationship} (hr : r ∈ offeredEdges name files) :
    r.kind = .contains := by
  rcases mem_offeredEdges.mp hr with ⟨d, -, rfl⟩ | ⟨path, -, rfl⟩
  · rfl
  · rfl

theorem id_of_mem_offeredEdges {r : Relationship} (hr : r ∈ offeredEdges name files) :
    r.id = Identifier.digest r.idSource := by
  rcases mem_offeredEdges.mp hr with ⟨d, -, rfl⟩ | ⟨path, -, rfl⟩
  · exact Relationship.id_between _ _ _ _
  · exact Relationship.id_between _ _ _ _

theorem colon_notMem_source {r : Relationship} (hr : r ∈ offeredEdges name files) :
    ':' ∉ r.source.toList := by
  rcases mem_offeredEdges.mp hr with ⟨d, -, rfl⟩ | ⟨path, -, rfl⟩
  · exact colon_notMem_parentId _ _
  · exact colon_notMem_parentId _ _

/-- Offered relationships under the same identifier are the same. -/
theorem offeredEdges_inj (hinj : Set.InjOn Identifier.digest {t | t ∈ hashed name files}) :
    ∀ a ∈ offeredEdges name files, ∀ b ∈ offeredEdges name files, a.id = b.id → a = b := by
  intro a ha b hb hid
  rw [id_of_mem_offeredEdges ha, id_of_mem_offeredEdges hb] at hid
  have htext : a.idSource = b.idSource :=
    hinj (List.mem_append_right _ (List.mem_map_of_mem ha))
      (List.mem_append_right _ (List.mem_map_of_mem hb)) hid
  obtain ⟨hsource, -, htarget⟩ :=
    Relationship.idSource_inj (colon_notMem_source ha) (colon_notMem_source hb) htext
  calc
    a = .between .contains a.source a.target := eq_between_of_mem_offeredEdges ha
    _ = .between .contains b.source b.target := by rw [hsource, htarget]
    _ = b := (eq_between_of_mem_offeredEdges hb).symm

/-- Folders with the same node are the same. -/
theorem folderNode_inj {packages : List String} {d d' : String}
    (h : folderNode packages d = folderNode packages d') : d = d' := by
  have hpath := congrArg (fun n : Node => n.properties.get? "path") h
  exact Scalar.text.inj (PropertyValue.scalar.inj (Option.some.inj hpath))

/-- Files with the same node are the same. -/
theorem fileNode_inj {path path' : String} (h : fileNode path = fileNode path') : path = path' := by
  have hpath := congrArg (fun n : Node => n.properties.get? "path") h
  exact Scalar.text.inj (PropertyValue.scalar.inj (Option.some.inj hpath))

theorem folderNode_ne_fileNode (packages : List String) (d path : String) :
    folderNode packages d ≠ fileNode path := by
  intro h
  have hlabel := congrArg Node.label h
  rcases label_folderNode packages d with hfolder | hfolder <;> rw [hfolder] at hlabel <;>
    cases hlabel

theorem folderNode_ne_projectNode (packages : List String) (d : String) :
    folderNode packages d ≠ projectNode name root := by
  intro h
  have hlabel := congrArg Node.label h
  rcases label_folderNode packages d with hfolder | hfolder <;> rw [hfolder] at hlabel <;>
    cases hlabel

theorem fileNode_ne_projectNode (path : String) : fileNode path ≠ projectNode name root := by
  intro h
  cases congrArg Node.label h

/-- A folder or file is offered one relationship only. -/
theorem eq_of_target_eq (hinj : Set.InjOn Identifier.digest {t | t ∈ hashed name files})
    {r r' : Relationship} (hr : r ∈ offeredEdges name files) (hr' : r' ∈ offeredEdges name files)
    (h : r.target = r'.target) : r = r' := by
  have hnodes := offeredNodes_inj "" (injOn_structureTexts hinj)
  have hfolder : ∀ d ∈ allFolders files,
      folderNode (packageDirectories files) d ∈ offeredNodes name "" files :=
    fun d hd => mem_offeredNodes.mpr (.inr (.inl ⟨d, hd, rfl⟩))
  have hfile : ∀ path ∈ files, fileNode path ∈ offeredNodes name "" files :=
    fun path hpath => mem_offeredNodes.mpr (.inr (.inr ⟨path, hpath, rfl⟩))
  rcases mem_offeredEdges.mp hr with ⟨d, hd, rfl⟩ | ⟨path, hpath, rfl⟩ <;>
    rcases mem_offeredEdges.mp hr' with ⟨d', hd', rfl⟩ | ⟨path', hpath', rfl⟩
  · rw [folderNode_inj (hnodes _ (hfolder d hd) _ (hfolder d' hd') h)]
  · exact absurd (hnodes _ (hfolder d hd) _ (hfile path' hpath') h)
      (folderNode_ne_fileNode _ _ _)
  · exact absurd (hnodes _ (hfolder d' hd') _ (hfile path hpath) h.symm)
      (folderNode_ne_fileNode _ _ _)
  · rw [fileNode_inj (hnodes _ (hfile path hpath) _ (hfile path' hpath') h)]

/-- The project is offered no relationship that holds it. -/
theorem target_ne_project (hinj : Set.InjOn Identifier.digest {t | t ∈ hashed name files})
    {r : Relationship} (hr : r ∈ offeredEdges name files) :
    r.target ≠ Identifier.ofStructure .project name := by
  intro h
  have hnodes := offeredNodes_inj "" (injOn_structureTexts hinj)
  have hproject : projectNode name "" ∈ offeredNodes name "" files := List.mem_cons_self
  rcases mem_offeredEdges.mp hr with ⟨d, hd, rfl⟩ | ⟨path, hpath, rfl⟩
  · exact folderNode_ne_projectNode _ _ (hnodes _
      (mem_offeredNodes.mpr (.inr (.inl ⟨d, hd, rfl⟩))) _ hproject h)
  · exact fileNode_ne_projectNode _ (hnodes _
      (mem_offeredNodes.mpr (.inr (.inr ⟨path, hpath, rfl⟩))) _ hproject h)

/-- The relationships of the skeleton are the offered ones under new identifiers. -/
theorem relationships_build (name root : String) (files : List String) :
    (build name root files).graph.relationships =
      fresh Relationship.id [] (offeredEdges name files) := by
  rw [graph_build, Graph.relationships_foldl_attach, Graph.relationships_insertNode,
    Graph.linkIds_insertNode]
  rfl

/-- Every offered relationship is in the skeleton. -/
theorem mem_relationships_build (hinj : Set.InjOn Identifier.digest {t | t ∈ hashed name files})
    {r : Relationship} :
    r ∈ (build name root files).graph.relationships ↔ r ∈ offeredEdges name files := by
  rw [relationships_build, mem_fresh_iff (offeredEdges_inj hinj)]
  exact and_iff_left List.not_mem_nil

/-- One node of the skeleton holds another exactly if that was offered. -/
theorem contains_build_iff (hinj : Set.InjOn Identifier.digest {t | t ∈ hashed name files})
    {a b : String} :
    (build name root files).graph.Contains a b ↔
      ∃ r ∈ offeredEdges name files, r.source = a ∧ r.target = b := by
  refine exists_congr fun r => ?_
  rw [mem_relationships_build hinj]
  exact and_congr_right fun hr => and_iff_right (kind_of_mem_offeredEdges hr)

/-- A folder or file is held by exactly one relationship. -/
theorem holding_build (root : String)
    (hinj : Set.InjOn Identifier.digest {t | t ∈ hashed name files}) {r : Relationship}
    (hr : r ∈ offeredEdges name files) :
    (build name root files).graph.holding r.target = [r] := by
  have hoffered : ∀ r' ∈ (build name root files).graph.relationships,
      r' ∈ offeredEdges name files := fun r' hr' => (mem_relationships_build hinj).mp hr'
  have htargets : ((build name root files).graph.relationships.map Relationship.target).Nodup := by
    refine List.Nodup.map_on (fun a ha b hb => eq_of_target_eq hinj (hoffered a ha) (hoffered b hb))
      ?_
    rw [relationships_build]
    exact (nodup_keys_fresh Relationship.id [] _).of_map
  have hheld : (build name root files).graph.holding r.target =
      (build name root files).graph.relationships.filter (·.target = r.target) := by
    refine List.filter_congr fun r' hr' => ?_
    rw [kind_of_mem_offeredEdges (hoffered r' hr')]
    simp
  rw [hheld]
  exact filter_key_eq_singleton htargets ((mem_relationships_build hinj).mpr hr)

/-- The project is held by nothing. -/
theorem holding_build_project (root : String)
    (hinj : Set.InjOn Identifier.digest {t | t ∈ hashed name files}) :
    (build name root files).graph.holding (Identifier.ofStructure .project name) = [] := by
  refine List.filter_eq_nil_iff.mpr fun r hr hheld => ?_
  exact target_ne_project hinj ((mem_relationships_build hinj).mp hr) (of_decide_eq_true hheld).2

/-! ### The way from the project -/

/-- The way from the project leads through all folders above. -/
theorem steps_parentId (hinj : Set.InjOn Identifier.digest {t | t ∈ hashed name files})
    {path : String} {above : List String} (h : Path.folders path = above)
    (hmem : ∀ d ∈ above, d ∈ allFolders files) :
    Steps (build name root files).graph.Contains above.length
      (Identifier.ofStructure .project name)
      (parentId (Identifier.ofStructure .project name) (packageDirectories files) above) := by
  -- the folders above the innermost folder are those listed before it
  induction above using List.reverseRecOn generalizing path with
  | nil => exact .refl _
  | append_singleton above d ih =>
    have hd : d ∈ allFolders files := hmem d (by simp)
    have habove : Path.folders d = above := Path.folders_of_append h
    have hway := ih habove fun d' hd' => hmem d' (List.mem_append_left _ hd')
    rw [List.length_append, List.length_singleton, parentId_append]
    refine hway.snoc ((contains_build_iff hinj).mpr ⟨_, mem_offeredEdges.mpr (.inl ⟨d, hd, rfl⟩),
      ?_, rfl⟩)
    rw [← habove]
    rfl

/-- The way from the project to a folder. -/
theorem steps_folder (root : String)
    (hinj : Set.InjOn Identifier.digest {t | t ∈ hashed name files}) {d : String}
    (hd : d ∈ allFolders files) :
    Steps (build name root files).graph.Contains ((Path.folders d).length + 1)
      (Identifier.ofStructure .project name) (folderNode (packageDirectories files) d).id :=
  (steps_parentId hinj rfl fun _ hd' => mem_allFolders_of_mem_folders hd hd').snoc
    ((contains_build_iff hinj).mpr ⟨_, mem_offeredEdges.mpr (.inl ⟨d, hd, rfl⟩), rfl, rfl⟩)

/-- The way from the project to a file. -/
theorem steps_file (hinj : Set.InjOn Identifier.digest {t | t ∈ hashed name files}) {path : String}
    (hpath : path ∈ files) :
    Steps (build name root files).graph.Contains ((Path.folders path).length + 1)
      (Identifier.ofStructure .project name) (fileId path) :=
  (steps_parentId hinj rfl fun _ hd => List.mem_flatMap.mpr ⟨path, hpath, hd⟩).snoc
    ((contains_build_iff hinj).mpr ⟨_, mem_offeredEdges.mpr (.inr ⟨path, hpath, rfl⟩), rfl, rfl⟩)

/-- All ways from the project to a node are equally long. -/
theorem steps_unique (hinj : Set.InjOn Identifier.digest {t | t ∈ hashed name files})
    {id : String} {m n : Nat}
    (hm : Steps (build name root files).graph.Contains m (Identifier.ofStructure .project name) id)
    (hn : Steps (build name root files).graph.Contains n
      (Identifier.ofStructure .project name) id) : m = n := by
  refine Steps.length_unique (fun a ha => ?_) (fun a b c hac hbc => ?_) hm hn
  · obtain ⟨r, hr, -, htarget⟩ := (contains_build_iff hinj).mp ha
    exact target_ne_project hinj hr htarget
  · obtain ⟨r, hr, rfl, htarget⟩ := (contains_build_iff hinj).mp hac
    obtain ⟨r', hr', rfl, htarget'⟩ := (contains_build_iff hinj).mp hbc
    rw [eq_of_target_eq hinj hr hr' (htarget.trans htarget'.symm)]

/-! ### The tree -/

/--
A skeleton is a tree over files: its nodes are one project, the given files, and one folder or
package for each directory above a file. All of them but the project are held by exactly one
relationship, and all are reached from the project.
-/
structure IsTree (name root : String) (files : List String) (c : Containment) : Prop where
  mem_directories : ∀ d, d ∈ (splitFiles files).2 ↔ ∃ path ∈ files, Path.Above d path
  nodup_directories : (splitFiles files).2.Nodup
  nodes : c.graph.nodes.Perm (projectNode name root ::
    ((splitFiles files).2.map (folderNode (packageDirectories files)) ++ files.map fileNode))
  holding : ∀ n ∈ c.graph.nodes,
    (c.graph.holding n.id).length = if n.label = .project then 0 else 1
  reached : ∀ n ∈ c.graph.nodes, ∃ k, Steps c.graph.Contains k c.projectId n.id
  label_directory : ∀ d ∈ (splitFiles files).2,
    (folderNode (packageDirectories files) d).label =
      if d ++ "/" ++ packageMarker ∈ files then .package else .folder
  depth : ∀ n ∈ c.graph.nodes, n.label = .folder ∨ n.label = .package →
    ∀ k : Nat, Steps c.graph.Contains k c.projectId n.id ↔
      n.properties.get? "depth" = some (.int k)
  mem_folderIds : ∀ d, d ∈ c.folderIds.keys ↔ d ∈ (splitFiles files).2

/-- The nodes of the skeleton, each of them once. -/
theorem nodes_build_perm (root : String) (hnodup : files.Nodup)
    (hplain : ∀ path ∈ files, Path.Plain path)
    (hinj : Set.InjOn Identifier.digest {t | t ∈ hashed name files}) :
    (build name root files).graph.nodes.Perm (projectNode name root ::
      ((splitFiles files).2.map (folderNode (packageDirectories files)) ++
        files.map fileNode)) := by
  have hfolders : ((splitFiles files).2.map (folderNode (packageDirectories files))).Nodup :=
    (Text.nodup_distinct _).map fun _ _ => folderNode_inj
  have hfiles : (files.map fileNode).Nodup := hnodup.map fun _ _ => fileNode_inj
  rw [nodes_build_eq_fresh, List.perm_ext_iff_of_nodup (nodup_keys_fresh Node.id [] _).of_map]
  · intro n
    rw [mem_fresh_iff (offeredNodes_inj root (injOn_structureTexts hinj)), mem_offeredNodes,
      List.mem_cons, List.mem_append, List.mem_map, List.mem_map, and_iff_left List.not_mem_nil]
    refine or_congr_right (or_congr ?_ ?_)
    · refine exists_congr fun d => and_congr ?_ eq_comm
      rw [mem_allFolders hplain, mem_directories_splitFiles]
    · exact exists_congr fun path => and_congr_right fun _ => eq_comm
  · refine List.nodup_cons.mpr ⟨fun hmem => ?_, List.nodup_append.mpr
      ⟨hfolders, hfiles, fun n hn m hm heq => ?_⟩⟩
    · rcases List.mem_append.mp hmem with hmem | hmem
      · obtain ⟨d, -, hd⟩ := List.mem_map.mp hmem
        exact folderNode_ne_projectNode _ _ hd
      · obtain ⟨path, -, hpath⟩ := List.mem_map.mp hmem
        exact fileNode_ne_projectNode _ hpath
    · obtain ⟨d, -, rfl⟩ := List.mem_map.mp hn
      obtain ⟨path, -, rfl⟩ := List.mem_map.mp hm
      exact folderNode_ne_fileNode _ _ _ heq

/-- What a node of the skeleton stands for. -/
theorem mem_nodes_build {n : Node} (hn : n ∈ (build name root files).graph.nodes) :
    n = projectNode name root ∨
      (∃ d ∈ allFolders files, n = folderNode (packageDirectories files) d) ∨
      ∃ path ∈ files, n = fileNode path := by
  rw [nodes_build_eq_fresh] at hn
  exact mem_offeredNodes.mp (mem_of_mem_fresh hn).1

/-- Nodes but the project are held by one relationship. -/
theorem length_holding_build (hinj : Set.InjOn Identifier.digest {t | t ∈ hashed name files})
    {n : Node} (hn : n ∈ (build name root files).graph.nodes) :
    ((build name root files).graph.holding n.id).length =
      if n.label = .project then 0 else 1 := by
  rcases mem_nodes_build hn with rfl | ⟨d, hd, rfl⟩ | ⟨path, hpath, rfl⟩
  · have hnone := holding_build_project root hinj
    exact congrArg List.length hnone
  · have hone := holding_build root hinj (mem_offeredEdges.mpr (.inl ⟨d, hd, rfl⟩))
    rw [target_folderEdge] at hone
    rw [hone]
    rcases label_folderNode (packageDirectories files) d with hlabel | hlabel
    · rw [hlabel]
      rfl
    · rw [hlabel]
      rfl
  · have hone := holding_build root hinj (mem_offeredEdges.mpr (.inr ⟨path, hpath, rfl⟩))
    exact congrArg List.length hone

/-- Every node is reached from the project. -/
theorem exists_steps_build (hinj : Set.InjOn Identifier.digest {t | t ∈ hashed name files})
    {n : Node} (hn : n ∈ (build name root files).graph.nodes) :
    ∃ k, Steps (build name root files).graph.Contains k
      (Identifier.ofStructure .project name) n.id := by
  rcases mem_nodes_build hn with rfl | ⟨d, hd, rfl⟩ | ⟨path, hpath, rfl⟩
  · exact ⟨0, .refl _⟩
  · exact ⟨_, steps_folder root hinj hd⟩
  · exact ⟨_, steps_file hinj hpath⟩

/-- The depth of a folder is the number of steps from the project. -/
theorem steps_folder_iff_depth (hplain : ∀ path ∈ files, Path.Plain path)
    (hinj : Set.InjOn Identifier.digest {t | t ∈ hashed name files}) {d : String}
    (hd : d ∈ allFolders files) (k : Nat) :
    Steps (build name root files).graph.Contains k (Identifier.ofStructure .project name)
        (folderNode (packageDirectories files) d).id ↔
      (folderNode (packageDirectories files) d).properties.get? "depth" = some (.int k) := by
  have hway := steps_folder root hinj hd
  have hlength : (Path.folders d).length = Text.count '/' d := by
    rw [(plain_of_mem_allFolders hplain hd).folders, Path.length_ancestors]
  rw [hlength] at hway
  have hdepth : (folderNode (packageDirectories files) d).properties.get? "depth" =
      some (.int (Text.count '/' d + 1 : Nat)) := rfl
  rw [hdepth]
  constructor
  · intro hk
    rw [steps_unique hinj hway hk]
  · intro hk
    have hcount := Scalar.int.inj (PropertyValue.scalar.inj (Option.some.inj hk))
    rwa [← Int.ofNat.inj hcount]

/-- The folders with identifiers are those on the way to files. -/
theorem mem_folderIds_build (name root : String) (files : List String) (d : String) :
    d ∈ (build name root files).folderIds.keys ↔ d ∈ allFolders files := by
  rw [← OrderedMap.contains_iff_mem_keys, (build_filled name root files).contains]
  exact or_iff_right Bool.noConfusion

/-- A skeleton over plain paths is a tree. -/
theorem isTree_build (root : String) (hnodup : files.Nodup)
    (hplain : ∀ path ∈ files, Path.Plain path)
    (hinj : Set.InjOn Identifier.digest {t | t ∈ hashed name files}) :
    (build name root files).IsTree name root files where
  mem_directories _ := mem_directories_splitFiles
  nodup_directories := Text.nodup_distinct _
  nodes := nodes_build_perm root hnodup hplain hinj
  holding _ hn := length_holding_build hinj hn
  reached _ hn := by
    rw [(build_filled name root files).projectId]
    exact exists_steps_build hinj hn
  label_directory d hd := by
    have hd' := (mem_allFolders hplain).mpr (mem_directories_splitFiles.mp hd)
    have hpackage := mem_packageDirectories hplain (plain_of_mem_allFolders hplain hd')
    simp only [folderNode, hpackage]
  depth n hn hlabel k := by
    rw [(build_filled name root files).projectId]
    rcases mem_nodes_build hn with rfl | ⟨d, hd, rfl⟩ | ⟨path, hpath, rfl⟩
    · rcases hlabel with hlabel | hlabel <;> cases hlabel
    · exact steps_folder_iff_depth hplain hinj hd k
    · rcases hlabel with hlabel | hlabel <;> cases hlabel
  mem_folderIds d := by
    rw [mem_folderIds_build, mem_allFolders hplain, mem_directories_splitFiles]

/--
Over different files without empty pieces in their paths the skeleton is a tree, unless one of them
is the first to need too many folders. A file may even be a directory above another one.
-/
theorem tree_or_deep (name root : String) (files : List String) (hnodup : files.Nodup)
    (hplain : ∀ path ∈ files, Path.Plain path)
    (hinj : Set.InjOn Identifier.digest {t | t ∈ hashed name files}) :
    (shallow [] files = true → ∃ c, build? name root files = some c ∧ c.IsTree name root files) ∧
      (shallow [] files = false → build? name root files = none) := by
  refine ⟨fun hshallow => ⟨_, ?_, isTree_build root hnodup hplain hinj⟩, fun hdeep => ?_⟩
  · rw [build?_eq, if_pos hshallow]
  · rw [build?_eq, hdeep]
    rfl

/-! ### A file beside a package -/

namespace TreeSample

/-- A file, and a package of its marker only. -/
def paths : List String :=
  ["a.py", "p/__init__.py"]

/-- The texts of project, package and files. -/
def nodes : List String :=
  [Identifier.structureText .project "project", Identifier.structureText .package "p",
    Identifier.structureText .file "a.py", Identifier.structureText .file "p/__init__.py"]

/-- The edges between them. -/
def edges : List TextEdge :=
  [⟨.contains, Identifier.structureText .project "project", Identifier.structureText .file "a.py"⟩,
    ⟨.contains, Identifier.structureText .project "project", Identifier.structureText .package "p"⟩,
    ⟨.contains, Identifier.structureText .package "p",
      Identifier.structureText .file "p/__init__.py"⟩]

/-- The identifiers of project, package and files. -/
def ids : OrderedMap String String :=
  ⟨[(Identifier.structureText .project "project", "a98b5e2730c1d113f758df8d"),
    (Identifier.structureText .package "p", "55c65c585a8db37a8db11ba4"),
    (Identifier.structureText .file "a.py", "4a9f4aa122b45024abcedc57"),
    (Identifier.structureText .file "p/__init__.py", "418d40859f4cdf8a2a26ae32")]⟩

/-- The digests of nodes and edges start differently. -/
theorem separates : Identifier.Separates ids nodes edges := by
  decide +kernel

/-- The texts behind the identifiers. -/
theorem hashed_paths : hashed "project" paths = nodes ++ edges.map TextEdge.text := by
  have hfolders : Path.folders "a.py" = [] ∧ Path.folders "p" = [] ∧
      Path.folders "p/__init__.py" = ["p"] := by
    decide
  have hpackages : packageDirectories paths = ["p"] := by
    decide
  obtain ⟨hfile, hpackage, hmarker⟩ := hfolders
  rw [hashed, structureTexts, offeredEdges, offers, hpackages]
  simp only [allFolders, paths, List.flatMap_cons, List.flatMap_nil, steps, hfile, hmarker,
    folderStep, folderEdge, fileEdge, hpackage, List.map_cons, List.map_nil, List.nil_append,
    List.append_nil, List.cons_append]
  rfl

/-- The digests are different. -/
theorem injOn_hashed : Set.InjOn Identifier.digest {t | t ∈ hashed "project" paths} := by
  rw [hashed_paths]
  exact Identifier.injOn_digest separates.nodup

end TreeSample

/-- A file beside a package is a tree. -/
theorem tree_or_deep_package :
    ∃ c, build? "project" "" TreeSample.paths = some c ∧
      c.IsTree "project" "" TreeSample.paths := by
  have hplain : ∀ path ∈ TreeSample.paths, Path.Plain path := by
    unfold Path.Plain
    decide
  exact (tree_or_deep "project" "" TreeSample.paths (by decide) hplain
    TreeSample.injOn_hashed).1 (by decide)

/-- A file below a thousand folders has no skeleton. -/
theorem build?_thousand_folders :
    [Path.nested 1000 "a"].Nodup ∧ (∀ path ∈ [Path.nested 1000 "a"], Path.Plain path) ∧
      (∀ path ∈ [Path.nested 1000 "a"], ∀ path' ∈ [Path.nested 1000 "a"],
        ¬Path.Above path path') ∧
      build? "project" "" [Path.nested 1000 "a"] = none := by
  refine ⟨List.nodup_singleton _, fun path hpath => ?_, fun path hpath path' hpath' => ?_, ?_⟩
  · obtain rfl := List.mem_singleton.mp hpath
    intro segment hsegment
    rw [Path.split_nested 1000 (by decide)] at hsegment
    rcases List.mem_append.mp hsegment with hsegment | hsegment
    · rw [List.eq_of_mem_replicate hsegment]
      decide
    · rw [List.mem_singleton.mp hsegment]
      decide
  · rw [List.mem_singleton.mp hpath, List.mem_singleton.mp hpath']
    exact Path.not_above_self _
  · rw [build?_eq, not_shallow_nested (by decide) (by decide)]
    rfl

end Containment

end CodeGraph
