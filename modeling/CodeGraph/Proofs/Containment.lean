import CodeGraph.Proofs.Graph
import CodeGraph.Proofs.OrderedMap
import CodeGraph.Proofs.Path
import Mathlib.Data.Set.Function

/-!
# The containment skeleton as a sequence of attachments

A folder that several files need is created once, under a parent that depends on the folder alone.
So the skeleton is what remains of attaching, file after file, all folders on the way and the file
itself, and whether it can be built at all is a matter of counting folders that no earlier file
needs.

## Main definitions

* `Containment.parentId`, `Containment.folderEdge`, `Containment.fileEdge`: what holds a folder and
  a file.
* `Containment.steps`: the attachments that a file asks for.
* `Containment.structureTexts`: the texts behind the identifiers of the nodes.
* `Containment.shallow`: whether no file in a sequence needs too many new folders.

## Main results

* `Containment.graph_build`: the skeleton is a sequence of attachments.
* `Containment.get?_fileIds_build`: the files with identifiers are the given ones.
* `Containment.offeredNodes_inj`: if digests differ, nodes under the same identifier are the same.
* `Containment.build?_eq`: when there is a skeleton.
-/

namespace CodeGraph.Containment

/-! ### What a file asks for -/

/-- The identifier of the innermost of some folders, or of the project if there are none. -/
def parentId (projectId : String) (packages above : List String) : String :=
  (above.getLast?.map fun d => (folderNode packages d).id).getD projectId

/-- The relationship that holds a folder. -/
def folderEdge (projectId : String) (packages : List String) (d : String) : Relationship :=
  .between .contains (parentId projectId packages (Path.folders d)) (folderNode packages d).id

/-- The relationship that holds a file. -/
def fileEdge (projectId : String) (packages : List String) (path : String) : Relationship :=
  .between .contains (parentId projectId packages (Path.folders path)) (fileId path)

@[simp]
theorem target_folderEdge (projectId : String) (packages : List String) (d : String) :
    (folderEdge projectId packages d).target = (folderNode packages d).id :=
  rfl

@[simp]
theorem target_fileEdge (projectId : String) (packages : List String) (path : String) :
    (fileEdge projectId packages path).target = fileId path :=
  rfl

/-- The attachment of a folder. -/
def folderStep (projectId : String) (packages : List String) (d : String) :
    Node × List Relationship :=
  (folderNode packages d, [folderEdge projectId packages d])

/-- The attachments that a file asks for: the folders on the way, and the file. -/
def steps (projectId : String) (packages : List String) (path : String) :
    List (Node × List Relationship) :=
  (Path.folders path).map (folderStep projectId packages)
    ++ [(fileNode path, [fileEdge projectId packages path])]

@[simp]
theorem parentId_append (projectId : String) (packages above : List String) (d : String) :
    parentId projectId packages (above ++ [d]) = (folderNode packages d).id := by
  simp [parentId]

/-! ### Folders -/

/-- Every folder with an identifier stands in the graph, below the parent it belongs to. -/
def Known (packages : List String) (c : Containment) : Prop :=
  ∀ d id, c.folderIds.get? d = some id →
    id = (folderNode packages d).id ∧ id ∈ c.graph.ids ∧
      (folderEdge c.projectId packages d).id ∈ c.graph.linkIds

/-- What adding some folders of a path leaves behind. -/
structure Grown (packages : List String) (c c' : Containment) (folders : List String) : Prop where
  graph : c'.graph = (folders.map (folderStep c.projectId packages)).foldl Graph.attach c.graph
  projectId : c'.projectId = c.projectId
  fileIds : c'.fileIds = c.fileIds
  contains : ∀ d, c'.folderIds.contains d = true ↔ c.folderIds.contains d = true ∨ d ∈ folders
  known : c'.Known packages

/-- Adding a folder attaches it below its parent and leaves its identifier for the next one. -/
theorem addFolder_grown {packages : List String} {c : Containment} (hc : c.Known packages)
    (d : String) :
    ∃ c', addFolder packages (c, parentId c.projectId packages (Path.folders d)) d =
      (c', (folderNode packages d).id) ∧ Grown packages c c' [d] := by
  rcases hget : c.folderIds.get? d with - | id
  · refine ⟨{ c with
        graph := c.graph.attach (folderStep c.projectId packages d)
        folderIds := c.folderIds.insert d (folderNode packages d).id },
      by simp only [addFolder, hget]; rfl, ⟨rfl, rfl, rfl, fun d' => ?_, ?_⟩⟩
    · simp only [OrderedMap.contains, OrderedMap.get?_insert, List.mem_singleton]
      by_cases hd : d' = d <;> simp [hd]
    · intro d' id' hid'
      have hids := Graph.mem_ids_foldl_attach c.graph [folderStep c.projectId packages d]
      have hlinks := Graph.mem_linkIds_foldl_attach c.graph [folderStep c.projectId packages d]
      rw [OrderedMap.get?_insert] at hid'
      split at hid'
      · next heq =>
        obtain rfl := Option.some.inj hid'
        subst heq
        exact ⟨rfl, (hids _).mpr (.inr (by simp [folderStep])),
          (hlinks _).mpr (.inr (by simp [folderStep]))⟩
      · obtain ⟨hnode, hmem, hlink⟩ := hc d' id' hid'
        exact ⟨hnode, (hids _).mpr (.inl hmem), (hlinks _).mpr (.inl hlink)⟩
  · obtain ⟨rfl, hmem, hlink⟩ := hc d id hget
    refine ⟨c, by simp only [addFolder, hget], ⟨?_, rfl, rfl, fun d' => ?_, hc⟩⟩
    · simp only [List.map_cons, List.map_nil, List.foldl_cons, List.foldl_nil, folderStep]
      rw [Graph.attach_eq_self hmem hlink]
    · rw [List.mem_singleton]
      refine ⟨.inl, fun h => h.elim id ?_⟩
      rintro rfl
      simp [OrderedMap.contains, hget]

/-- Adding the folders of a path from some place on attaches them one after the other. -/
theorem foldl_addFolder_grown {packages : List String} {c : Containment} (hc : c.Known packages)
    {path : String} {above rest : List String} (h : Path.folders path = above ++ rest) :
    ∃ c', rest.foldl (addFolder packages) (c, parentId c.projectId packages above) =
      (c', parentId c.projectId packages (Path.folders path)) ∧ Grown packages c c' rest := by
  induction rest generalizing c above with
  | nil => exact ⟨c, by simp [h], ⟨rfl, rfl, rfl, by simp, hc⟩⟩
  | cons d rest ih =>
    -- the folders listed before `d` are the folders above it, so its parent is the right one
    have habove : Path.folders d = above := Path.folders_of_append h
    obtain ⟨c₁, hstep, hgrown⟩ := addFolder_grown hc d
    have hsplit : Path.folders path = (above ++ [d]) ++ rest := by simpa using h
    obtain ⟨c₂, hrest, hgrown'⟩ := ih hgrown.known hsplit
    rw [habove] at hstep
    rw [parentId_append, hgrown.projectId] at hrest
    refine ⟨c₂, by rw [List.foldl_cons, hstep, hrest], ?_, ?_, ?_, fun d' => ?_, hgrown'.known⟩
    · rw [hgrown'.graph, hgrown.graph, hgrown.projectId]
      rfl
    · rw [hgrown'.projectId, hgrown.projectId]
    · rw [hgrown'.fileIds, hgrown.fileIds]
    · rw [hgrown'.contains, hgrown.contains, List.mem_singleton, List.mem_cons, or_assoc]

/-! ### Files -/

/-- What adding some files leaves behind. -/
structure Filled (packages : List String) (c c' : Containment) (files : List String) : Prop where
  graph : c'.graph = (files.flatMap (steps c.projectId packages)).foldl Graph.attach c.graph
  projectId : c'.projectId = c.projectId
  fileIds : ∀ path, c'.fileIds.get? path =
    if path ∈ files then some (fileId path) else c.fileIds.get? path
  contains : ∀ d, c'.folderIds.contains d = true ↔
    c.folderIds.contains d = true ∨ d ∈ files.flatMap Path.folders
  known : c'.Known packages

/-- Adding a file attaches its folders and the file. -/
theorem addFile_filled {packages : List String} {c : Containment} (hc : c.Known packages)
    (path : String) : Filled packages c (c.addFile packages path) [path] := by
  obtain ⟨c', hfold, hgrown⟩ := foldl_addFolder_grown hc (List.nil_append (Path.folders path)).symm
  have hfold' : (Path.folders path).foldl (addFolder packages) (c, c.projectId) =
      (c', parentId c.projectId packages (Path.folders path)) := hfold
  have hadd : c.addFile packages path =
      { c' with
        graph := c'.graph.attach (fileNode path, [fileEdge c.projectId packages path])
        fileIds := c'.fileIds.insert path (fileId path) } := by
    simp only [addFile, hfold']
    rfl
  rw [hadd]
  refine ⟨?_, hgrown.projectId, fun p => ?_, fun d => ?_, fun d id hid => ?_⟩
  · simp [steps, List.foldl_append, hgrown.graph]
  · rw [OrderedMap.get?_insert, hgrown.fileIds]
    by_cases hp : p = path <;> simp [hp]
  · simpa using hgrown.contains d
  · obtain ⟨hnode, hmem, hlink⟩ := hgrown.known d id hid
    exact ⟨hnode, (Graph.mem_ids_foldl_attach c'.graph [_] id).mpr (.inl hmem),
      (Graph.mem_linkIds_foldl_attach c'.graph [_] _).mpr (.inl hlink)⟩

/-- Adding files one after the other attaches what each of them asks for. -/
theorem foldl_addFile_filled {packages : List String} {c : Containment} (hc : c.Known packages)
    (files : List String) : Filled packages c (files.foldl (addFile packages) c) files := by
  induction files generalizing c with
  | nil => exact ⟨rfl, rfl, by simp, by simp, hc⟩
  | cons path files ih =>
    have hfirst := addFile_filled hc path
    have hrest := ih hfirst.known
    rw [List.foldl_cons]
    refine ⟨?_, ?_, fun p => ?_, fun d => ?_, hrest.known⟩
    · rw [hrest.graph, hfirst.graph, hfirst.projectId, List.flatMap_cons, List.foldl_append]
      simp
    · rw [hrest.projectId, hfirst.projectId]
    · rw [hrest.fileIds, hfirst.fileIds]
      simp only [List.mem_cons]
      split
      · next hmem => simp [hmem]
      · next hmem => simp [hmem]
    · rw [hrest.contains, hfirst.contains, List.flatMap_cons, List.mem_append, or_assoc]
      simp

/-! ### The skeleton -/

/-- The skeleton before the first file. -/
def start (name root : String) : Containment :=
  { graph := Graph.empty.insertNode (projectNode name root)
    projectId := (projectNode name root).id }

theorem known_start (packages : List String) (name root : String) :
    (start name root).Known packages := by
  intro d id h
  cases h

/-- What building a skeleton leaves behind. -/
theorem build_filled (name root : String) (files : List String) :
    Filled (packageDirectories files) (start name root) (build name root files) files :=
  foldl_addFile_filled (known_start _ name root) files

/-- The attachments that a list of files asks for. -/
def offers (name : String) (files : List String) : List (Node × List Relationship) :=
  files.flatMap (steps (Identifier.ofStructure .project name) (packageDirectories files))

/-- The skeleton is what remains of attaching all that the files ask for to the project. -/
theorem graph_build (name root : String) (files : List String) :
    (build name root files).graph =
      (offers name files).foldl Graph.attach (Graph.empty.insertNode (projectNode name root)) :=
  (build_filled name root files).graph

/-- The files with identifiers are the given ones. -/
theorem get?_fileIds_build (name root : String) (files : List String) (path : String) :
    (build name root files).fileIds.get? path =
      if path ∈ files then some (fileId path) else none :=
  (build_filled name root files).fileIds path

/-! ### What is offered -/

/-- The folders on the way to some files. -/
def allFolders (files : List String) : List String :=
  files.flatMap Path.folders

/-- What is offered is a folder on the way to a file, or a file, below its parent. -/
theorem mem_offers {name : String} {files : List String} {x : Node × List Relationship} :
    x ∈ offers name files ↔
      (∃ d ∈ allFolders files,
        x = folderStep (Identifier.ofStructure .project name) (packageDirectories files) d) ∨
      ∃ path ∈ files, x = (fileNode path,
        [fileEdge (Identifier.ofStructure .project name) (packageDirectories files) path]) := by
  constructor
  · intro h
    obtain ⟨path, hpath, hx⟩ := List.mem_flatMap.mp h
    rcases List.mem_append.mp hx with hx | hx
    · obtain ⟨d, hd, rfl⟩ := List.mem_map.mp hx
      exact .inl ⟨d, List.mem_flatMap.mpr ⟨path, hpath, hd⟩, rfl⟩
    · exact .inr ⟨path, hpath, List.mem_singleton.mp hx⟩
  · rintro (⟨d, hd, rfl⟩ | ⟨path, hpath, rfl⟩)
    · obtain ⟨path, hpath, hd⟩ := List.mem_flatMap.mp hd
      exact List.mem_flatMap.mpr ⟨path, hpath, List.mem_append_left _ (List.mem_map_of_mem hd)⟩
    · exact List.mem_flatMap.mpr ⟨path, hpath, List.mem_append_right _ List.mem_cons_self⟩

/-- Only which directories are packages matters, not how they are listed. -/
theorem folderNode_congr {packages packages' : List String}
    (h : ∀ d, d ∈ packages ↔ d ∈ packages') : folderNode packages = folderNode packages' := by
  funext d
  simp only [folderNode, h]

theorem steps_congr {packages packages' : List String} (h : ∀ d, d ∈ packages ↔ d ∈ packages')
    (projectId : String) : steps projectId packages = steps projectId packages' := by
  have hnode := folderNode_congr h
  have hstep : folderStep projectId packages = folderStep projectId packages' := by
    funext d
    simp only [folderStep, folderEdge, parentId, hnode]
  funext path
  simp only [steps, hstep, fileEdge, parentId, hnode]

/-- Which directories are packages does not depend on the order of the files. -/
theorem mem_packageDirectories_of_perm {files files' : List String} (h : files.Perm files')
    (d : String) : d ∈ packageDirectories files ↔ d ∈ packageDirectories files' :=
  ((h.filter _).map _).mem_iff

/-- What is offered does not depend on the order of the files. -/
theorem offers_perm (name : String) {files files' : List String} (h : files.Perm files') :
    (offers name files).Perm (offers name files') := by
  rw [offers, offers, steps_congr (mem_packageDirectories_of_perm h)]
  exact h.flatMap_right _

/-- The nodes of the skeleton: the project, and the offered ones under new identifiers. -/
theorem nodes_build (name root : String) (files : List String) :
    (build name root files).graph.nodes =
      projectNode name root :: fresh Node.id [(projectNode name root).id]
        ((offers name files).map Prod.fst) := by
  rw [graph_build, Graph.nodes_foldl_attach]
  rfl

/-- The identifiers of the skeleton. -/
theorem mem_ids_build (name root : String) (files : List String) (id : String) :
    id ∈ (build name root files).graph.ids ↔
      id = Identifier.ofStructure .project name ∨
      (∃ d ∈ allFolders files, id = (folderNode (packageDirectories files) d).id) ∨
      ∃ path ∈ files, id = fileId path := by
  rw [graph_build, Graph.mem_ids_foldl_attach]
  refine or_congr List.mem_singleton ?_
  rw [List.mem_map]
  constructor
  · rintro ⟨x, hx, rfl⟩
    rcases mem_offers.mp hx with ⟨d, hd, rfl⟩ | ⟨path, hpath, rfl⟩
    · exact .inl ⟨d, hd, rfl⟩
    · exact .inr ⟨path, hpath, rfl⟩
  · rintro (⟨d, hd, rfl⟩ | ⟨path, hpath, rfl⟩)
    · exact ⟨_, mem_offers.mpr (.inl ⟨d, hd, rfl⟩), rfl⟩
    · exact ⟨_, mem_offers.mpr (.inr ⟨path, hpath, rfl⟩), rfl⟩

/-- The folders above a folder on the way to a file are on the way to that file. -/
theorem mem_allFolders_of_mem_folders {files : List String} {d d' : String}
    (hd : d ∈ allFolders files) (hd' : d' ∈ Path.folders d) : d' ∈ allFolders files := by
  obtain ⟨path, hpath, hmem⟩ := List.mem_flatMap.mp hd
  obtain ⟨above, below, hsplit⟩ := List.append_of_mem hmem
  rw [Path.folders_of_append hsplit] at hd'
  refine List.mem_flatMap.mpr ⟨path, hpath, ?_⟩
  rw [hsplit]
  exact List.mem_append_left _ hd'

/-- A parent is the project or one of the folders above. -/
theorem parentId_mem_ids {name root : String} {files above : List String}
    (h : ∀ d ∈ above, d ∈ allFolders files) :
    parentId (Identifier.ofStructure .project name) (packageDirectories files) above ∈
      (build name root files).graph.ids := by
  rw [mem_ids_build, parentId]
  cases hlast : above.getLast? with
  | none => exact .inl rfl
  | some d => exact .inr (.inl ⟨d, h d (List.mem_of_getLast? hlast), rfl⟩)

/-- Both ends of an offered relationship are in the skeleton. -/
theorem ends_mem_ids (name root : String) {files : List String} {r : Relationship}
    (h : r ∈ (offers name files).flatMap Prod.snd) :
    r.source ∈ (build name root files).graph.ids ∧
      r.target ∈ (build name root files).graph.ids := by
  obtain ⟨x, hx, hr⟩ := List.mem_flatMap.mp h
  rcases mem_offers.mp hx with ⟨d, hd, rfl⟩ | ⟨path, hpath, rfl⟩
  · obtain rfl := List.mem_singleton.mp hr
    refine ⟨parentId_mem_ids fun d' hd' => mem_allFolders_of_mem_folders hd hd', ?_⟩
    exact (mem_ids_build _ _ _ _).mpr (.inr (.inl ⟨d, hd, rfl⟩))
  · obtain rfl := List.mem_singleton.mp hr
    refine ⟨parentId_mem_ids fun d' hd' => List.mem_flatMap.mpr ⟨path, hpath, hd'⟩, ?_⟩
    exact (mem_ids_build _ _ _ _).mpr (.inr (.inr ⟨path, hpath, rfl⟩))

/-- If there are files, something is held by the project itself. -/
theorem exists_source_eq_project (name : String) {files : List String} {path : String}
    (h : path ∈ files) :
    ∃ r ∈ (offers name files).flatMap Prod.snd,
      r.source = Identifier.ofStructure .project name := by
  cases hfolders : Path.folders path with
  | nil =>
    refine ⟨_, List.mem_flatMap.mpr
      ⟨_, mem_offers.mpr (.inr ⟨path, h, rfl⟩), List.mem_singleton_self _⟩, ?_⟩
    simp only [fileEdge, hfolders, parentId]
    rfl
  | cons d below =>
    have hd : d ∈ allFolders files :=
      List.mem_flatMap.mpr ⟨path, h, hfolders ▸ List.mem_cons_self⟩
    have habove : Path.folders d = [] := Path.folders_of_append hfolders
    refine ⟨_, List.mem_flatMap.mpr
      ⟨_, mem_offers.mpr (.inl ⟨d, hd, rfl⟩), List.mem_singleton_self _⟩, ?_⟩
    simp only [folderEdge, habove, parentId]
    rfl

/-! ### Identifiers -/

/-- The nodes that are offered: the project, and all that the files ask for. -/
def offeredNodes (name root : String) (files : List String) : List Node :=
  projectNode name root :: (offers name files).map Prod.fst

/-- The skeleton has the offered nodes under new identifiers. -/
theorem nodes_build_eq_fresh (name root : String) (files : List String) :
    (build name root files).graph.nodes = fresh Node.id [] (offeredNodes name root files) := by
  rw [nodes_build]
  rfl

/-- What an offered node stands for. -/
theorem mem_offeredNodes {name root : String} {files : List String} {n : Node} :
    n ∈ offeredNodes name root files ↔
      n = projectNode name root ∨
      (∃ d ∈ allFolders files, n = folderNode (packageDirectories files) d) ∨
      ∃ path ∈ files, n = fileNode path := by
  rw [offeredNodes, List.mem_cons, List.mem_map]
  refine or_congr Iff.rfl ⟨?_, ?_⟩
  · rintro ⟨x, hx, rfl⟩
    rcases mem_offers.mp hx with ⟨d, hd, rfl⟩ | ⟨path, hp, rfl⟩
    · exact .inl ⟨d, hd, rfl⟩
    · exact .inr ⟨path, hp, rfl⟩
  · rintro (⟨d, hd, rfl⟩ | ⟨path, hp, rfl⟩)
    · exact ⟨_, mem_offers.mpr (.inl ⟨d, hd, rfl⟩), rfl⟩
    · exact ⟨_, mem_offers.mpr (.inr ⟨path, hp, rfl⟩), rfl⟩

/-- The label of a folder is that of folders or of packages. -/
theorem label_folderNode (packages : List String) (d : String) :
    (folderNode packages d).label = .folder ∨ (folderNode packages d).label = .package := by
  simp only [folderNode]
  split
  · exact .inr rfl
  · exact .inl rfl

/-- The texts behind the identifiers of project, folders and files. -/
def structureTexts (name : String) (files : List String) : List String :=
  Identifier.structureText .project name
    :: (allFolders files).map (fun d =>
      Identifier.structureText (folderNode (packageDirectories files) d).label d)
    ++ files.map (Identifier.structureText .file)

/-- The node with a label, for the project or a path. -/
def nodeAt (name root : String) (packages : List String) (kind : NodeKind) (path : String) : Node :=
  match kind with
  | .project => projectNode name root
  | .file => fileNode path
  | _ => folderNode packages path

/-- An offered node is known by the text behind its identifier. -/
theorem exists_text_of_mem_offeredNodes {name root : String} {files : List String} {n : Node}
    (hn : n ∈ offeredNodes name root files) :
    ∃ path, Identifier.structureText n.label path ∈ structureTexts name files ∧
      n.id = Identifier.digest (Identifier.structureText n.label path) ∧
      n = nodeAt name root (packageDirectories files) n.label path := by
  rcases mem_offeredNodes.mp hn with rfl | ⟨d, hd, rfl⟩ | ⟨path, hp, rfl⟩
  · exact ⟨name, List.mem_cons_self, rfl, rfl⟩
  · refine ⟨d, List.mem_append_left _ (List.mem_cons_of_mem _ (List.mem_map_of_mem hd)), rfl, ?_⟩
    rcases label_folderNode (packageDirectories files) d with hlabel | hlabel
    · simp only [hlabel, nodeAt]
    · simp only [hlabel, nodeAt]
  · exact ⟨path, List.mem_append_right _ (List.mem_map_of_mem hp), rfl, rfl⟩

/-- Offered nodes under the same identifier are the same. -/
theorem offeredNodes_inj {name : String} {files : List String} (root : String)
    (hinj : Set.InjOn Identifier.digest {t | t ∈ structureTexts name files}) :
    ∀ a ∈ offeredNodes name root files, ∀ b ∈ offeredNodes name root files,
      a.id = b.id → a = b := by
  intro a ha b hb hid
  obtain ⟨path, htext, haid, hanode⟩ := exists_text_of_mem_offeredNodes ha
  obtain ⟨path', htext', hbid, hbnode⟩ := exists_text_of_mem_offeredNodes hb
  rw [haid, hbid] at hid
  obtain ⟨hlabel, hpath⟩ := Identifier.structureText_inj (hinj htext htext' hid)
  rw [hanode, hbnode, hlabel, hpath]

/-! ### When there is a skeleton -/

/-- Whether, after some files, no further one is rooted or needs too many new folders. -/
def shallow (before : List String) : List String → Bool
  | [] => true
  | path :: files =>
    !Text.startsWith "/" path
      && ((Path.folders path).filter (· ∉ before.flatMap Path.folders)).length ≤ maxNewFolders
      && shallow (before ++ [path]) files

/-- Files can be added as long as they are shallow. -/
theorem foldlM_addFile {packages before : List String} {c : Containment} (hc : c.Known packages)
    (hbefore : ∀ d, c.folderIds.contains d = true ↔ d ∈ before.flatMap Path.folders)
    (files : List String) :
    (files.foldlM (fun (c : Containment) path =>
        if c.admits path then some (c.addFile packages path) else none) c) =
      if shallow before files then some (files.foldl (addFile packages) c) else none := by
  induction files generalizing c before with
  | nil => rfl
  | cons path files ih =>
    have hfilled := addFile_filled hc path
    have hmissing : (Path.folders path).filter (fun d => !c.folderIds.contains d) =
        (Path.folders path).filter (· ∉ before.flatMap Path.folders) := by
      refine List.filter_congr fun d _ => ?_
      rw [Bool.eq_iff_iff, decide_eq_true_iff, ← hbefore d, Bool.not_eq_true', Bool.not_eq_true]
    have hadmits : c.admits path = (!Text.startsWith "/" path
        && ((Path.folders path).filter (· ∉ before.flatMap Path.folders)).length
          ≤ maxNewFolders) := by
      rw [admits, hmissing]
    have hbefore' : ∀ d, (c.addFile packages path).folderIds.contains d = true ↔
        d ∈ (before ++ [path]).flatMap Path.folders := by
      intro d
      rw [hfilled.contains, hbefore d, List.flatMap_append, List.mem_append]
    have hrest := ih hfilled.known hbefore'
    rw [List.foldlM_cons, shallow, ← hadmits, List.foldl_cons]
    cases hadm : c.admits path
    · rfl
    · simpa using hrest

/-- There is a skeleton exactly if no file needs too many new folders. -/
theorem build?_eq (name root : String) (files : List String) :
    build? name root files = if shallow [] files then some (build name root files) else none :=
  foldlM_addFile (known_start _ name root) (by
    intro d
    constructor
    · intro h
      cases h
    · intro h
      cases h) files

end CodeGraph.Containment
