import CodeGraph.Proofs.Sorting
import CodeGraph.Proofs.Trie
import CodeGraph.Registry

/-!
# What a registry answers

The indexes of a registry are views of two lists: the registered files and the entered definitions,
both in order of arrival. Every look-up that resolution makes is a filter of one of them.

## Main definitions

* `Registry.Lists`: a registry answers from given definitions.
* `Registry.Holds`: a registry answers from given files and definitions.

## Main results

* `Registry.Lists.qualified`, `Registry.Lists.below_perm`, `Registry.Lists.endingWith_perm`: look-up
  through the trie.
* `Registry.Holds.foldl_registerFile`, `Registry.Holds.foldl_addDefinition`: growth of a registry is
  growth of the lists.
* `Registry.lookups_eq_filters`: all look-ups of definitions, after any history.
-/

namespace CodeGraph

namespace Registry

/-- An added definition counts. -/
theorem count_addDefinition (r : Registry) (d : Definition) :
    (r.addDefinition d).count = r.count + 1 := by
  simp only [addDefinition, registerFile]
  split <;> rfl

/-- Each added definition counts. -/
theorem count_foldl_addDefinition (r : Registry) (ds : List Definition) :
    (ds.foldl addDefinition r).count = r.count + ds.length := by
  induction ds generalizing r with
  | nil => rfl
  | cons d ds ih =>
    rw [List.foldl_cons, ih, count_addDefinition, List.length_cons]
    omega

/-! ### Definitions -/

/-- A definition under the segments of its qualified name. -/
def placed (d : Definition) : List String × Definition :=
  (nameSegments d.qualifiedName, d)

/-- A condition on the segments of qualified names. -/
theorem map_filter_placed (ds : List Definition) (p : List String → Bool) :
    ((ds.map placed).filter fun x => p x.1).map Prod.snd =
      ds.filter fun d => p (nameSegments d.qualifiedName) := by
  rw [List.filter_map, List.map_map]
  exact List.map_id _

/-- A registry answers from definitions that are listed in order of arrival. -/
structure Lists (r : Registry) (ds : List Definition) : Prop where
  trie : ∃ ps, r.trie.Lists ps (ds.map placed)
  inFile : ∀ path, r.inFile path = ds.filter (·.filePath = path)
  named : ∀ name, r.named name = ds.filter (·.name = name)

namespace Lists

variable {r : Registry} {ds : List Definition}

/-- The registry without anything answers nothing. -/
protected theorem empty : Registry.empty.Lists [] :=
  ⟨⟨_, .empty⟩, fun _ => rfl, fun _ => rfl⟩

/-- Registering a file changes nothing about definitions. -/
theorem registerFile (h : r.Lists ds) (path : String) : (r.registerFile path).Lists ds := by
  unfold Registry.registerFile
  split
  · exact h
  · exact ⟨h.trie, h.inFile, h.named⟩

/-- A changed list of definitions is that of one key. -/
theorem getD_alter_filter {key : Definition → String} {m : OrderedMap String (List Definition)}
    (hm : ∀ k, m.getD k [] = ds.filter (key · = k)) (d : Definition) (k : String) :
    (m.alter (key d) [] (· ++ [d])).getD k [] = (ds ++ [d]).filter (key · = k) := by
  rw [OrderedMap.getD_alter, List.filter_append]
  by_cases hk : k = key d
  · subst hk
    simp [hm]
  · simp [hk, Ne.symm hk, hm]

/-- A definition is entered after the others. -/
theorem addDefinition (h : r.Lists ds) (d : Definition) :
    (r.addDefinition d).Lists (ds ++ [d]) := by
  obtain ⟨ps, htrie⟩ := h.trie
  rw [Registry.addDefinition]
  apply registerFile
  refine ⟨?_, getD_alter_filter h.inFile d, getD_alter_filter h.named d⟩
  rw [List.map_append]
  exact htrie.insert _ d

/-- The definitions with a qualified name, in order of arrival. -/
theorem qualified (h : r.Lists ds) (name : String) :
    r.qualified name = ds.filter (nameSegments ·.qualifiedName = nameSegments name) := by
  obtain ⟨ps, htrie⟩ := h.trie
  rw [Registry.qualified, htrie.itemsAt, map_filter_placed ds fun q => q = nameSegments name]

/-- The definitions of a file with a name, in order of arrival. -/
theorem namedIn (h : r.Lists ds) (path name : String) :
    r.namedIn path name = ds.filter fun d => d.filePath = path ∧ d.name = name := by
  rw [Registry.namedIn, h.inFile, List.filter_filter]
  exact List.filter_congr fun d _ => by rw [Bool.and_comm, Bool.decide_and]

/-- The definitions below a name are those whose qualified names have its segments in front. -/
theorem below_perm (h : r.Lists ds) (name : String) :
    (r.below name).Perm
      (ds.filter fun d => nameSegments name <+: nameSegments d.qualifiedName) := by
  obtain ⟨ps, htrie⟩ := h.trie
  rw [← map_filter_placed ds fun q => nameSegments name <+: q]
  exact htrie.below_perm (nameSegments name)

/-- The definitions that end with a name are those whose qualified names have its segments last. -/
theorem endingWith_perm (h : r.Lists ds) {name : String} (hname : nameSegments name ≠ []) :
    (r.endingWith name).Perm
      (ds.filter fun d => nameSegments name <:+ nameSegments d.qualifiedName) := by
  obtain ⟨ps, htrie⟩ := h.trie
  rw [← map_filter_placed ds fun q => nameSegments name <:+ q]
  exact htrie.endingWith_perm hname

/-- The trie has a root, and a node for each non-empty leading part of a qualified name. -/
theorem trieSize_eq (h : r.Lists ds) :
    r.trieSize = 1 + ((ds.flatMap fun d => (nameSegments d.qualifiedName).inits).filter
      (· ≠ [])).dedup.length := by
  obtain ⟨ps, htrie⟩ := h.trie
  rw [trieSize, htrie.size_eq, List.flatMap_map]
  rfl

end Lists

/-! ### Files and definitions -/

/-- A registry answers from files and definitions that are listed in order of arrival. -/
structure Holds (r : Registry) (paths : List String) (ds : List Definition) : Prop
    extends r.Lists ds where
  files : r.files = paths
  bySuffix : ∀ s, r.bySuffix.getD s [] =
    paths.flatMap fun p => List.replicate ((Path.suffixes p).count s) p
  byStem : ∀ s, r.byStem.getD s [] = paths.filter fun p => Path.stem (Path.name p) = s

namespace Holds

variable {r : Registry} {files : List String} {ds : List Definition}

/-- The registry without anything answers nothing. -/
protected theorem empty : Registry.empty.Holds [] [] :=
  ⟨.empty, rfl, fun _ => rfl, fun _ => rfl⟩

/-- A new file is registered after the others. -/
theorem registerFile (h : r.Holds files ds) {path : String} (hnew : path ∉ files) :
    (r.registerFile path).Holds (files ++ [path]) ds := by
  have hnew' : path ∉ r.files := h.files ▸ hnew
  refine ⟨h.toLists.registerFile path, ?_, fun s => ?_, fun s => ?_⟩
  · simp only [Registry.registerFile, hnew', if_false]
    rw [h.files]
  · simp only [Registry.registerFile, hnew', if_false]
    rw [OrderedMap.getD_foldl_alter, h.bySuffix, List.flatMap_append]
    simp
  · simp only [Registry.registerFile, hnew', if_false]
    rw [OrderedMap.getD_alter]
    by_cases hs : s = Path.stem (Path.name path)
    · simp [hs, h.byStem]
    · simp [hs, h.byStem, Ne.symm hs]

/-- Different new files are registered in order. -/
theorem foldl_registerFile (h : r.Holds files ds) {paths : List String}
    (hnew : (files ++ paths).Nodup) :
    (paths.foldl Registry.registerFile r).Holds (files ++ paths) ds := by
  induction paths generalizing r files with
  | nil => simpa using h
  | cons path paths ih =>
    have hpath : path ∉ files := fun hmem =>
      List.disjoint_of_nodup_append hnew hmem List.mem_cons_self
    have hsplit : (files ++ [path] ++ paths).Nodup := by simpa using hnew
    simpa using ih (h.registerFile hpath) hsplit

/-- A definition of a registered file is entered after the others. -/
theorem addDefinition (h : r.Holds files ds) {d : Definition} (hd : d.filePath ∈ files) :
    (r.addDefinition d).Holds files (ds ++ [d]) := by
  have hmem : d.filePath ∈ r.files := h.files.symm ▸ hd
  refine ⟨h.toLists.addDefinition d, ?_, fun s => ?_, fun s => ?_⟩
  · simp only [Registry.addDefinition, Registry.registerFile, hmem, if_true]
    exact h.files
  · simp only [Registry.addDefinition, Registry.registerFile, hmem, if_true, h.bySuffix]
  · simp only [Registry.addDefinition, Registry.registerFile, hmem, if_true, h.byStem]

/-- Definitions of registered files are entered in order. -/
theorem foldl_addDefinition (h : r.Holds files ds) {more : List Definition}
    (hmore : ∀ d ∈ more, d.filePath ∈ files) :
    (more.foldl Registry.addDefinition r).Holds files (ds ++ more) := by
  induction more generalizing r ds with
  | nil => simpa using h
  | cons d more ih =>
    have hd : d.filePath ∈ files := hmore d List.mem_cons_self
    have hrest : ∀ d ∈ more, d.filePath ∈ files := fun d' hd' =>
      hmore d' (List.mem_cons_of_mem d hd')
    simpa using ih (h.addDefinition hd) hrest

/-- The definitions of a file are entered ones. -/
theorem mem_inFile (h : r.Holds files ds) {path : String} {d : Definition} :
    d ∈ r.inFile path ↔ d ∈ ds ∧ d.filePath = path := by
  rw [h.inFile, List.mem_filter, decide_eq_true_iff]

/-- The definitions of a file with a name are entered ones. -/
theorem mem_namedIn (h : r.Holds files ds) {path name : String} {d : Definition} :
    d ∈ r.namedIn path name ↔ (d ∈ ds ∧ d.filePath = path) ∧ d.name = name := by
  rw [namedIn, List.mem_filter, h.mem_inFile, decide_eq_true_iff]

/-- The definitions with a qualified name are entered ones. -/
theorem mem_of_mem_qualified (h : r.Holds files ds) {name : String} {d : Definition}
    (hd : d ∈ r.qualified name) : d ∈ ds := by
  rw [h.qualified] at hd
  exact List.mem_of_mem_filter hd

/-- A file is registered exactly if it is listed. -/
theorem hasFile_iff (h : r.Holds files ds) (path : String) :
    r.hasFile path = true ↔ path ∈ files := by
  rw [hasFile, decide_eq_true_iff, h.files]

/-- The files found by a trailing part are the registered ones that have it. -/
theorem mem_filesEndingWith (h : r.Holds files ds) {suffix path : String} :
    path ∈ r.filesEndingWith suffix ↔
      path ∈ files ∧ Text.trimWhile (· = '/') suffix ∈ Path.suffixes path := by
  rw [filesEndingWith, Text.sort, Sorting.mem_sort, h.bySuffix, List.mem_flatMap]
  constructor
  · rintro ⟨p, hp, hrep⟩
    obtain ⟨hcount, rfl⟩ := List.mem_replicate.mp hrep
    exact ⟨hp, List.count_pos_iff.mp (Nat.pos_of_ne_zero hcount)⟩
  · rintro ⟨hp, hsuffix⟩
    exact ⟨path, hp, List.mem_replicate.mpr ⟨(List.count_pos_iff.mpr hsuffix).ne', rfl⟩⟩

/-- The files found by a stem are the registered ones that have it. -/
theorem mem_filesWithStem (h : r.Holds files ds) {stem path : String} :
    path ∈ r.filesWithStem stem ↔ path ∈ files ∧ Path.stem (Path.name path) = stem := by
  rw [filesWithStem, Text.sort, Sorting.mem_sort, h.byStem, List.mem_filter, decide_eq_true_iff]

end Holds

/-! ### Whole histories -/

/-- What a registry is told: a definition, or a file. -/
inductive Arrival where
  | definition (d : Definition)
  | file (path : String)

/-- The definition that arrives. -/
def Arrival.definition? : Arrival → Option Definition
  | .definition d => some d
  | .file _ => none

/-- The file that arrives, alone or with a definition. -/
def Arrival.path : Arrival → String
  | .definition d => d.filePath
  | .file path => path

/-- Take in what arrives. -/
def receive (r : Registry) : Arrival → Registry
  | .definition d => r.addDefinition d
  | .file path => r.registerFile path

/-- A registry lists the definitions that arrived, whatever files came between them. -/
theorem Lists.foldl_receive {r : Registry} {ds : List Definition} (h : r.Lists ds)
    (arrivals : List Arrival) :
    (arrivals.foldl receive r).Lists (ds ++ arrivals.filterMap Arrival.definition?) := by
  induction arrivals generalizing r ds with
  | nil => simpa using h
  | cons a arrivals ih =>
    cases a with
    | definition d => simpa [receive, Arrival.definition?] using ih (h.addDefinition d)
    | file path =>
      rw [List.foldl_cons, List.filterMap_cons_none rfl]
      exact ih (h.registerFile path)

/-- A definition brings its file with it. -/
theorem addDefinition_registerFile (r : Registry) (d : Definition) :
    (r.registerFile d.filePath).addDefinition d = r.addDefinition d := by
  by_cases h : d.filePath ∈ r.files <;> simp [addDefinition, registerFile, h]

/-- A registered file is one of those that a registry answers from. -/
theorem Holds.exists_registerFile {r : Registry} {files : List String} {ds : List Definition}
    (h : r.Holds files ds) (path : String) :
    ∃ files', (r.registerFile path).Holds files' ds ∧ path ∈ files' := by
  by_cases hpath : path ∈ files
  · refine ⟨files, ?_, hpath⟩
    rwa [Registry.registerFile, if_pos (h.files.symm ▸ hpath)]
  · exact ⟨files ++ [path], h.registerFile hpath, List.mem_append_right _ List.mem_cons_self⟩

/-- A registry answers from the definitions that arrived, and from some files. -/
theorem Holds.foldl_receive {r : Registry} {files : List String} {ds : List Definition}
    (h : r.Holds files ds) (arrivals : List Arrival) :
    ∃ files', (arrivals.foldl receive r).Holds files'
      (ds ++ arrivals.filterMap Arrival.definition?) := by
  induction arrivals generalizing r files ds with
  | nil => exact ⟨files, by simpa using h⟩
  | cons a arrivals ih =>
    cases a with
    | definition d =>
      obtain ⟨files', h', hd⟩ := h.exists_registerFile d.filePath
      have hadded := h'.addDefinition hd
      rw [addDefinition_registerFile] at hadded
      simpa [receive, Arrival.definition?] using ih hadded
    | file path =>
      obtain ⟨files', h', -⟩ := h.exists_registerFile path
      rw [List.foldl_cons, List.filterMap_cons_none rfl]
      exact ih h'

/-- The file that arrives is registered besides the others. -/
theorem mem_files_receive (r : Registry) (a : Arrival) (path : String) :
    path ∈ (r.receive a).files ↔ path ∈ r.files ∨ path = a.path := by
  have hregister : ∀ (r : Registry) (p : String),
      path ∈ (r.registerFile p).files ↔ path ∈ r.files ∨ path = p := by
    intro r p
    by_cases h : p ∈ r.files
    · rw [registerFile, if_pos h]
      exact ⟨.inl, fun hor => hor.elim id fun heq => heq ▸ h⟩
    · simp [registerFile, h]
  cases a with
  | definition d => exact hregister _ d.filePath
  | file p => exact hregister r p

/-- The registered files are those that arrived. -/
theorem mem_files_foldl_receive (r : Registry) (arrivals : List Arrival) (path : String) :
    path ∈ (arrivals.foldl receive r).files ↔
      path ∈ r.files ∨ path ∈ arrivals.map Arrival.path := by
  induction arrivals generalizing r with
  | nil => simp
  | cons a arrivals ih =>
    rw [List.foldl_cons, ih, mem_files_receive, or_assoc, List.map_cons, List.mem_cons]

/--
Every look-up of definitions is a filter of the list of those that arrived. Look-up by qualified
name, by name and by file keeps their order. The walk below a name comes to an end, and the
definitions with given leading or trailing segments are found as often as they arrived. The trie has
a node for the root and one for every non-empty leading part of a qualified name.
-/
theorem lookups_eq_filters (arrivals : List Arrival) (name path : String) :
    let r := arrivals.foldl receive Registry.empty
    let ds := arrivals.filterMap Arrival.definition?
    r.qualified name = ds.filter (nameSegments ·.qualifiedName = nameSegments name) ∧
    (∀ i, r.trie.find? (nameSegments name) = some i →
      (r.trie.visits r.trie.size ([i], [])).1 = []) ∧
    (r.below name).Perm
      (ds.filter fun d => nameSegments name <+: nameSegments d.qualifiedName) ∧
    (r.endingWith name).Perm
      (if nameSegments name = [] then []
        else ds.filter fun d => nameSegments name <:+ nameSegments d.qualifiedName) ∧
    r.named name = ds.filter (·.name = name) ∧
    r.namedIn path name = ds.filter (fun d => d.filePath = path ∧ d.name = name) ∧
    r.inFile path = ds.filter (·.filePath = path) ∧
    r.trieSize = 1 + ((ds.flatMap fun d => (nameSegments d.qualifiedName).inits).filter
      (· ≠ [])).dedup.length := by
  intro r ds
  have h : r.Lists ds := Lists.empty.foldl_receive arrivals
  obtain ⟨ps, htrie⟩ := h.trie
  refine ⟨h.qualified name, fun i hi => (htrie.visits_size hi).1, h.below_perm name, ?_,
    h.named name, h.namedIn path name, h.inFile path, h.trieSize_eq⟩
  split
  · next hnil =>
    rw [Registry.endingWith, hnil]
    exact .refl _
  · next hne => exact h.endingWith_perm hne

end Registry

end CodeGraph
