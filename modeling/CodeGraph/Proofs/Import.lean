import CodeGraph.Import
import CodeGraph.Proofs.Packages

/-!
# What imports lead to

Every target of a resolved import is a registered file other than the importer, and every name or
wildcard that an import binds belongs to a target that the file has an edge to. So whoever follows
the import map follows edges between files.

## Main definitions

* `ResolvedFile.targetsOf`: the targets of an import definition.
* `ResolvedFile.offers`: all names that the imports of a file would bind, in order.
* `ImportMap.LeadsTo`: a binding or wildcard of one file leads to another.
* `Imports.Hop`: the imports of one file lead to another.

## Main results

* `Registry.mem_resolveImport_cases`: the ways in which imports get targets.
* `Registry.Holds.sound_of_mem_resolveImport`: targets are registered, and bindings belong to them.
* `Registry.paired_of_mem_resolveImport`: targets are trusted as their strategies are.
* `ResolvedFile.ofParsed_induction`: what each import keeps holds of the imports of a file.
* `Imports.binding?_map`: the first import of a name counts.
* `Imports.hop_of_binding?`, `Imports.hop_of_mem_wildcards`: the import map follows edges.
* `Imports.exists_relationship_of_hop`: an edge between files with nodes is a relationship.
-/

namespace CodeGraph

namespace Registry.Holds

variable {r : Registry} {files : List String} {ds : List Definition}

/-! ### Targets of imports -/

/-- A module file is registered, and is not the importer. -/
theorem mem_of_moduleFile? (h : r.Holds files ds) {importer base file : String}
    (hfile : r.moduleFile? importer base = some file) : file ∈ files ∧ file ≠ importer := by
  have hfound := List.find?_some hfile
  rw [Bool.and_eq_true] at hfound
  exact ⟨(h.hasFile_iff file).mp hfound.2, of_decide_eq_true hfound.1⟩

/-- A submodule is registered, and is not the importer. -/
theorem mem_of_submodule? (h : r.Holds files ds) {importer base name : String}
    {package : Option Resolution} {res : Resolution}
    (hres : r.submodule? importer base package name = some res) :
    res.target ∈ files ∧ res.target ≠ importer := by
  unfold submodule? at hres
  split at hres
  · next file hfile =>
    obtain rfl := Option.some.inj hres
    exact h.mem_of_moduleFile? hfile
  · split at hres
    · cases hres
    · split at hres
      · cases hres
      · obtain ⟨file, hfile, rfl⟩ := Option.map_eq_some_iff.mp hres
        exact h.mem_of_moduleFile? hfile

end Registry.Holds

/--
A target of an import is what some candidates are resolved to, with names imported from there, or a
submodule of what its base path is resolved to, or a file of a package.
-/
theorem Registry.mem_resolveImport_cases {r : Registry} {importer language : String}
    {spec : ImportSpec} {t : ImportTarget} (ht : t ∈ r.resolveImport importer language spec) :
    (∃ candidates family allowBasename res names,
      r.resolvePath importer candidates family allowBasename = some res ∧
        t = .ofNames res names) ∨
    (∃ base n, r.namedSubmodule? importer base
      (r.resolvePath importer (pythonCandidates base) "python") n = some t) ∨
    ∃ directory, t ∈ r.resolvePackage importer directory := by
  have hone : ∀ {candidates family allowBasename names},
      t ∈ ((r.resolvePath importer candidates family allowBasename).map
        (ImportTarget.ofNames · names)).toList →
      ∃ candidates family allowBasename res names,
        r.resolvePath importer candidates family allowBasename = some res ∧
          t = .ofNames res names := by
    intro candidates family allowBasename names hmem
    obtain ⟨res, hres, rfl⟩ := Option.map_eq_some_iff.mp (Option.mem_toList.mp hmem)
    exact ⟨_, _, _, res, names, hres, rfl⟩
  unfold resolveImport at ht
  split at ht
  · -- of several targets all but the last are submodules
    unfold resolvePython at ht
    dsimp only at ht
    split at ht
    · next p hp =>
      split at ht
      · rcases List.mem_append.mp ht with ht | ht
        · obtain ⟨n, -, hn⟩ := List.mem_filterMap.mp ht
          exact .inr (.inl ⟨pythonBase importer spec.moduleName spec.level, n, hp ▸ hn⟩)
        · exact .inl ⟨_, _, _, p, _, hp, List.mem_singleton.mp ht⟩
      · obtain ⟨n, -, hn⟩ := List.mem_filterMap.mp ht
        exact .inr (.inl ⟨pythonBase importer spec.moduleName spec.level, n, hp ▸ hn⟩)
    · obtain ⟨n, -, hn⟩ := List.mem_filterMap.mp ht
      exact .inr (.inl ⟨_, n, hn⟩)
  · split at ht
    · unfold resolveJava at ht
      split at ht
      · exact .inr (.inr ⟨_, ht⟩)
      · exact .inl (hone ht)
    · exact .inl (hone ht)

/-- A target is a registered file other than the importer, and its bindings belong to it. -/
structure ImportTarget.Sound (importer : String) (files : List String) (t : ImportTarget) :
    Prop where
  target : t.resolution.target ∈ files ∧ t.resolution.target ≠ importer
  bindings : ∀ b ∈ t.bindings, b.targetFile = t.resolution.target

/-- A registered module with the names imported from it. -/
theorem ImportTarget.sound_ofNames {importer : String} {files : List String} {res : Resolution}
    (h : res.target ∈ files ∧ res.target ≠ importer) (names : List ImportedName) :
    (ImportTarget.ofNames res names).Sound importer files := by
  refine ⟨h, fun b hb => ?_⟩
  obtain ⟨n, -, hn⟩ := List.mem_filterMap.mp hb
  unfold ImportedName.binding? at hn
  split at hn
  · cases hn
  · obtain ⟨l, -, rfl⟩ := Option.map_eq_some_iff.mp hn
    rfl

namespace Registry.Holds

variable {r : Registry} {files : List String} {ds : List Definition}

/-- The target of a submodule is sound. -/
theorem sound_of_namedSubmodule? (h : r.Holds files ds) {importer base : String}
    {package : Option Resolution} {n : ImportedName} {t : ImportTarget}
    (ht : r.namedSubmodule? importer base package n = some t) : t.Sound importer files := by
  unfold namedSubmodule? at ht
  obtain ⟨name, -, ht⟩ := Option.bind_eq_some_iff.mp ht
  obtain ⟨-, ht⟩ := Option.ite_none_left_eq_some.mp ht
  obtain ⟨file, hfile, ht⟩ := Option.bind_eq_some_iff.mp ht
  obtain rfl := Option.some.inj ht
  refine ⟨h.mem_of_submodule? hfile, fun b hb => ?_⟩
  obtain rfl := List.mem_singleton.mp hb
  rfl

/-- The files of a package are sound targets. -/
theorem sound_of_mem_resolvePackage (h : r.Holds files ds) {importer directory : String}
    {t : ImportTarget} (ht : t ∈ r.resolvePackage importer directory) : t.Sound importer files := by
  rcases r.resolvePackage_eq importer directory with ⟨hnone, -⟩ | hsome
  · rw [hnone] at ht
    cases ht
  · obtain ⟨suffix, first, rest, hmembers, -, htargets⟩ := hsome
    rw [htargets] at ht
    obtain ⟨m, hm, rfl⟩ := List.mem_map.mp ht
    obtain ⟨hfile, -, hother, -⟩ := mem_packageMembers.mp (hmembers ▸ hm)
    refine ⟨⟨h.files ▸ hfile, hother⟩, fun b hb => ?_⟩
    cases hb

/-- Every target of an import is another registered file, and its bindings belong to it. -/
theorem sound_of_mem_resolveImport (h : r.Holds files ds) {importer language : String}
    {spec : ImportSpec} {t : ImportTarget} (ht : t ∈ r.resolveImport importer language spec) :
    t.Sound importer files := by
  rcases mem_resolveImport_cases ht with ⟨_, _, _, res, names, hres, rfl⟩ | ⟨base, n, hn⟩ |
    ⟨directory, hmember⟩
  · exact ImportTarget.sound_ofNames (h.mem_of_resolvePath hres) names
  · exact h.sound_of_namedSubmodule? hn
  · exact h.sound_of_mem_resolvePackage hmember

end Registry.Holds

namespace Registry

variable {r : Registry} {importer : String}

/-- A submodule is trusted as its strategy is, if its package is. -/
theorem paired_of_submodule? {base name : String} {package : Option Resolution}
    (hpackage : ∀ p, package = some p → p.Paired) {res : Resolution}
    (hres : r.submodule? importer base package name = some res) : res.Paired := by
  unfold submodule? at hres
  split at hres
  · obtain rfl := Option.some.inj hres
    exact Resolution.paired_found _ _
  · split at hres
    · cases hres
    · next p =>
      split at hres
      · cases hres
      · obtain ⟨file, -, rfl⟩ := Option.map_eq_some_iff.mp hres
        exact hpackage p rfl

/-- Every target of an import is trusted as its strategy is. -/
theorem paired_of_mem_resolveImport {language : String} {spec : ImportSpec} {t : ImportTarget}
    (ht : t ∈ r.resolveImport importer language spec) : t.resolution.Paired := by
  rcases mem_resolveImport_cases ht with ⟨_, _, _, res, names, hres, rfl⟩ | ⟨base, n, hn⟩ |
    ⟨directory, hmember⟩
  · exact paired_of_resolvePath hres
  · unfold namedSubmodule? at hn
    obtain ⟨name, -, hn⟩ := Option.bind_eq_some_iff.mp hn
    obtain ⟨-, hn⟩ := Option.ite_none_left_eq_some.mp hn
    obtain ⟨res, hres, hn⟩ := Option.bind_eq_some_iff.mp hn
    obtain rfl := Option.some.inj hn
    exact paired_of_submodule? (fun p hp => paired_of_resolvePath hp) hres
  · rcases r.resolvePackage_eq importer directory with ⟨hnone, -⟩ | hsome
    · rw [hnone] at hmember
      cases hmember
    · obtain ⟨_, _, _, -, -, htargets⟩ := hsome
      rw [htargets] at hmember
      obtain ⟨m, -, rfl⟩ := List.mem_map.mp hmember
      exact Resolution.paired_found _ _

end Registry

/-! ### Imports of one file -/

/-- Of several bindings of a name the first one counts. -/
theorem FileImports.get?_bindings_foldl_addBinding (f : FileImports) (bs : List ImportBinding)
    (name : String) :
    (bs.foldl addBinding f).bindings.get? name =
      (f.bindings.get? name).or (bs.find? (·.localName = name)) := by
  induction bs generalizing f with
  | nil => simp
  | cons b bs ih =>
    rw [List.foldl_cons, ih, addBinding, OrderedMap.get?_insertNew, List.find?_cons]
    by_cases h : name = b.localName
    · subst h
      cases f.bindings.get? b.localName <;> simp
    · simp [h, Ne.symm h]

/-- A target adds its bindings after the others. -/
theorem FileImports.get?_bindings_add_eq (f : FileImports) (t : ImportTarget) (name : String) :
    (f.add t).bindings.get? name =
      (f.bindings.get? name).or (t.bindings.find? (·.localName = name)) := by
  rw [← get?_bindings_foldl_addBinding]
  unfold add addWildcard
  dsimp only
  split
  · split <;> rfl
  · rfl

/-- A bound name was bound before or belongs to the target. -/
theorem FileImports.get?_bindings_add {f : FileImports} {t : ImportTarget} {name : String}
    {b : ImportBinding} (h : (f.add t).bindings.get? name = some b) :
    f.bindings.get? name = some b ∨ b ∈ t.bindings := by
  rw [get?_bindings_add_eq, Option.or_eq_some_iff] at h
  rcases h with hold | ⟨-, hnew⟩
  · exact .inl hold
  · exact .inr (List.mem_of_find?_eq_some hnew)

/-- Several targets add their bindings in order. -/
theorem FileImports.get?_bindings_foldl_add (f : FileImports) (ts : List ImportTarget)
    (name : String) :
    (ts.foldl add f).bindings.get? name =
      (f.bindings.get? name).or
        ((ts.flatMap ImportTarget.bindings).find? (·.localName = name)) := by
  induction ts generalizing f with
  | nil => simp
  | cons t ts ih =>
    rw [List.foldl_cons, ih, get?_bindings_add_eq, List.flatMap_cons, List.find?_append,
      Option.or_assoc]

/-- A wildcard was there before or is the target. -/
theorem FileImports.mem_wildcards_add {f : FileImports} {t : ImportTarget} {w : String}
    (h : w ∈ (f.add t).wildcards) : w ∈ f.wildcards ∨ w = t.resolution.target := by
  have hfold : ∀ (bs : List ImportBinding) (f : FileImports),
      (bs.foldl addBinding f).wildcards = f.wildcards := by
    intro bs
    induction bs with
    | nil => exact fun _ => rfl
    | cons x bs ih => exact fun f => ih _
  unfold add at h
  dsimp only at h
  split at h
  · unfold addWildcard at h
    split at h
    · exact .inl (hfold _ _ ▸ h)
    · rcases List.mem_append.mp h with h | h
      · exact .inl (hfold _ _ ▸ h)
      · exact .inr (List.mem_singleton.mp h)
  · exact .inl (hfold _ _ ▸ h)

/-- Recording a target changes the edge to it, and no other one. -/
theorem ImportEdges.get?_add (edges : ImportEdges) (moduleName : String) (t : ImportTarget)
    (x : String) :
    (edges.add moduleName t).get? x = if x = t.resolution.target then
      some (match edges.get? t.resolution.target with
        | none => ⟨moduleName, t.resolution.confidence, t.resolution.strategy,
            t.bindings.map ImportBinding.takenName⟩
        | some e => e.merge (t.bindings.map ImportBinding.takenName) t.resolution)
    else edges.get? x := by
  unfold ImportEdges.add
  dsimp only
  generalize edges.get? t.resolution.target = old
  cases old with
  | none => simp only [OrderedMap.get?_insert]
  | some e => simp only [OrderedMap.get?_insert]

/-- Recording a target keeps the targets of the edges different. -/
theorem ImportEdges.nodup_keys_add {edges : ImportEdges} (h : edges.keys.Nodup)
    (moduleName : String) (t : ImportTarget) : (edges.add moduleName t).keys.Nodup := by
  unfold ImportEdges.add
  dsimp only
  split <;> exact OrderedMap.nodup_keys_insert h _ _

/-- Recording a target adds it to the targets of the edges. -/
theorem ImportEdges.contains_add (edges : ImportEdges) (moduleName : String) (t : ImportTarget)
    (x : String) :
    (edges.add moduleName t).contains x = true ↔
      edges.contains x = true ∨ x = t.resolution.target := by
  rw [OrderedMap.contains, OrderedMap.contains, ImportEdges.get?_add]
  by_cases hx : x = t.resolution.target <;> simp [hx]

/-- What a file binds belongs to other registered files that it has edges to. -/
structure ResolvedFile.Linked (files : List String) (f : ResolvedFile) : Prop where
  binding : ∀ name b, f.bound.bindings.get? name = some b → f.edges.contains b.targetFile = true
  wildcard : ∀ t ∈ f.bound.wildcards, f.edges.contains t = true
  registered : ∀ t, f.edges.contains t = true → t ∈ files ∧ t ≠ f.path

namespace ResolvedFile

variable {files : List String} {f : ResolvedFile}

/-- The targets of an import definition of a file. -/
def targetsOf (r : Registry) (path language : String) (d : Definition) : List ImportTarget :=
  d.importSpec.toList.flatMap (r.resolveImport path language)

/-- An import adds its targets to bindings and edges, also if it has none. -/
theorem addImport_fields (r : Registry) (language : String) (f : ResolvedFile) (d : Definition) :
    (addImport r language f d).path = f.path ∧
    (addImport r language f d).bound =
      (targetsOf r f.path language d).foldl FileImports.add f.bound ∧
    (addImport r language f d).edges =
      (targetsOf r f.path language d).foldl (fun es t => es.add d.name t) f.edges := by
  unfold addImport targetsOf
  cases d.importSpec with
  | none => exact ⟨rfl, rfl, rfl⟩
  | some spec =>
    rw [Option.toList_some, List.flatMap_singleton]
    dsimp only [add]
    split
    · next hnone =>
      rw [List.isEmpty_iff.mp hnone]
      exact ⟨rfl, rfl, rfl⟩
    · exact ⟨rfl, rfl, rfl⟩

/-- Recording an import does not change whose imports they are. -/
theorem path_addImport (r : Registry) (language : String) (f : ResolvedFile) (d : Definition) :
    (addImport r language f d).path = f.path :=
  (addImport_fields r language f d).1

/-- Recording an import with sound targets keeps a file linked. -/
theorem Linked.addImport (h : f.Linked files) {r : Registry} {language : String} {d : Definition}
    (ht : ∀ t ∈ targetsOf r f.path language d, t.Sound f.path files) :
    (addImport r language f d).Linked files := by
  have hfold : ∀ (ts : List ImportTarget) (g : ResolvedFile), g.Linked files →
      (∀ t ∈ ts, t.Sound g.path files) →
      ({ g with
        bound := ts.foldl FileImports.add g.bound
        edges := ts.foldl (fun es t => es.add d.name t) g.edges } : ResolvedFile).Linked
        files := by
    intro ts
    induction ts with
    | nil => exact fun _ hg _ => hg
    | cons t ts ih =>
      intro g hg hts
      obtain ⟨htarget, hbindings⟩ := hts t List.mem_cons_self
      refine ih { g with bound := g.bound.add t, edges := g.edges.add d.name t } ?_
        fun t' ht' => hts t' (List.mem_cons_of_mem t ht')
      refine ⟨fun name b hb => ?_, fun w hw => ?_, fun x hx => ?_⟩
      · rw [ImportEdges.contains_add]
        rcases FileImports.get?_bindings_add hb with hold | hnew
        · exact .inl (hg.binding name b hold)
        · exact .inr (hbindings b hnew)
      · rw [ImportEdges.contains_add]
        rcases FileImports.mem_wildcards_add hw with hold | hnew
        · exact .inl (hg.wildcard w hold)
        · exact .inr hnew
      · rcases (ImportEdges.contains_add _ _ _ x).mp hx with hold | rfl
        · exact hg.registered x hold
        · exact htarget
  obtain ⟨hpath, hbound, hedges⟩ := addImport_fields r language f d
  obtain ⟨hbinding, hwildcard, hregistered⟩ := hfold _ f h ht
  rw [← hbound, ← hedges] at hbinding
  rw [← hbound, ← hedges] at hwildcard
  rw [← hedges] at hregistered
  exact ⟨hbinding, hwildcard, hpath ▸ hregistered⟩

/-- Resolving the imports of a file does not change whose imports they are. -/
theorem path_ofParsed (r : Registry) (path : String) (parsed : ParsedFile) :
    (ofParsed r path parsed).path = path :=
  List.foldlRecOn (motive := fun f : ResolvedFile => f.path = path) _ _ rfl
    fun f hpath d _ => (path_addImport r parsed.language f d).trans hpath

/-- What each import keeps, with those before it, holds of the resolved imports of a file. -/
theorem ofParsed_induction {P : List Definition → ResolvedFile → Prop} {r : Registry}
    {path : String} {parsed : ParsedFile} (hstart : P [] { path })
    (hstep : ∀ before, ∀ d ∈ parsed.imports, ∀ f : ResolvedFile, f.path = path → P before f →
      P (before ++ [d]) (addImport r parsed.language f d)) :
    P parsed.imports (ofParsed r path parsed) := by
  have hboth : (ofParsed r path parsed).path = path ∧ P parsed.imports (ofParsed r path parsed) :=
    foldl_prefix_induction (P := fun before f => f.path = path ∧ P before f) ⟨rfl, hstart⟩
      fun before d hd f ⟨hpath, hf⟩ =>
        ⟨(path_addImport r parsed.language f d).trans hpath, hstep before d hd f hpath hf⟩
  exact hboth.2

/-- The resolved imports of a file are linked. -/
theorem linked_ofParsed {r : Registry} {ds : List Definition} (h : r.Holds files ds)
    (path : String) (parsed : ParsedFile) : (ofParsed r path parsed).Linked files := by
  have hstart : ({ path } : ResolvedFile).Linked files :=
    ⟨fun _ _ hb => (nomatch hb), fun _ hw => (nomatch hw), fun _ hx => (nomatch hx)⟩
  refine ofParsed_induction (P := fun _ f => f.Linked files) hstart fun _ d _ f _ hf => ?_
  refine hf.addImport fun t ht => ?_
  obtain ⟨spec, -, ht⟩ := List.mem_flatMap.mp ht
  exact h.sound_of_mem_resolveImport ht

/-- All names that an import of a file would bind, in order. -/
def offersOf (r : Registry) (path language : String) (d : Definition) : List ImportBinding :=
  d.importSpec.toList.flatMap fun spec =>
    (r.resolveImport path language spec).flatMap ImportTarget.bindings

/-- All names that the imports of a file would bind, in order. -/
def offers (r : Registry) (path : String) (p : ParsedFile) : List ImportBinding :=
  p.imports.flatMap (offersOf r path p.language)

/-- An import adds its bindings after the others. -/
theorem get?_bindings_addImport (r : Registry) (language : String) (f : ResolvedFile)
    (d : Definition) (name : String) :
    (addImport r language f d).bound.bindings.get? name =
      (f.bound.bindings.get? name).or
        ((offersOf r f.path language d).find? (·.localName = name)) := by
  rw [(addImport_fields r language f d).2.1, FileImports.get?_bindings_foldl_add, offersOf,
    targetsOf, List.flatMap_assoc]

/-- A name of a file is bound by the first of its imports that would bind it. -/
theorem get?_bindings_ofParsed (r : Registry) (path : String) (p : ParsedFile) (name : String) :
    (ofParsed r path p).bound.bindings.get? name =
      (offers r path p).find? (·.localName = name) := by
  refine ofParsed_induction (P := fun before f => f.bound.bindings.get? name =
    (before.flatMap (offersOf r path p.language)).find? (·.localName = name)) rfl
    fun before d _ f hpath hf => ?_
  rw [get?_bindings_addImport, hf, hpath, List.flatMap_append, List.flatMap_singleton,
    List.find?_append]

end ResolvedFile

/-! ### Imports of all files -/

/-- The parsed files are put in order. -/
theorem ParsedFiles.sorted_perm (files : ParsedFiles) : (sorted files).Perm files.toList :=
  Sorting.sort_perm _ _

theorem ParsedFiles.mem_sorted {files : ParsedFiles} {x : String × ParsedFile} :
    x ∈ sorted files ↔ x ∈ files.toList :=
  Sorting.mem_sort

/-- A binding or a wildcard of one file leads to another. -/
def ImportMap.LeadsTo (m : ImportMap) (path target : String) : Prop :=
  (∃ name b, m.binding? path name = some b ∧ b.targetFile = target) ∨ target ∈ m.wildcards path

namespace Imports

/-- The imports of a file lead to another. -/
def Hop (i : Imports) (path target : String) : Prop :=
  ∃ f ∈ i.files, f.path = path ∧ f.edges.contains target = true

variable {r : Registry} {files : List String} {ds : List Definition} {parsed : ParsedFiles}

/-- The resolved imports are those of the parsed files. -/
theorem mem_ofFiles_iff {f : ResolvedFile} :
    f ∈ (ofFiles r parsed).files ↔
      ∃ path p, (path, p) ∈ parsed.toList ∧ f = .ofParsed r path p := by
  constructor
  · intro hf
    obtain ⟨⟨path, p⟩, hmem, rfl⟩ := List.mem_map.mp hf
    exact ⟨path, p, ParsedFiles.mem_sorted.mp hmem, rfl⟩
  · rintro ⟨path, p, hmem, rfl⟩
    exact List.mem_map.mpr ⟨(path, p), ParsedFiles.mem_sorted.mpr hmem, rfl⟩

/-- The resolved imports of a parsed file are linked. -/
theorem exists_of_mem_ofFiles (h : r.Holds files ds) {f : ResolvedFile}
    (hf : f ∈ (ofFiles r parsed).files) :
    ∃ p, (f.path, p) ∈ parsed.toList ∧ f.Linked files := by
  obtain ⟨path, p, hmem, rfl⟩ := mem_ofFiles_iff.mp hf
  refine ⟨p, ?_, ResolvedFile.linked_ofParsed h path p⟩
  rw [ResolvedFile.path_ofParsed]
  exact hmem

/-- The imports are those of different files. -/
theorem nodup_paths (hnodup : parsed.keys.Nodup) :
    ((ofFiles r parsed).files.map ResolvedFile.path).Nodup := by
  have hpaths : (ofFiles r parsed).files.map ResolvedFile.path =
      (ParsedFiles.sorted parsed).map Prod.fst := by
    rw [ofFiles, List.map_map]
    exact List.map_congr_left fun x _ => ResolvedFile.path_ofParsed r x.1 x.2
  rw [hpaths]
  exact ((ParsedFiles.sorted_perm _).map Prod.fst).nodup_iff.mpr hnodup

/-- The import map lists what each file binds. -/
theorem map_ofFiles (hnodup : parsed.keys.Nodup) :
    (ofFiles r parsed).map = ⟨(ofFiles r parsed).files.map fun f => (f.path, f.bound)⟩ := by
  refine OrderedMap.ofList_eq_of_nodup ?_
  rw [List.map_map]
  exact nodup_paths hnodup

/-- What the import map says about a file comes from the file's imports. -/
theorem exists_of_get?_map (h : r.Holds files ds) (hnodup : parsed.keys.Nodup) {path : String}
    {bound : FileImports} (hget : (ofFiles r parsed).map.get? path = some bound) :
    ∃ f ∈ (ofFiles r parsed).files, f.path = path ∧ f.bound = bound ∧ f.Linked files := by
  have hmem := OrderedMap.mem_toList_of_get? hget
  rw [map_ofFiles hnodup] at hmem
  obtain ⟨f, hf, heq⟩ := List.mem_map.mp hmem
  obtain ⟨rfl, rfl⟩ := Prod.mk.inj heq
  obtain ⟨-, -, hlinked⟩ := exists_of_mem_ofFiles h hf
  exact ⟨f, hf, rfl, rfl, hlinked⟩

/-- The import map says of a parsed file what its imports bind. -/
theorem get?_map (hnodup : parsed.keys.Nodup) {path : String} {p : ParsedFile}
    (hp : parsed.get? path = some p) :
    (ofFiles r parsed).map.get? path = some (ResolvedFile.ofParsed r path p).bound := by
  have hfile : ResolvedFile.ofParsed r path p ∈ (ofFiles r parsed).files :=
    mem_ofFiles_iff.mpr ⟨path, p, OrderedMap.mem_toList_of_get? hp, rfl⟩
  have hkeys : (ofFiles r parsed).map.keys.Nodup := by
    rw [map_ofFiles hnodup, OrderedMap.keys, List.map_map]
    exact nodup_paths hnodup
  refine OrderedMap.get?_of_mem_toList hkeys ?_
  rw [map_ofFiles hnodup]
  refine List.mem_map.mpr ⟨_, hfile, ?_⟩
  rw [ResolvedFile.path_ofParsed]

/-- The import map binds a name of a parsed file as the first of its imports would. -/
theorem binding?_map (hnodup : parsed.keys.Nodup) {path : String} {p : ParsedFile}
    (hp : parsed.get? path = some p) (name : String) :
    (ofFiles r parsed).map.binding? path name =
      (ResolvedFile.offers r path p).find? (·.localName = name) := by
  rw [ImportMap.binding?, get?_map hnodup hp, Option.bind_some,
    ResolvedFile.get?_bindings_ofParsed]

/-- A binding of a file leads to a file that its imports lead to. -/
theorem hop_of_binding? (h : r.Holds files ds) (hnodup : parsed.keys.Nodup)
    {path name : String} {b : ImportBinding}
    (hb : (ofFiles r parsed).map.binding? path name = some b) :
    (ofFiles r parsed).Hop path b.targetFile := by
  obtain ⟨bound, hget, hb⟩ := Option.bind_eq_some_iff.mp hb
  obtain ⟨f, hf, hpath, rfl, hlinked⟩ := exists_of_get?_map h hnodup hget
  exact ⟨f, hf, hpath, hlinked.binding name b hb⟩

/-- A wildcard of a file is a file that its imports lead to. -/
theorem hop_of_mem_wildcards (h : r.Holds files ds) (hnodup : parsed.keys.Nodup)
    {path target : String} (ht : target ∈ (ofFiles r parsed).map.wildcards path) :
    (ofFiles r parsed).Hop path target := by
  cases hget : (ofFiles r parsed).map.get? path with
  | none =>
    rw [ImportMap.wildcards, OrderedMap.getD, hget] at ht
    cases ht
  | some bound =>
    rw [ImportMap.wildcards, OrderedMap.getD, hget] at ht
    obtain ⟨f, hf, hpath, rfl, hlinked⟩ := exists_of_get?_map h hnodup hget
    exact ⟨f, hf, hpath, hlinked.wildcard target ht⟩

/-- The import map leads along hops. -/
theorem hop_of_leadsTo (h : r.Holds files ds) (hnodup : parsed.keys.Nodup) {path target : String}
    (hlead : (ofFiles r parsed).map.LeadsTo path target) : (ofFiles r parsed).Hop path target := by
  rcases hlead with ⟨name, b, hb, rfl⟩ | hwildcard
  · exact hop_of_binding? h hnodup hb
  · exact hop_of_mem_wildcards h hnodup hwildcard

/-- The two files of a hop are known, and different: one is parsed, the other registered. -/
theorem Hop.mem (h : r.Holds files ds) {path target : String}
    (hop : (ofFiles r parsed).Hop path target) :
    (∃ p, (path, p) ∈ parsed.toList) ∧ target ∈ files ∧ target ≠ path := by
  obtain ⟨f, hf, rfl, hedge⟩ := hop
  obtain ⟨p, hp, hlinked⟩ := exists_of_mem_ofFiles h hf
  exact ⟨⟨p, hp⟩, hlinked.registered target hedge⟩

/-- A hop between files with nodes is a relationship. -/
theorem exists_relationship_of_hop {i : Imports} {fileIds : OrderedMap String String}
    {path target sourceId targetId : String} (hop : i.Hop path target)
    (hs : fileIds.get? path = some sourceId) (ht : fileIds.get? target = some targetId) :
    ∃ rel ∈ i.relationships fileIds, rel.kind = .imports ∧ rel.source = sourceId ∧
      rel.target = targetId := by
  obtain ⟨f, hf, rfl, hedge⟩ := hop
  obtain ⟨edge, hedge⟩ := Option.isSome_iff_exists.mp hedge
  refine ⟨.between .imports sourceId targetId edge.properties, ?_, rfl, rfl, rfl⟩
  refine List.mem_flatMap.mpr ⟨f, hf, List.mem_filterMap.mpr
    ⟨(target, edge), OrderedMap.mem_toList_of_get? hedge, ?_⟩⟩
  simp only [relationship?, hs, ht]
  rfl

/-- A relationship of imports connects files with nodes. -/
theorem exists_of_mem_relationships {i : Imports} {fileIds : OrderedMap String String}
    {rel : Relationship} (h : rel ∈ i.relationships fileIds) :
    ∃ path target props, fileIds.get? path = some rel.source ∧
      fileIds.get? target = some rel.target ∧
      rel = .between .imports rel.source rel.target props := by
  obtain ⟨f, -, hrel⟩ := List.mem_flatMap.mp h
  obtain ⟨⟨target, edge⟩, -, hrel⟩ := List.mem_filterMap.mp hrel
  obtain ⟨sourceId, hs, hrel⟩ := Option.bind_eq_some_iff.mp hrel
  obtain ⟨targetId, ht, hrel⟩ := Option.bind_eq_some_iff.mp hrel
  obtain rfl := Option.some.inj hrel
  exact ⟨f.path, target, edge.properties, hs, ht, rfl⟩

end Imports

end CodeGraph
