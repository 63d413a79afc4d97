import CodeGraph.Proofs.CallEdges
import CodeGraph.Proofs.Traits

/-!
# Imports are counted, and merged into one relationship for two files

One import may lead to several files, and several imports may lead to one file, found in different
ways. Each import moves the counter of all imports, and either that of the resolved ones or the list
of those left over; so these three agree. All resolutions from one file to another end up in one
relationship. It takes over confidence and strategy of a resolution that is trusted more, always
both, and so keeps a best one with its own strategy. Wherever the import map leads, there is such a
relationship.

## Main definitions

* `Engine.Resolves`: an import of a file that a run parses is resolved to another file.
* `Engine.importMap`: the import map of a run.
* `Graph.importsBetween`: the relationships of imports between the nodes of two files.
* `Resolution.Best`: a resolution with a best strategy among several with its target.
* `ImportEdges.Merges`: edges that merge the resolutions seen so far.
* `ResolvedFile.Counts`: the counters of a file agree.

## Main results

* `ImportEdges.Merges.add`, `ResolvedFile.merges_ofParsed`: the invariant of merging.
* `ResolvedFile.Counts.add`, `ResolvedFile.counts_ofParsed`: the invariant of counting.
* `Imports.total_ofFiles`, `Imports.total_eq`: imports are counted once.
* `Stages.Complete.hop_iff`: edges lead where imports are resolved to.
* `Stages.Complete.importsBetween_eq`: there is one relationship for each edge.
* `Engine.imports_accounted`: counts and relationships of imports of a run that returns.
-/

namespace CodeGraph

/-! ### Resolutions -/

/-- An import definition of a file is resolved to another file. -/
def Registry.Resolves (r : Registry) (path language : String) (d : Definition) (res : Resolution) :
    Prop :=
  ∃ spec, d.importSpec = some spec ∧ ∃ t ∈ r.resolveImport path language spec, t.resolution = res

/-- The resolutions of an import definition are those of its targets. -/
theorem Registry.resolves_iff (r : Registry) {path language : String} {d : Definition}
    {res : Resolution} : r.Resolves path language d res ↔
      ∃ t ∈ ResolvedFile.targetsOf r path language d, t.resolution = res := by
  constructor
  · rintro ⟨spec, hspec, t, ht, hres⟩
    exact ⟨t, List.mem_flatMap.mpr ⟨spec, Option.mem_toList.mpr hspec, ht⟩, hres⟩
  · rintro ⟨t, ht, hres⟩
    obtain ⟨spec, hspec, ht⟩ := List.mem_flatMap.mp ht
    exact ⟨spec, Option.mem_toList.mp hspec, t, ht, hres⟩

/-- An import of a parsed file is resolved to another file. -/
def Stages.Resolves (s : Stages) (path : String) (res : Resolution) : Prop :=
  ∃ f, (path, f) ∈ s.files ∧
    ∃ d ∈ f.imports, s.parsing.inventory.registry.Resolves path f.language d res

/-- An import of a file that a run parses is resolved to another file. -/
def Engine.Resolves (e : Engine) (request : Request) (i : Interruptions) (cache : Cache)
    (path : String) (res : Resolution) : Prop :=
  ∃ s, e.stages? request i cache = some s ∧ s.Resolves path res

/-- What the imports of the files that a run parses bind. -/
def Engine.importMap (e : Engine) (request : Request) (i : Interruptions) (cache : Cache) :
    ImportMap :=
  ((e.stages? request i cache).map fun s => (s.links e).imports.map).getD ∅

/-! ### Merging -/

/-- The resolution that an edge to a target keeps. -/
def ImportEdge.kept (e : ImportEdge) (target : String) : Resolution :=
  ⟨target, e.confidence, e.strategy⟩

/-- A resolution is one of several, and none with its target has a better strategy. -/
def Resolution.Best (seen : Resolution → Prop) (res : Resolution) : Prop :=
  seen res ∧ ∀ other, seen other → other.target = res.target →
    other.strategy.tenths ≤ res.strategy.tenths

/-- With a further resolution, the one that is trusted more is the best one. -/
theorem Resolution.Best.or {seen : Resolution → Prop} {old new : Resolution} (h : old.Best seen)
    (hold : old.Paired) (hnew : new.Paired) (htarget : old.target = new.target) :
    (if old.confidence.isLess new.confidence = true then new else old).Best
      fun res => seen res ∨ res = new := by
  have hless := hold.isLess_confidence_iff hnew
  obtain ⟨hseen, hbest⟩ := h
  split
  · next hlt =>
    refine ⟨.inr rfl, fun other hother hsame => ?_⟩
    rcases hother with hother | rfl
    · exact (hbest other hother (hsame.trans htarget.symm)).trans (hless.mp hlt).le
    · exact le_rfl
  · next hle =>
    refine ⟨.inl hseen, fun other hother hsame => ?_⟩
    rcases hother with hother | rfl
    · exact hbest other hother hsame
    · exact Nat.le_of_not_lt fun hlt => hle (hless.mpr hlt)

/-- A further import replaces what an edge keeps if it is trusted more. -/
theorem ImportEdge.kept_merge (e : ImportEdge) (names : List String) (res : Resolution) :
    (e.merge names res).kept res.target =
      if (e.kept res.target).confidence.isLess res.confidence = true then res
      else e.kept res.target := by
  by_cases hless : e.confidence.isLess res.confidence = true <;> simp [merge, kept, hless]

/--
The edges of a file lead to the targets seen so far. Each keeps a best resolution, with confidence
and strategy paired.
-/
structure ImportEdges.Merges (edges : ImportEdges) (seen : Resolution → Prop) : Prop where
  nodup : edges.keys.Nodup
  covers : ∀ res, seen res → edges.contains res.target = true
  best : ∀ target edge, edges.get? target = some edge → (edge.kept target).Best seen
  paired : ∀ target edge, edges.get? target = some edge → (edge.kept target).Paired

namespace ImportEdges.Merges

variable {edges : ImportEdges} {seen seen' : Resolution → Prop}

theorem congr (h : edges.Merges seen) (heq : ∀ res, seen res ↔ seen' res) :
    edges.Merges seen' := by
  obtain rfl : seen = seen' := funext fun res => propext (heq res)
  exact h

theorem empty : (∅ : ImportEdges).Merges fun _ => False :=
  ⟨List.nodup_nil, fun _ hres => hres.elim, fun _ _ hget => (nomatch hget),
    fun _ _ hget => (nomatch hget)⟩

/-- The edges lead where resolutions lead. -/
theorem contains_iff (h : edges.Merges seen) (target : String) :
    edges.contains target = true ↔ ∃ res, seen res ∧ res.target = target := by
  constructor
  · intro hcontains
    obtain ⟨edge, hedge⟩ := Option.isSome_iff_exists.mp hcontains
    exact ⟨_, (h.best target edge hedge).1, rfl⟩
  · rintro ⟨res, hseen, rfl⟩
    exact h.covers res hseen

/-- The edge to the target of a further resolution keeps the better one of the old and the new. -/
theorem best_add (h : edges.Merges seen) (moduleName : String) {t : ImportTarget}
    (ht : t.resolution.Paired) {edge : ImportEdge}
    (hedge : (edges.add moduleName t).get? t.resolution.target = some edge) :
    (edge.kept t.resolution.target).Best (fun res => seen res ∨ res = t.resolution) ∧
      (edge.kept t.resolution.target).Paired := by
  rw [ImportEdges.get?_add, if_pos rfl] at hedge
  obtain rfl := Option.some.inj hedge
  cases hold : edges.get? t.resolution.target with
  | none =>
    -- nothing was seen of this target
    have hnone : ∀ other, other.target = t.resolution.target → ¬seen other := by
      intro other hsame hseen
      have hcontains := h.covers other hseen
      rw [hsame, OrderedMap.contains, hold] at hcontains
      cases hcontains
    refine ⟨⟨.inr rfl, fun other hother hsame => ?_⟩, ht⟩
    rw [hother.resolve_left (hnone other hsame)]
    exact le_rfl
  | some old =>
    have hpaired := h.paired _ old hold
    dsimp only
    rw [ImportEdge.kept_merge]
    refine ⟨(h.best _ old hold).or hpaired ht rfl, ?_⟩
    split
    · exact ht
    · exact hpaired

/-- Recording a target merges its resolution. -/
theorem add (h : edges.Merges seen) (moduleName : String) {t : ImportTarget}
    (ht : t.resolution.Paired) :
    (edges.add moduleName t).Merges fun res => seen res ∨ res = t.resolution := by
  have hother : ∀ {x edge}, (edges.add moduleName t).get? x = some edge →
      x ≠ t.resolution.target → edges.get? x = some edge := by
    intro x edge hedge hx
    rwa [ImportEdges.get?_add, if_neg hx] at hedge
  refine ⟨ImportEdges.nodup_keys_add h.nodup moduleName _, fun res hres => ?_,
    fun x edge hedge => ?_, fun x edge hedge => ?_⟩
  · rw [ImportEdges.contains_add]
    rcases hres with hseen | rfl
    · exact .inl (h.covers res hseen)
    · exact .inr rfl
  · by_cases hx : x = t.resolution.target
    · exact hx ▸ (h.best_add moduleName ht (hx ▸ hedge)).1
    · obtain ⟨hseen, hbest⟩ := h.best x edge (hother hedge hx)
      refine ⟨.inl hseen, fun other hnew hsame => hbest other (hnew.resolve_right ?_) hsame⟩
      rintro rfl
      exact hx hsame.symm
  · by_cases hx : x = t.resolution.target
    · exact hx ▸ (h.best_add moduleName ht (hx ▸ hedge)).2
    · exact h.paired x edge (hother hedge hx)

/-- Recording the targets of an import merges their resolutions. -/
theorem foldl_add (h : edges.Merges seen) (moduleName : String) {ts : List ImportTarget}
    (hts : ∀ t ∈ ts, t.resolution.Paired) :
    (ts.foldl (fun es t => es.add moduleName t) edges).Merges
      fun res => seen res ∨ ∃ t ∈ ts, t.resolution = res := by
  induction ts generalizing edges seen with
  | nil => exact h.congr fun res => by simp
  | cons t ts ih =>
    have hfirst := h.add moduleName (hts t List.mem_cons_self)
    refine (ih hfirst fun t' ht' => hts t' (List.mem_cons_of_mem t ht')).congr fun res => ?_
    simp only [List.exists_mem_cons_iff, or_assoc, eq_comm]

end ImportEdges.Merges

namespace ResolvedFile

/-- Recording an import definition merges its resolutions. -/
theorem merges_addImport {r : Registry} {language : String} {f : ResolvedFile}
    {seen : Resolution → Prop} (h : f.edges.Merges seen) (d : Definition) :
    (addImport r language f d).edges.Merges
      fun res => seen res ∨ r.Resolves f.path language d res := by
  rw [(addImport_fields r language f d).2.2]
  refine (h.foldl_add d.name fun t ht => ?_).congr fun res => or_congr_right r.resolves_iff.symm
  obtain ⟨spec, -, ht⟩ := List.mem_flatMap.mp ht
  exact Registry.paired_of_mem_resolveImport ht

/-- The edges of a file merge the resolutions of its imports. -/
theorem merges_ofParsed (r : Registry) (path : String) (parsed : ParsedFile) :
    (ofParsed r path parsed).edges.Merges
      fun res => ∃ d ∈ parsed.imports, r.Resolves path parsed.language d res := by
  refine ofParsed_induction (P := fun before f => f.edges.Merges
    fun res => ∃ d ∈ before, r.Resolves path parsed.language d res)
    (ImportEdges.Merges.empty.congr fun res => by simp) fun before d _ f hpath hf => ?_
  refine (merges_addImport hf d).congr fun res => ?_
  rw [hpath]
  simp [or_and_right, exists_or]

/-! ### Counting -/

/-- The counters of a file have counted each of its imports, as resolved or left over. -/
structure Counts (f : ResolvedFile) (imports : Nat) : Prop where
  total : f.total = imports
  split : f.total = f.resolved + f.unresolved.length

/-- An import moves the total, and either the other counter or the list of what is left over. -/
theorem Counts.add {f : ResolvedFile} {n : Nat} (h : f.Counts n) (d : Definition)
    (spec : ImportSpec) (targets : List ImportTarget) : (f.add d spec targets).Counts (n + 1) := by
  dsimp only [ResolvedFile.add]
  split
  · refine ⟨congrArg (· + 1) h.total, ?_⟩
    rw [List.length_append, List.length_singleton, h.split]
    exact Nat.add_assoc _ _ 1
  · refine ⟨congrArg (· + 1) h.total, ?_⟩
    rw [h.split]
    exact Nat.add_right_comm _ _ 1

/-- An import that says what it imports is counted. -/
theorem Counts.addImport {f : ResolvedFile} {n : Nat} (h : f.Counts n) (r : Registry)
    (language : String) {d : Definition} (hd : d.importSpec.isSome = true) :
    (addImport r language f d).Counts (n + 1) := by
  obtain ⟨spec, hspec⟩ := Option.isSome_iff_exists.mp hd
  rw [ResolvedFile.addImport, hspec]
  exact h.add d spec _

/-- All imports of a file are counted. -/
theorem counts_ofParsed (r : Registry) (path : String) {parsed : ParsedFile}
    (h : parsed.Specified) : (ofParsed r path parsed).Counts parsed.imports.length := by
  refine ofParsed_induction (P := fun before f => f.Counts before.length) ⟨rfl, rfl⟩
    fun before d hd f _ hf => ?_
  rw [List.length_append, List.length_singleton]
  exact hf.addImport r parsed.language (h d hd)

end ResolvedFile

namespace Imports

/-- All import definitions of the parsed files are counted. -/
theorem total_ofFiles (r : Registry) {parsed : ParsedFiles}
    (h : ∀ path f, (path, f) ∈ parsed.toList → f.Specified) :
    (ofFiles r parsed).total = (parsed.toList.flatMap fun f => f.2.imports).length := by
  have hperm : (ParsedFiles.sorted parsed).Perm parsed.toList := ParsedFiles.sorted_perm _
  have hcounts : (ofFiles r parsed).files.map ResolvedFile.total =
      (ParsedFiles.sorted parsed).map fun f => f.2.imports.length := by
    rw [ofFiles, List.map_map]
    exact List.map_congr_left fun f hf =>
      (ResolvedFile.counts_ofParsed r f.1 (h f.1 f.2 (hperm.mem_iff.mp hf))).total
  rw [← (hperm.flatMap_right fun f => f.2.imports).length_eq, List.length_flatMap, ← hcounts]
  rfl

/-- If the counters of each file agree, every import is resolved or left over. -/
theorem total_eq {i : Imports}
    (h : ∀ f ∈ i.files, f.total = f.resolved + f.unresolved.length) :
    i.total = i.resolved + i.unresolved.length := by
  obtain ⟨files⟩ := i
  simp only [total, resolved, unresolved]
  induction files with
  | nil => rfl
  | cons f files ih =>
    have hf := h f List.mem_cons_self
    have hrest := ih fun f' hf' => h f' (List.mem_cons_of_mem f hf')
    simp only [List.map_cons, Count.total_cons, List.flatMap_cons, List.length_append]
    omega

/-! ### Relationships -/

/-- The pairs of files that edges connect. -/
def ends (i : Imports) : List (String × String) :=
  i.files.flatMap fun f => f.edges.keys.map fun target => (f.path, target)

/-- Edges connect different pairs of files. -/
theorem nodup_ends (r : Registry) {parsed : ParsedFiles} (hnodup : parsed.keys.Nodup) :
    (ofFiles r parsed).ends.Nodup := by
  refine List.nodup_flatMap.mpr ⟨fun f hf => ?_, ?_⟩
  · obtain ⟨path, p, -, rfl⟩ := mem_ofFiles_iff.mp hf
    exact (ResolvedFile.merges_ofParsed r path p).nodup.map (Prod.mk_right_injective _)
  · have hpaths := List.pairwise_map.mp (nodup_paths (r := r) hnodup)
    refine hpaths.imp fun hne x hx hx' => hne ?_
    obtain ⟨t, -, rfl⟩ := List.mem_map.mp hx
    obtain ⟨t', -, heq⟩ := List.mem_map.mp hx'
    exact (Prod.mk.inj heq).1.symm

/-- The edges connect files that imports lead from and to. -/
theorem mem_ends_iff {i : Imports} {path target : String} :
    (path, target) ∈ i.ends ↔ i.Hop path target := by
  constructor
  · intro hmem
    obtain ⟨f, hf, hmem⟩ := List.mem_flatMap.mp hmem
    obtain ⟨t, ht, heq⟩ := List.mem_map.mp hmem
    obtain ⟨rfl, rfl⟩ := Prod.mk.inj heq
    exact ⟨f, hf, rfl, (OrderedMap.contains_iff_mem_keys _ _).mpr ht⟩
  · rintro ⟨f, hf, rfl, hedge⟩
    exact List.mem_flatMap.mpr ⟨f, hf, List.mem_map.mpr
      ⟨target, (OrderedMap.contains_iff_mem_keys _ _).mp hedge, rfl⟩⟩

end Imports

/-! ### Relationships of a run -/

/-- It can be decided whether the node under an identifier is that of a file. -/
instance (g : Graph) (path id : String) : Decidable (g.IsFile path id) :=
  decidable_of_iff ((g.node? id).any fun n =>
      n.label = .file ∧ n.properties.get? "path" = some (.text path)) <| by
    simp [Graph.IsFile, Option.any_eq_true]

/-- The relationships of imports that lead from the node of one file to that of another. -/
def Graph.importsBetween (g : Graph) (path target : String) : List Relationship :=
  (g.ofKind .imports).filter fun r => g.IsFile path r.source ∧ g.IsFile target r.target

namespace Stages

variable {s : Stages} {os : List FileOutcome} {e : Engine}

/-- The nodes of files are those of the visible ones. -/
theorem Complete.isFile_iff (h : s.Complete os) (hinj : s.Injective e) {path id : String} :
    (s.graph e).IsFile path id ↔ path ∈ s.plan.visible ∧ id = Containment.fileId path := by
  constructor
  · rintro ⟨n, hn, hlabel, hpath⟩
    have hmem : n ∈ (s.graph e).nodes := List.mem_of_find?_eq_some hn
    obtain ⟨path', hvisible, rfl⟩ := h.exists_of_mem_nodes hinj hmem hlabel
    rw [get?_path_described] at hpath
    obtain rfl : path' = path := by simpa [PropertyValue.text] using hpath
    refine ⟨hvisible, ?_⟩
    have hid := List.find?_some hn
    exact (of_decide_eq_true hid).symm.trans (Node.id_described _ _)
  · rintro ⟨hvisible, rfl⟩
    exact h.isFile hinj hvisible

/-- Imports are resolved to where the edges lead. -/
theorem hop_iff {path target : String} :
    (s.links e).imports.Hop path target ↔ ∃ res, s.Resolves path res ∧ res.target = target := by
  constructor
  · rintro ⟨f, hf, rfl, hedge⟩
    obtain ⟨path, p, hp, rfl⟩ := Imports.mem_ofFiles_iff.mp hf
    obtain ⟨res, hseen, htarget⟩ :=
      ((ResolvedFile.merges_ofParsed _ path p).contains_iff target).mp hedge
    rw [ResolvedFile.path_ofParsed]
    exact ⟨res, ⟨p, hp, hseen⟩, htarget⟩
  · rintro ⟨res, ⟨p, hp, hseen⟩, rfl⟩
    refine ⟨_, Imports.mem_ofFiles_iff.mpr ⟨path, p, hp, rfl⟩, ResolvedFile.path_ofParsed _ _ _, ?_⟩
    exact (ResolvedFile.merges_ofParsed _ path p).covers _ hseen

/-- The two files of a hop are visible, and different. -/
theorem Complete.visible_of_hop (h : s.Complete os) {path target : String}
    (hop : (s.links e).imports.Hop path target) :
    path ∈ s.plan.visible ∧ target ∈ s.plan.visible ∧ path ≠ target := by
  obtain ⟨⟨p, hp⟩, htarget, hne⟩ := Imports.Hop.mem h.holds hop
  exact ⟨(h.exists_of_mem_files hp).1, htarget, hne.symm⟩

/-- Every edge between files is offered as a relationship. -/
theorem Complete.relationships_imports (h : s.Complete os) :
    (s.links e).imports.relationships s.skeleton.fileIds =
      (s.links e).imports.files.flatMap fun f => f.edges.toList.map fun x =>
        .between .imports (Containment.fileId f.path) (Containment.fileId x.1) x.2.properties := by
  refine List.flatMap_congr fun f hf => ?_
  rw [← List.filterMap_eq_map]
  refine List.filterMap_congr fun x hx => ?_
  have hedge : f.edges.contains x.1 = true :=
    (OrderedMap.contains_iff_mem_keys _ _).mpr (List.mem_map_of_mem hx)
  obtain ⟨hpath, htarget, -⟩ := h.visible_of_hop ⟨f, hf, rfl, hedge⟩
  simp only [Imports.relationship?, get?_fileIds, if_pos hpath, if_pos htarget]
  rfl

/-- The relationships of imports connect different pairs of nodes. -/
theorem Complete.nodup_ends_imports (h : s.Complete os) (hinj : s.Injective e) :
    (((s.links e).imports.relationships s.skeleton.fileIds).map
      fun r => (r.source, r.target)).Nodup := by
  have hends : ((s.links e).imports.relationships s.skeleton.fileIds).map
      (fun r => (r.source, r.target)) =
        (s.links e).imports.ends.map (Prod.map Containment.fileId Containment.fileId) := by
    simp only [h.relationships_imports, Imports.ends, List.map_flatMap, List.map_map,
      OrderedMap.keys]
    rfl
  rw [hends]
  refine (Imports.nodup_ends _ h.nodup_keys).map_on fun x hx y hy heq => ?_
  obtain ⟨hxpath, hxtarget, -⟩ := h.visible_of_hop (Imports.mem_ends_iff.mp hx)
  obtain ⟨hypath, hytarget, -⟩ := h.visible_of_hop (Imports.mem_ends_iff.mp hy)
  obtain ⟨hpath, htarget⟩ := Prod.mk.inj heq
  exact Prod.ext (fileId_inj hinj hxpath hypath hpath) (fileId_inj hinj hxtarget hytarget htarget)

/-- The relationships of imports in the graph are those of the resolved imports. -/
theorem Complete.imports_eq (h : s.Complete os) (hinj : s.Injective e) :
    (s.graph e).ofKind .imports = (s.links e).imports.relationships s.skeleton.fileIds :=
  h.ofKind_eq hinj (s.filter_offered_imports e) (h.nodup_ends_imports hinj)

/-- No relationship of imports leads from a node to itself. -/
theorem Complete.not_importEdge_self (h : s.Complete os) (hinj : s.Injective e) (id : String) :
    ¬(s.graph e).ImportEdge id id := by
  rintro ⟨r, hr, hkind, hsource, htarget⟩
  have hmem : r ∈ (s.graph e).ofKind .imports := List.mem_filter.mpr ⟨hr, decide_eq_true hkind⟩
  rw [h.imports_eq hinj, h.relationships_imports] at hmem
  obtain ⟨f, hf, hmem⟩ := List.mem_flatMap.mp hmem
  obtain ⟨x, hx, rfl⟩ := List.mem_map.mp hmem
  obtain ⟨hpath, hother, hne⟩ := h.visible_of_hop ⟨f, hf, rfl,
    (OrderedMap.contains_iff_mem_keys _ _).mpr (List.mem_map_of_mem hx)⟩
  exact hne (fileId_inj hinj hpath hother (hsource.trans htarget.symm))

/-- Where imports lead, there is one relationship of imports. -/
theorem Complete.importsBetween_eq (h : s.Complete os) (hinj : s.Injective e)
    {path target : String} (hop : (s.links e).imports.Hop path target) :
    ∃ r, (s.graph e).importsBetween path target = [r] := by
  obtain ⟨hpath, htarget, -⟩ := h.visible_of_hop hop
  obtain ⟨f, hf, rfl, hedge⟩ := hop
  obtain ⟨edge, hedge⟩ := Option.isSome_iff_exists.mp hedge
  obtain ⟨r, hr, hsource, htarget'⟩ : ∃ r ∈ (s.graph e).ofKind .imports,
      r.source = Containment.fileId f.path ∧ r.target = Containment.fileId target := by
    rw [h.imports_eq hinj, h.relationships_imports]
    exact ⟨_, List.mem_flatMap.mpr ⟨f, hf, List.mem_map_of_mem
      (OrderedMap.mem_toList_of_get? hedge)⟩, rfl, rfl⟩
  have hnodup : (((s.graph e).ofKind .imports).map fun r => (r.source, r.target)).Nodup := by
    rw [h.imports_eq hinj]
    exact h.nodup_ends_imports hinj
  refine ⟨r, (List.filter_congr fun r' _ => ?_).trans (filter_key_eq_singleton hnodup hr)⟩
  simp [h.isFile_iff hinj, hpath, htarget, hsource, htarget']

/-- The imports of one parsed file are resolved in one way. -/
theorem Complete.resolves_iff (h : s.Complete os) {path : String} {p : ParsedFile}
    (hp : (path, p) ∈ s.files) {res : Resolution} : s.Resolves path res ↔
      ∃ d ∈ p.imports, s.parsing.inventory.registry.Resolves path p.language d res := by
  refine ⟨?_, fun hres => ⟨p, hp, hres⟩⟩
  rintro ⟨p', hp', hres⟩
  have hsame := (OrderedMap.get?_of_mem_toList h.nodup_keys hp).symm.trans
    (OrderedMap.get?_of_mem_toList h.nodup_keys hp')
  obtain rfl := Option.some.inj hsame
  exact hres

/-- Resolutions of imports are paired. -/
theorem Resolves.paired {path : String} {res : Resolution} (h : s.Resolves path res) :
    res.Paired := by
  obtain ⟨f, -, d, -, spec, -, t, ht, rfl⟩ := h
  exact Registry.paired_of_mem_resolveImport ht

/-- A relationship of imports keeps a best one of the resolutions behind it. -/
theorem Complete.exists_of_mem_imports (h : s.Complete os) (hinj : s.Injective e)
    {rel : Relationship} (hrel : rel ∈ (s.graph e).ofKind .imports) :
    ∃ (path : String) (res : Resolution), res.Best (s.Resolves path) ∧ res.Paired ∧
      rel ∈ (s.graph e).importsBetween path res.target ∧
      rel.properties.get? "confidence" = some (.float res.confidence) ∧
      rel.properties.get? "strategy" = some (.text res.strategy.name) := by
  have hoffered := hrel
  rw [h.imports_eq hinj, h.relationships_imports] at hoffered
  obtain ⟨f, hf, hoffered⟩ := List.mem_flatMap.mp hoffered
  obtain ⟨⟨target, edge⟩, hmem, heq⟩ := List.mem_map.mp hoffered
  obtain ⟨path, p, hp, rfl⟩ := Imports.mem_ofFiles_iff.mp hf
  rw [ResolvedFile.path_ofParsed] at heq
  obtain rfl := heq
  have hmerges := ResolvedFile.merges_ofParsed s.parsing.inventory.registry path p
  have hedge := OrderedMap.get?_of_mem_toList hmerges.nodup hmem
  have hbest : (edge.kept target).Best (s.Resolves path) := by
    obtain ⟨hseen, hleast⟩ := hmerges.best target edge hedge
    exact ⟨⟨p, hp, hseen⟩, fun other hother =>
      hleast other ((h.resolves_iff hp).mp hother)⟩
  obtain ⟨hpath, htarget, -⟩ := h.visible_of_hop (e := e) (hop_iff.mpr ⟨_, hbest.1, rfl⟩)
  refine ⟨path, edge.kept target, hbest, hmerges.paired target edge hedge,
    List.mem_filter.mpr ⟨hrel, decide_eq_true ?_⟩, rfl, rfl⟩
  exact ⟨h.isFile hinj hpath, h.isFile hinj htarget⟩

end Stages

/--
The imports of a run are counted, and merged. The report counts the import definitions of the parsed
files, each as resolved or left over. If some import of a file is resolved to another file, the two
are different visible files with one relationship of imports between them, and there are no others.
It has the confidence of its strategy, the highest one of all resolutions between the two files.
Wherever the import map leads, there is such a relationship.
-/
theorem Engine.imports_accounted (e : Engine) (request : Request) (i : Interruptions)
    {cache : Cache} (hcache : cache.Reachable) {res : IngestResult}
    (hrun : (e.run request i cache).1 = .ok res)
    (hinj : Set.InjOn Identifier.digest {t | t ∈ e.hashed request i cache}) :
    res.report.importsTotal =
      ((e.definitions request i cache).filter (·.kind = .importDecl)).length ∧
    res.report.importsTotal =
      res.report.importsResolved + res.report.unresolvedImports.length ∧
    (∀ path found, e.Resolves request i cache path found →
      path ≠ found.target ∧
      (∃ plan, Plan.ofRequest e.settings request = .ok plan ∧ path ∈ plan.visible ∧
        found.target ∈ plan.visible) ∧
      ∃ rel, res.store.graph.importsBetween path found.target = [rel]) ∧
    (∀ rel ∈ res.store.graph.ofKind .imports, ∃ path found,
      e.Resolves request i cache path found ∧
      rel ∈ res.store.graph.importsBetween path found.target ∧
      rel.properties.get? "confidence" = some (.float found.confidence) ∧
      rel.properties.get? "strategy" = some (.text found.strategy.name) ∧
      found.confidence = found.strategy.confidence ∧
      ∀ other, e.Resolves request i cache path other → other.target = found.target →
        other.confidence.toFloat ≤ found.confidence.toFloat) ∧
    ∀ path target, (e.importMap request i cache).LeadsTo path target →
      ∃ rel, res.store.graph.importsBetween path target = [rel] := by
  obtain ⟨s, os, after, hstages, rfl, hplan, hs, hspecified, rfl⟩ :=
    Engine.exists_complete_specified hcache hrun
  have hinj' : s.Injective e := Stages.injective_of_hashed hstages hinj
  have hresolves : ∀ path found,
      e.Resolves s.request i cache path found ↔ s.Resolves path found := by
    intro path found
    simp [Engine.Resolves, hstages]
  simp only [hresolves]
  refine ⟨?_, ?_, fun path found hfound => ?_, fun rel hrel => ?_, fun path target hlead => ?_⟩
  · have htotal := Imports.total_ofFiles s.parsing.inventory.registry hspecified
    rw [Engine.definitions, hstages, Option.map_some, Option.getD_some, Stages.definitions,
      List.filter_flatMap]
    exact htotal
  · refine Imports.total_eq fun f hf => ?_
    obtain ⟨path, p, hp, rfl⟩ := Imports.mem_ofFiles_iff.mp hf
    exact (ResolvedFile.counts_ofParsed _ path (hspecified path p hp)).split
  · have hop := (Stages.hop_iff (e := e)).mpr ⟨found, hfound, rfl⟩
    obtain ⟨hpath, htarget, hne⟩ := hs.visible_of_hop hop
    exact ⟨hne, ⟨s.plan, hplan, hpath, htarget⟩, hs.importsBetween_eq hinj' hop⟩
  · obtain ⟨path, found, hbest, hpaired, hbetween, hconfidence, hstrategy⟩ :=
      hs.exists_of_mem_imports hinj' hrel
    refine ⟨path, found, hbest.1, hbetween, hconfidence, hstrategy, hpaired,
      fun other hother hsame => ?_⟩
    exact (hother.paired.confidence_le_iff hpaired).mpr (hbest.2 other hother hsame)
  · rw [Engine.importMap, hstages, Option.map_some, Option.getD_some] at hlead
    exact hs.importsBetween_eq hinj' (Imports.hop_of_leadsTo hs.holds hs.nodup_keys hlead)

/-- The imports of an outline are those of the run. -/
theorem Stages.Outlined.exists_resolves {s : Stages} {os : List FileOutcome} {e : Engine}
    {l : Language} {files : List SourceFile} {request : Request} {o : Outline}
    (h : s.Outlined os e l files request o) {path target : String}
    (hmem : (path, target) ∈ o.imports) :
    ∃ found, e.Resolves request {} (Cache.ofSettings e.settings) path found ∧
      found.target = target := by
  rw [← h.outline] at hmem
  obtain ⟨f, hf, hmem⟩ := List.mem_flatMap.mp hmem
  obtain ⟨target, hedge, heq⟩ := List.mem_map.mp hmem
  obtain ⟨rfl, rfl⟩ := Prod.mk.inj heq
  obtain ⟨found, hfound, htarget⟩ := Stages.hop_iff.mp
    ⟨f, hf, rfl, (OrderedMap.contains_iff_mem_keys _ _).mpr hedge⟩
  exact ⟨found, ⟨s, h.stages, hfound⟩, htarget⟩

/-- The two imports of the sample are counted, and there is one relationship for each of them. -/
theorem Engine.imports_accounted_sample :
    ∃ res, (ChainSample.engine.run ChainSample.request {} (Cache.ofSettings {})).1 = .ok res ∧
      res.report.importsTotal =
        res.report.importsResolved + res.report.unresolvedImports.length ∧
      (∃ rel, res.store.graph.importsBetween "a.py" "b.py" = [rel]) ∧
      ∃ rel, res.store.graph.importsBetween "b.py" "c.py" = [rel] := by
  obtain ⟨s, os, h⟩ := ChainSample.exists_outlined
  obtain ⟨after, hrun⟩ := h.returns
  obtain ⟨-, htotal, hresolved, -⟩ := Engine.imports_accounted _ _ _
    (Cache.reachable_ofSettings {}) hrun h.injOn_hashed
  have hfirst : ("a.py", "b.py") ∈ ChainSample.outline.imports := by decide
  have hsecond : ("b.py", "c.py") ∈ ChainSample.outline.imports := by decide
  obtain ⟨found, hfound, htarget⟩ := h.exists_resolves hfirst
  obtain ⟨found', hfound', htarget'⟩ := h.exists_resolves hsecond
  exact ⟨_, hrun, htotal, htarget ▸ (hresolved _ found hfound).2.2,
    htarget' ▸ (hresolved _ found' hfound').2.2⟩

end CodeGraph
