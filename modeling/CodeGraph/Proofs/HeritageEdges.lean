import CodeGraph.Proofs.Clashes
import CodeGraph.Proofs.ImportEdges

/-!
# Relationships of heritage are counted, and follow relationships of imports

Every name of an extended or implemented type gives a link, and every link moves one of two
counters, that of the resolved ones or that of those left over; so the two together count the names.
A relationship of heritage connects two different types: of one file if it says that it is resolved
locally, and otherwise of two files with a relationship of imports between them.

The file of a type is read off its node. Another definition with the same text might have taken the
node; but then the name of one of them would hold a colon, and names in source code do not.

## Main definitions

* `Definition.heritageNames`: the names of the types that a definition extends and implements.
* `Graph.IsType`: the node under an identifier is that of a type in a file.

## Main results

* `Heritage.map_typeName_links`: there is a link for each name.
* `Stages.Complete.heritage_counted`: the two counters count all names.
* `Stages.Complete.isType_of_mem`: the node of a type is in its file.
* `Stages.Complete.heritage_cases`: what a relationship of heritage connects.
* `Engine.heritage_accounted`: counts and relationships of heritage of a run that returns.
-/

namespace CodeGraph

open Inventory (Entry)

/-! ### Names and links -/

/-- The names of the types that a definition extends and implements. -/
def Definition.heritageNames (d : Definition) : List String :=
  d.bases ++ d.interfaces

namespace Heritage

variable {r : Registry} {m : ImportMap}

/-- A definition has a link for each of its names. -/
theorem map_typeName_linksOf (path : String) (d : Definition) :
    (linksOf r m path d).map HeritageLink.typeName = d.heritageNames := by
  simp [linksOf, Definition.heritageNames, Function.comp_def]

/-- If all definitions have nodes, all names of types have links. -/
theorem map_typeName_links {g : Graph} {parsed : ParsedFiles}
    (h : ∀ path f, (path, f) ∈ parsed.toList → ∀ d ∈ f.definitions, g.hasNode d.nodeId = true) :
    (links r m g parsed).map HeritageLink.typeName =
      (ParsedFiles.sorted parsed).flatMap fun f =>
        (f.2.definitions.filter (·.kind.isType)).flatMap Definition.heritageNames := by
  rw [links, List.map_flatMap]
  refine List.flatMap_congr fun file hfile => ?_
  obtain ⟨path, f⟩ := file
  have hmem : (path, f) ∈ parsed.toList := ParsedFiles.mem_sorted.mp hfile
  have htypes : (f.definitions.filter fun d => d.kind.isType && g.hasNode d.nodeId) =
      f.definitions.filter (·.kind.isType) :=
    List.filter_congr fun d hd => by rw [h path f hmem d hd, Bool.and_true]
  dsimp only
  rw [htypes, List.map_flatMap]
  exact List.flatMap_congr fun d _ => map_typeName_linksOf path d

/-- There are as many links as names of types. -/
theorem length_links {g : Graph} {parsed : ParsedFiles}
    (h : ∀ path f, (path, f) ∈ parsed.toList → ∀ d ∈ f.definitions, g.hasNode d.nodeId = true) :
    (links r m g parsed).length =
      (((parsed.toList.flatMap fun f => f.2.definitions).filter (·.kind.isType)).flatMap
        Definition.heritageNames).length := by
  have hperm : (ParsedFiles.sorted parsed).Perm parsed.toList := ParsedFiles.sorted_perm _
  have hlength := congrArg List.length (map_typeName_links (r := r) (m := m) h)
  rw [List.length_map] at hlength
  rw [hlength, (hperm.flatMap_right _).length_eq, List.filter_flatMap, List.flatMap_assoc]

end Heritage

/-! ### Nodes of types -/

/-- The node under an identifier is that of a class, an interface or an enumeration in a file. -/
def Graph.IsType (g : Graph) (path id : String) : Prop :=
  ∃ n, g.node? id = some n ∧
    (n.label = .classDecl ∨ n.label = .interfaceDecl ∨ n.label = .enumDecl) ∧
    n.properties.get? "filePath" = some (.text path)

/-- Types have the labels of classes, interfaces and enumerations. -/
theorem DefinitionKind.label_of_isType {k : DefinitionKind} (h : k.isType = true) :
    k.label = .classDecl ∨ k.label = .interfaceDecl ∨ k.label = .enumDecl := by
  cases k <;> simp_all [isType, label]

/-- The text of a definition tells its file, if names are without colons. -/
theorem Definition.filePath_eq_of_idSource_eq {d d' : Definition} (h : d.idSource = d'.idSource)
    (hd : ':' ∉ d.name.toList) (hd' : ':' ∉ d'.name.toList) : d.filePath = d'.filePath := by
  have hcolon : ∀ {x y : Definition}, x.Overlaps y → ':' ∈ x.name.toList := by
    rintro x y ⟨-, -, -, part, -, hname⟩
    rw [hname]
    simp [show (":" : String).toList = [':'] from rfl]
  rcases Definition.idSource_eq_iff.mp h with ⟨hpath, -⟩ | hoverlap | hoverlap
  · exact hpath
  · exact absurd (hcolon hoverlap) hd
  · exact absurd (hcolon hoverlap) hd'

namespace Stages

variable {s : Stages} {os : List FileOutcome} {e : Engine}

/-- An entered type has its node. -/
theorem Complete.isType_entered (h : s.Complete os) (hinj : s.Injective e) {x : Entry}
    (hx : x ∈ s.entered) (htype : x.definition.kind.isType = true) :
    (s.graph e).IsType x.definition.filePath x.id :=
  ⟨_, h.node?_entered hinj hx, DefinitionKind.label_of_isType htype,
    x.definition.get?_filePath_properties⟩

/-- A type of a file has its node there, if types have plain names. -/
theorem Complete.isType_of_mem (h : s.Complete os) (hinj : s.Injective e)
    (hplain : ∀ path f, (path, f) ∈ s.files → f.PlainTypes)
    {path : String} {f : ParsedFile} (hf : (path, f) ∈ s.files) {d : Definition}
    (hd : d ∈ f.definitions) (htype : d.kind.isType = true) :
    (s.graph e).IsType path d.nodeId := by
  obtain ⟨-, hpath, hauth⟩ := h.exists_of_mem_files hf
  obtain ⟨x, hx, hsame, htext⟩ := h.exists_entered hinj hf hd
  obtain ⟨path', g, hg, -, hdef, -, -⟩ := h.exists_of_mem_entries (mem_of_mem_fresh hx).1
  have hxtype : x.definition.kind.isType = true := by
    rw [Definition.kind_eq_of_idSource_eq htext, htype]
  have hfile : x.definition.filePath = path := by
    rw [Definition.filePath_eq_of_idSource_eq htext (hplain path' g hg _ hdef hxtype)
      (hplain path f hf d hd htype), (hauth.definitions d hd).filePath, hpath]
  have hnode := h.isType_entered hinj hx hxtype
  rwa [hfile, hsame] at hnode

/-! ### Heritage of a run -/

/-- The two counters together count all names of types in the parsed files. -/
theorem Complete.heritage_counted (h : s.Complete os) (e : Engine) :
    (s.links e).heritage.resolved + (s.links e).heritage.unresolved =
      ((s.definitions.filter (·.kind.isType)).flatMap Definition.heritageNames).length := by
  refine (Heritage.records_ofFiles _ _ _ _).counted.trans (Heritage.length_links ?_)
  exact fun path f hf d hd => h.hasNode_imports e hf hd

/-- A relationship of heritage connects two types, of one file or along an import. -/
theorem Complete.heritage_cases (h : s.Complete os) (hinj : s.Injective e)
    (hplain : ∀ path f, (path, f) ∈ s.files → f.PlainTypes)
    {r : Relationship} (hr : r ∈ (s.links e).heritage.relationships) :
    r.source ≠ r.target ∧ ∃ path target, path ∈ s.plan.visible ∧ target ∈ s.plan.visible ∧
      (s.graph e).IsType path r.source ∧ (s.graph e).IsType target r.target ∧
      (r.properties.get? "resolution" = some (.text "local") ∧ target = path ∨
        r.properties.get? "resolution" = some (.text "import") ∧
          (s.links e).imports.Hop path target) := by
  obtain ⟨link, hlink, hrel⟩ := Heritage.exists_link_of_mem hr
  obtain ⟨path, f, hf, howner, -, htype, -, -, hmeans⟩ := Heritage.exists_of_mem_links hlink
  obtain ⟨d, source, htarget, hne, rfl⟩ := Heritage.exists_of_relationship? hrel
  obtain ⟨hmem, hdtype, hcases⟩ :=
    Heritage.resolveType_cases h.holds.toLists (hmeans.symm.trans htarget)
  obtain ⟨x, hx, rfl⟩ := List.mem_map.mp hmem
  obtain ⟨path', g, hg, -, -, -, hxauth⟩ := h.exists_of_mem_entries (mem_of_mem_fresh hx).1
  refine ⟨hne.symm, path, x.definition.filePath, (h.exists_of_mem_files hf).1, ?_,
    h.isType_of_mem hinj hplain hf howner htype, h.isType_entered hinj hx hdtype, ?_⟩
  · rw [hxauth.filePath]
    exact (h.exists_of_mem_files hg).1
  · rcases hcases with ⟨rfl, hlead⟩ | ⟨rfl, hpath⟩
    · exact .inr ⟨rfl, Imports.hop_of_leadsTo h.holds h.nodup_keys hlead⟩
    · exact .inl ⟨rfl, hpath⟩

end Stages

/--
The names of extended and implemented types of a run are counted, and its relationships of heritage
are justified. Each connects two different types, which are in one file if it says that it is
resolved locally, and in two files with a relationship of imports between them if it says that it is
resolved through imports.
-/
theorem Engine.heritage_accounted (e : Engine) (request : Request) (i : Interruptions)
    {cache : Cache} (hcache : cache.LexicallyReachable) (hnames : e.ReadsNames request)
    {res : IngestResult} (hrun : (e.run request i cache).1 = .ok res)
    (hinj : Set.InjOn Identifier.digest {t | t ∈ e.hashed request i cache}) :
    res.report.heritageResolved + res.report.heritageUnresolved =
      (((e.definitions request i cache).filter (·.kind.isType)).flatMap
        Definition.heritageNames).length ∧
    ∀ r ∈ res.store.graph.relationships, r.kind = .inherits ∨ r.kind = .implements →
      r.source ≠ r.target ∧ ∃ path target fileId targetId,
        res.store.graph.IsType path r.source ∧ res.store.graph.IsType target r.target ∧
        res.store.graph.IsFile path fileId ∧ res.store.graph.IsFile target targetId ∧
        (r.properties.get? "resolution" = some (.text "local") ∧ target = path ∨
          r.properties.get? "resolution" = some (.text "import") ∧
            res.store.graph.ImportEdge fileId targetId) := by
  obtain ⟨s, os, after, hstages, rfl, -, hs, hplain, rfl⟩ :=
    Engine.exists_complete_plain hcache hnames hrun
  have hinj' : s.Injective e := Stages.injective_of_hashed hstages hinj
  refine ⟨?_, fun r hr hkind => ?_⟩
  · rw [Engine.definitions, hstages, Option.map_some, Option.getD_some]
    exact hs.heritage_counted e
  · have hheritage : r ∈ (s.links e).heritage.relationships := by
      have hoffered := hs.mem_offered (e := e) hr
      rcases Stages.mem_offered_cases hoffered with ⟨-, hother | hother | hother⟩ |
        ⟨-, hother⟩ | ⟨hmem, -⟩ | ⟨-, hother⟩
      · simp [hother] at hkind
      · simp [hother] at hkind
      · simp [hother] at hkind
      · simp [hother] at hkind
      · exact hmem
      · simp [hother] at hkind
    obtain ⟨hne, path, target, hpath, htarget, hsource, htype, hcases⟩ :=
      hs.heritage_cases hinj' hplain hheritage
    refine ⟨hne, path, target, Containment.fileId path, Containment.fileId target, hsource, htype,
      hs.isFile hinj' hpath, hs.isFile hinj' htarget, ?_⟩
    rcases hcases with hlocal | ⟨himport, hop⟩
    · exact .inl hlocal
    · exact .inr ⟨himport, hs.importEdge_of_hop hinj' hop⟩

/-! ### A sample -/

/-- A node that is a type in a file is of one file. -/
theorem Graph.IsType.path_unique {g : Graph} {path path' id : String} (h : g.IsType path id)
    (h' : g.IsType path' id) : path = path' := by
  obtain ⟨n, hn, -, hpath⟩ := h
  obtain ⟨n', hn', -, hpath'⟩ := h'
  obtain rfl := Option.some.inj (hn.symm.trans hn')
  simpa [PropertyValue.text] using hpath.symm.trans hpath'

/-- A type of an outline has its node in its file. -/
theorem Stages.Outlined.isType {s : Stages} {os : List FileOutcome} {e : Engine} {l : Language}
    {files : List SourceFile} {request : Request} {o : Outline}
    (h : s.Outlined os e l files request o) {path text : String} {kind : DefinitionKind}
    (hmem : (path, kind, text) ∈ o.definitions) (htype : kind.isType = true) :
    (s.graph e).IsType path (Identifier.digest text) := by
  have hlisted := hmem
  rw [← h.outline] at hlisted
  obtain ⟨⟨path, f⟩, hf, hlisted⟩ := List.mem_flatMap.mp hlisted
  obtain ⟨d, hd, heq⟩ := List.mem_map.mp hlisted
  simp only [Prod.mk.injEq] at heq
  obtain ⟨rfl, rfl, rfl⟩ := heq
  obtain ⟨x, hx, hid, htext⟩ := h.complete.exists_entered h.injective hf hd
  obtain ⟨path', g, hg, -, hdef, -, -⟩ := h.complete.exists_of_mem_entries (mem_of_mem_fresh hx).1
  have hfile : x.definition.filePath = path :=
    h.filePath_eq (List.mem_flatMap.mpr ⟨(path', g), hg, hdef⟩) (htext ▸ hmem)
  have hkind : x.definition.kind.isType = true :=
    Definition.kind_eq_of_idSource_eq htext ▸ htype
  rw [← hfile, ← h.complete.nodeId_eq hf hd, ← hid]
  exact h.complete.isType_entered h.injective hx hkind

/-- The heritage of an outline is in the graph, between the nodes of its types. -/
theorem Stages.Outlined.exists_heritage {s : Stages} {os : List FileOutcome} {e : Engine}
    {l : Language} {files : List SourceFile} {request : Request} {o : Outline}
    (h : s.Outlined os e l files request o) {x : TextEdge} (hx : x ∈ o.heritage)
    {path target : String} {kind kind' : DefinitionKind}
    (hsource : (path, kind, x.source) ∈ o.definitions) (hkind : kind.isType = true)
    (htarget : (target, kind', x.target) ∈ o.definitions) (hkind' : kind'.isType = true) :
    ∃ r ∈ (s.graph e).relationships, r.kind = x.kind ∧ (s.graph e).IsType path r.source ∧
      (s.graph e).IsType target r.target := by
  obtain ⟨r, hr, hrkind, hrsource, hrtarget⟩ :=
    h.complete.exists_of_mem_heritage h.injective (h.outline ▸ hx)
  exact ⟨r, hr, hrkind, hrsource ▸ h.isType hsource hkind, hrtarget ▸ h.isType htarget hkind'⟩

namespace ChainSample

/-- The names in the trees are without colons, even if a tree is read with another source. -/
theorem readsNames : engine.ReadsNames request := by
  have hlexical : ∀ f ∈ files, ∀ g ∈ files,
      ∀ i < g.tree.nodes.size,
        g.tree.kind i ∈ "shorthand_property_identifier_pattern" :: nameKinds →
          ':' ∉ ((⟨g.tree, f.content.toUTF8⟩ : SourceTree).text i).toList := by
    decide +kernel
  intro path content hcontent l t ht
  have hsource : content ∈ files.map SourceFile.content :=
    List.mem_map_of_mem (f := Prod.snd) (OrderedMap.mem_toList_of_get? hcontent)
  obtain ⟨f, hf, rfl⟩ := List.mem_map.mp hsource
  obtain ⟨g, hg, heq⟩ := List.mem_map.mp (OrderedMap.mem_toList_of_get? ht)
  obtain ⟨-, rfl⟩ := Prod.mk.inj heq
  exact hlexical f hf g hg

/-- Two names of types are extended. -/
theorem heritageNames_eq : ((files.flatMap fun f => (f.parsed engine .python).definitions).filter
    (·.kind.isType)).flatMap Definition.heritageNames = ["B", "L"] := by
  decide +kernel

end ChainSample

/-- Both names of the sample are counted; one base is in the same file, and one is imported. -/
theorem Engine.heritage_accounted_sample :
    ∃ res, (ChainSample.engine.run ChainSample.request {} (Cache.ofSettings {})).1 = .ok res ∧
      res.report.heritageResolved + res.report.heritageUnresolved = 2 ∧
      (∃ r ∈ res.store.graph.relationships, r.kind = .inherits ∧
        r.properties.get? "resolution" = some (.text "local") ∧
        res.store.graph.IsType "a.py" r.source ∧ res.store.graph.IsType "a.py" r.target) ∧
      ∃ r ∈ res.store.graph.relationships, r.kind = .inherits ∧
        r.properties.get? "resolution" = some (.text "import") ∧
        res.store.graph.IsType "a.py" r.source ∧ res.store.graph.IsType "b.py" r.target := by
  obtain ⟨s, os, h⟩ := ChainSample.exists_outlined
  obtain ⟨after, hrun⟩ := h.returns
  obtain ⟨hcount, hedges⟩ := Engine.heritage_accounted _ _ _
    (Cache.lexicallyReachable_ofSettings {}) ChainSample.readsNames hrun h.injOn_hashed
  have hdefinitions : ChainSample.engine.definitions ChainSample.request {} (Cache.ofSettings {}) =
      ChainSample.files.flatMap fun f => (f.parsed ChainSample.engine .python).definitions :=
    h.definitions_files
  rw [hdefinitions, ChainSample.heritageNames_eq] at hcount
  have hL : ("a.py", .classDecl, "class:a.py:L:18:33") ∈ ChainSample.outline.definitions := by
    decide
  have hD : ("a.py", .classDecl, "class:a.py:D:34:48") ∈ ChainSample.outline.definitions := by
    decide
  have hB : ("b.py", .classDecl, "class:b.py:B:16:28") ∈ ChainSample.outline.definitions := by
    decide
  have hlocal : ⟨.inherits, "class:a.py:D:34:48", "class:a.py:L:18:33"⟩ ∈
      ChainSample.outline.heritage := by
    decide
  have himported : ⟨.inherits, "class:a.py:L:18:33", "class:b.py:B:16:28"⟩ ∈
      ChainSample.outline.heritage := by
    decide
  refine ⟨_, hrun, hcount, ?_, ?_⟩
  · obtain ⟨r, hr, hkind, hsource, htarget⟩ := h.exists_heritage hlocal hD rfl hL rfl
    obtain ⟨-, path, target, fileId, targetId, hfrom, hto, hfile, hother, hcases⟩ :=
      hedges r hr (.inl hkind)
    obtain rfl : path = "a.py" := hfrom.path_unique hsource
    obtain rfl : target = "a.py" := hto.path_unique htarget
    rcases hcases with ⟨hresolution, -⟩ | ⟨-, hedge⟩
    · exact ⟨r, hr, hkind, hresolution, hsource, htarget⟩
    · -- an import would lead from the file to itself
      have hsame : fileId = targetId :=
        ((h.complete.isFile_iff h.injective).mp hfile).2.trans
          ((h.complete.isFile_iff h.injective).mp hother).2.symm
      exact absurd (hsame ▸ hedge) (h.complete.not_importEdge_self h.injective _)
  · obtain ⟨r, hr, hkind, hsource, htarget⟩ := h.exists_heritage himported hL rfl hB rfl
    obtain ⟨-, path, target, _, _, hfrom, hto, -, -, hcases⟩ := hedges r hr (.inl hkind)
    obtain rfl : path = "a.py" := hfrom.path_unique hsource
    obtain rfl : target = "b.py" := hto.path_unique htarget
    rcases hcases with ⟨-, hsame⟩ | ⟨hresolution, -⟩
    · exact absurd hsame (by decide)
    · exact ⟨r, hr, hkind, hresolution, hsource, htarget⟩

end CodeGraph
