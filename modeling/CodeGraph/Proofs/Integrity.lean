import CodeGraph.Proofs.Sources

/-!
# Ingestion leaves a sound graph

Whatever is ingested, and whatever was ingested before, the report on a graph has no findings: no
relationship dangles, every file with content defines something or says that it does not, and only
the project of an ingestion without visible files stands alone.

## Main results

* `Stages.Complete.isConnected`: if there are visible files, every node has a relationship.
* `Stages.Complete.accounted`: what is said about files with content.
* `Engine.report_clean`: the report of a run that returns.
-/

namespace CodeGraph

open Inventory (Entry)

/-! ### What is said about files -/

/-- The description of a skipped file says that it defines nothing. -/
theorem get?_noDefinitions_skipped (ps : Properties) (reason : SkipReason) (content : Bool)
    (category : Category) {details : List (String × PropertyValue)}
    (h : "noDefinitions" ∉ details.map Prod.fst) :
    (ps.insertAll (skippedProperties reason content category details).toList).get?
      "noDefinitions" = some (.bool true) := by
  simp only [skippedProperties, OrderedMap.toList, OrderedMap.insertAll_append]
  rw [OrderedMap.get?_insertAll_of_notMem _ h]
  cases category.languageName? <;> simp [OrderedMap.insertAll, OrderedMap.get?_insert]

/-- The description of a file says that it defines nothing, unless definitions were counted. -/
theorem FileOutcome.get?_noDefinitions (contents : OrderedMap String String) (o : FileOutcome)
    {count : Nat} (hcount : count = 0) (ps : Properties) :
    (ps.insertAll (o.description contents count).toList).get? "noDefinitions" =
      some (.bool true) := by
  obtain ⟨path, category, contentHash, fileSize, result⟩ := o
  cases result with
  | parsed file =>
    simp [description, parsedProperties, contentProperties, OrderedMap.toList,
      OrderedMap.insertAll, OrderedMap.get?_insert, hcount]
  | failed failure =>
    simp [description, failedProperties, contentProperties, OrderedMap.toList,
      OrderedMap.insertAll, OrderedMap.get?_insert]
  | skipped reason =>
    exact get?_noDefinitions_skipped ps reason _ category (by simp [contentProperties])

namespace Stages

variable {s : Stages} {os : List FileOutcome} {e : Engine}

/-- A file with entered definitions is the source of a relationship to one of them. -/
theorem Complete.exists_defines (h : s.Complete os) (hinj : s.Injective e) {x : Entry}
    (hx : x ∈ s.entered) :
    ∃ r ∈ (s.graph e).relationships, r.source = x.fileId ∧ r.kind = .defines ∧
      r.target = x.id := by
  refine h.exists_kept hinj (r := x.definesEdge) ?_
  exact List.mem_append_left _ (List.mem_append_right _
    (List.mem_flatMap.mpr ⟨x, hx, List.mem_cons_self⟩))

/-- A described file says that it defines nothing, or it is the source of a relationship. -/
theorem Complete.accounted_of_mem_descriptions (h : s.Complete os) (hinj : s.Injective e)
    {d : String × Properties} (hd : d ∈ s.descriptions os) (ps : Properties) :
    (ps.insertAll d.2.toList).get? "noDefinitions" = some (.bool true) ∨
      ∃ r ∈ (s.graph e).relationships, r.kind = .defines ∧ r.source = d.1 := by
  rcases List.mem_append.mp hd with hd | hd
  · obtain ⟨⟨path, reason⟩, -, hd⟩ := List.mem_filterMap.mp hd
    obtain ⟨id, -, rfl⟩ := Option.map_eq_some_iff.mp hd
    exact .inl (get?_noDefinitions_skipped ps reason _ _ List.not_mem_nil)
  · obtain ⟨o, ho, count, rfl, hentered⟩ := Parsing.exists_of_mem_descriptions _ _ hd
    by_cases hcount : count = 0
    · exact .inl (o.get?_noDefinitions _ hcount ps)
    · obtain ⟨x, hx, hmem⟩ := hentered hcount
      rw [← h.entries_eq] at hx
      obtain ⟨r, hr, hsource, hkind, -⟩ := h.exists_defines hinj hx
      refine .inr ⟨r, hr, hkind, hsource.trans ?_⟩
      obtain ⟨f, -, d, -, rfl⟩ := FileOutcome.exists_of_mem_entries hmem
      rfl

/-- Every file with content defines something or says that it does not. -/
theorem Complete.accounted (h : s.Complete os) (hinj : s.Injective e) :
    (s.graph e).validate.unflaggedFiles = [] := by
  refine Graph.unflaggedFiles_validate_eq_nil fun n hn hlabel hcontent => ?_
  obtain ⟨path, -, rfl⟩ := h.exists_of_mem_nodes hinj hn hlabel
  -- a file node says nothing about its content before it is described
  have hsaid : ((Containment.fileNode path).described (s.descriptions os)).properties.get?
        "hasContent" = none ∨
      ((Containment.fileNode path).described (s.descriptions os)).properties.get?
        "noDefinitions" = some (.bool true) ∨
      ∃ r ∈ (s.graph e).relationships, r.kind = .defines ∧
        r.source = (Containment.fileNode path).id := by
    refine Node.described_induction
      (I := fun ps => ps.get? "hasContent" = none ∨ ps.get? "noDefinitions" = some (.bool true) ∨
        ∃ r ∈ (s.graph e).relationships, r.kind = .defines ∧
          r.source = (Containment.fileNode path).id) (.inl rfl) fun d hd hid ps _ => ?_
    rw [← hid]
    exact .inr (h.accounted_of_mem_descriptions hinj hd ps)
  rcases hsaid with hnone | hflag | hdefines
  · rw [Node.flagged, hnone] at hcontent
    cases hcontent
  · exact .inl (by rw [Node.flagged, hflag]; rfl)
  · exact .inr hdefines

/-! ### Ends of relationships -/

/-- Both ends of every relationship of the graph are nodes. -/
theorem Complete.ends_mem_ids (h : s.Complete os) {r : Relationship}
    (hr : r ∈ (s.graph e).relationships) :
    r.source ∈ (s.graph e).ids ∧ r.target ∈ (s.graph e).ids := by
  have hplaced := h.placed_of_mem_offered (h.mem_offered hr)
  rw [ids_graph]
  exact ⟨hplaced.source, hplaced.target⟩

/-- No relationship dangles. -/
theorem Complete.violations_eq_nil (h : s.Complete os) (e : Engine) :
    (s.graph e).validate.violations = [] :=
  Graph.violations_validate_eq_nil fun _ hr => h.ends_mem_ids hr

/-! ### Connected nodes -/

/-- An offered relationship of the skeleton has its place in the graph. -/
theorem Complete.exists_kept_of_skeleton (h : s.Complete os) (hinj : s.Injective e)
    {r : Relationship}
    (hr : r ∈ (Containment.offers s.request.projectName s.plan.visible).flatMap Prod.snd) :
    ∃ r' ∈ (s.graph e).relationships, r'.source = r.source ∧ r'.kind = r.kind ∧
      r'.target = r.target :=
  h.exists_kept hinj (List.mem_append_left _ (List.mem_append_left _ hr))

/-- If there are visible files, some relationship starts or ends at every node. -/
theorem Complete.isConnected (h : s.Complete os) (hinj : s.Injective e)
    (hvisible : s.plan.visible ≠ []) {id : String} (hid : id ∈ (s.graph e).ids) :
    (s.graph e).isConnected id = true := by
  -- every node but the project is the target of the relationship that it came with
  have hheld : ∀ x ∈ Containment.offers s.request.projectName s.plan.visible,
      ∀ r ∈ x.2, (s.graph e).isConnected r.target = true := by
    intro x hx r hr
    obtain ⟨r', hr', -, -, htarget⟩ :=
      h.exists_kept_of_skeleton hinj (List.mem_flatMap.mpr ⟨x, hx, hr⟩)
    exact (Graph.isConnected_iff _ _).mpr ⟨r', hr', .inr htarget⟩
  have hskeleton : ∀ id ∈ s.skeleton.graph.ids, (s.graph e).isConnected id = true := by
    intro id hid
    rcases (Containment.mem_ids_build _ _ _ _).mp hid with rfl | ⟨d, hd, rfl⟩ | ⟨path, hp, rfl⟩
    · obtain ⟨path, hpath⟩ := List.exists_mem_of_ne_nil _ hvisible
      obtain ⟨r, hr, hsource⟩ := Containment.exists_source_eq_project s.request.projectName hpath
      obtain ⟨r', hr', hsource', -, -⟩ := h.exists_kept_of_skeleton hinj hr
      exact (Graph.isConnected_iff _ _).mpr ⟨r', hr', .inl (hsource'.trans hsource)⟩
    · have hedge := hheld _ (Containment.mem_offers.mpr (.inl ⟨d, hd, rfl⟩)) _
        (List.mem_singleton_self _)
      rwa [Containment.target_folderEdge] at hedge
    · have hedge := hheld _ (Containment.mem_offers.mpr (.inr ⟨path, hp, rfl⟩)) _
        (List.mem_singleton_self _)
      rwa [Containment.target_fileEdge] at hedge
  rw [ids_graph] at hid
  rcases (h.mem_ids_parsing id).mp hid with hid | hid
  · exact hskeleton id hid
  · obtain ⟨x, hx, rfl⟩ := List.mem_map.mp hid
    rcases exists_mem_fresh s.skeleton.graph.ids hx with htaken | ⟨x', hx', hsame⟩
    · exact hskeleton _ htaken
    · obtain ⟨r, hr, -, -, htarget⟩ := h.exists_defines hinj hx'
      exact (Graph.isConnected_iff _ _).mpr ⟨r, hr, .inr (htarget.trans hsame)⟩

/-- Without visible files the graph is the project alone. -/
theorem Complete.graph_eq_of_visible_eq_nil (h : s.Complete os) (hvisible : s.plan.visible = []) :
    s.graph e =
      ⟨[Containment.projectNode s.request.projectName s.request.projectRoot], []⟩ := by
  have hos : os = [] := by
    refine List.eq_nil_iff_forall_not_mem.mpr fun o ho => ?_
    have hmem := h.mem_visible ho
    rw [hvisible] at hmem
    cases hmem
  subst hos
  have hskeleton : s.skeleton.graph =
      ⟨[Containment.projectNode s.request.projectName s.request.projectRoot], []⟩ := by
    rw [skeleton, Engine.skeletonOf, hvisible]
    rfl
  have hdescr : Parsing.excludedDescriptions s.skeleton.fileIds s.request.fileContents
      s.plan.excluded = [] := by
    refine List.eq_nil_iff_forall_not_mem.mpr fun d hd => ?_
    obtain ⟨path, hp, -⟩ := mem_visible_of_mem_excludedDescriptions hd
    rw [hvisible] at hp
    cases hp
  have hparsing := h.parsing
  rw [List.foldl_nil, beforeParsing_eq, hdescr] at hparsing
  have hsorted : ParsedFiles.sorted ∅ = [] := Sorting.sort_nil _
  simp only [graph, links, Engine.links, hparsing, Links.ofInventory, Imports.addTo,
    Imports.relationships, Imports.ofFiles, Heritage.addTo, Heritage.links, Heritage.ofFiles,
    Calls.addTo, Calls.relationships, CallContext.classified, Calls.ofFiles, hsorted]
  exact hskeleton

end Stages

/-! ### The report -/

/-- The report of a run that returns has no findings, whatever was ingested before. -/
theorem Engine.report_clean (e : Engine) (request : Request) (i : Interruptions) {cache : Cache}
    (hcache : cache.Reachable) {res : IngestResult} (hrun : (e.run request i cache).1 = .ok res)
    (hinj : Set.InjOn Identifier.digest {t | t ∈ e.hashed request i cache}) :
    res.report.integrity.violations = [] ∧
    (∀ r ∈ res.store.graph.relationships, res.store.graph.hasNode r.source = true ∧
      res.store.graph.hasNode r.target = true) ∧
    res.report.integrity.unflaggedFiles = [] ∧
    ∃ plan, Plan.ofRequest e.settings request = .ok plan ∧
      res.report.integrity.isolatedCounts =
        if plan.visible = [] then ⟨[(NodeKind.project.name, 1)]⟩ else ∅ := by
  obtain ⟨s, os, after, hstages, rfl, hplan, hs, rfl⟩ := Engine.exists_complete hcache.sound hrun
  have hinj' : s.Injective e := Stages.injective_of_hashed hstages hinj
  refine ⟨hs.violations_eq_nil e, fun r hr => ?_, hs.accounted hinj', s.plan, hplan, ?_⟩
  · obtain ⟨hsource, htarget⟩ := hs.ends_mem_ids hr
    exact ⟨(Graph.hasNode_iff _ _).mpr hsource, (Graph.hasNode_iff _ _).mpr htarget⟩
  · split
    · next hvisible =>
      have hgraph := hs.graph_eq_of_visible_eq_nil (e := e) hvisible
      show (s.graph e).validate.isolatedCounts = _
      rw [hgraph]
      rfl
    · next hvisible =>
      have hnone : (s.graph e).nodes.filter (fun n => !(s.graph e).isConnected n.id) = [] := by
        refine List.filter_eq_nil_iff.mpr fun n hn => ?_
        rw [hs.isConnected hinj' hvisible (List.mem_map_of_mem hn)]
        exact Bool.false_ne_true
      show (s.graph e).validate.isolatedCounts = _
      simp only [Graph.validate, hnone]
      rfl

/-! ### A sample -/

namespace Sample

/-- A function that calls itself. -/
def source : String :=
  "def f():f()"

/-- Its syntax tree. -/
def tree : SyntaxTree := .ofRows
  [⟨"module", true, none, 0, 11, none, []⟩,
   ⟨"function_definition", true, none, 0, 11, some 0, []⟩,
   ⟨"def", false, none, 0, 3, some 1, []⟩,
   ⟨"identifier", true, some "name", 4, 5, some 1, []⟩,
   ⟨"parameters", true, some "parameters", 5, 7, some 1, []⟩,
   ⟨"(", false, none, 5, 6, some 4, []⟩,
   ⟨")", false, none, 6, 7, some 4, []⟩,
   ⟨":", false, none, 7, 8, some 1, []⟩,
   ⟨"block", true, some "body", 8, 11, some 1, []⟩,
   ⟨"expression_statement", true, none, 8, 11, some 8, []⟩,
   ⟨"call", true, none, 8, 11, some 9, []⟩,
   ⟨"identifier", true, some "function", 8, 9, some 10, []⟩,
   ⟨"argument_list", true, some "arguments", 9, 11, some 10, []⟩,
   ⟨"(", false, none, 9, 10, some 12, []⟩,
   ⟨")", false, none, 10, 11, some 12, []⟩] false

/-- The one file with source code. -/
def files : List SourceFile :=
  [⟨"a.py", source, tree⟩]

/-- An engine that knows the tree. -/
def engine : Engine :=
  .knowing .python files

/-- A request for the function, and for a file in a hidden directory. -/
def request : Request :=
  { filePaths := ["a.py", ".git/HEAD"], fileContents := ⟨[("a.py", source)]⟩ }

/-- What is found: a function, and a call of it. -/
def outline : Outline where
  project := "project"
  visible := ["a.py"]
  definitions := [("a.py", .functionDecl, "function:a.py:f:0:11")]
  imports := []
  heritage := []
  calls := [("a.py", .localTarget, some "function:a.py:f:0:11")]

/-- The identifiers of project, file and function. -/
def ids : OrderedMap String String :=
  ⟨[(Identifier.structureText .project "project", "a98b5e2730c1d113f758df8d"),
    (Identifier.structureText .file "a.py", "4a9f4aa122b45024abcedc57"),
    ("function:a.py:f:0:11", "aa97ebca2abb641110913462")]⟩

/-- The digests of the texts of the sample start differently. -/
theorem separates : outline.Separates ids := by
  decide +kernel

/-- What is found in the function. -/
theorem outlines : (Plan.ofRequest {} request).toOption.any
    (fun plan => decide (engine.Outlines .python request files outline plan)) = true := by
  decide +kernel

/-- A run of the sample returns with its outline. -/
theorem exists_outlined : ∃ s os, Stages.Outlined s os engine .python files request outline :=
  Engine.exists_outlined (List.nodup_singleton _) outlines (by decide) separates

/-- The digests of the sample are different. -/
theorem injOn_hashed :
    Set.InjOn Identifier.digest {t | t ∈ engine.hashed request {} (Cache.ofSettings {})} := by
  obtain ⟨s, os, h⟩ := exists_outlined
  exact h.injOn_hashed

/-- A run of the sample returns a graph with a relationship of calls. -/
theorem exists_result :
    ∃ res, (engine.run request {} (Cache.ofSettings {})).1 = .ok res ∧
      ∃ r ∈ res.store.graph.relationships, r.kind = .calls := by
  obtain ⟨s, os, h⟩ := exists_outlined
  obtain ⟨after, hrun⟩ := h.returns
  have hcall : ("a.py", .localTarget, some "function:a.py:f:0:11") ∈ (s.outline engine).calls := by
    rw [h.outline]
    exact List.mem_singleton_self _
  obtain ⟨c, hc, -, -, htarget⟩ := Stages.exists_of_mem_calls_outline hcall
  obtain ⟨r, hr, hkind, -⟩ := h.complete.exists_call h.injective hc
    (Option.isSome_map.symm.trans (congrArg Option.isSome htarget))
  exact ⟨_, hrun, r, hr, hkind⟩

/-- The sample has one visible file. -/
theorem visible_eq {plan : Plan} (hplan : Plan.ofRequest engine.settings request = .ok plan) :
    plan.visible = ["a.py"] := by
  obtain ⟨s, os, h⟩ := exists_outlined
  exact h.visible_eq hplan

end Sample

/-- The report on the sample has no findings. -/
theorem Engine.report_clean_sample :
    ∃ res, (Sample.engine.run Sample.request {} (Cache.ofSettings {})).1 = .ok res ∧
      res.report.integrity.violations = [] ∧ res.report.integrity.unflaggedFiles = [] ∧
      res.report.integrity.isolatedCounts = ∅ := by
  obtain ⟨res, hres, -⟩ := Sample.exists_result
  obtain ⟨hviolations, -, hunflagged, plan, hplan, hisolated⟩ :=
    Engine.report_clean _ _ _ (Cache.reachable_ofSettings {}) hres Sample.injOn_hashed
  have hne : plan.visible ≠ [] := by
    rw [Sample.visible_eq hplan]
    exact List.cons_ne_nil _ _
  rw [if_neg hne] at hisolated
  exact ⟨res, hres, hviolations, hunflagged, hisolated⟩

end CodeGraph
