import CodeGraph.Proofs.FileNodes

/-!
# Files that are filtered out

A filter or an ignore rule excludes a file by its path. Such a file has no node, is not parsed, and
is counted as skipped, so two requests that are the same but for this file lead to the same graph:
the plans show the same files, the batches are the same, and the states of the parsing stage differ
in the counts of skipped files only.

## Main definitions

* `Request.SameBut`: two requests that may differ in a file.
* `Parsing.Alike`: two states of the parsing stage that may differ in the counts of skipped files.

## Main results

* `splitFiles_filter`: a file that no listed directory lies above may be left out.
* `Engine.handleBatches_alike`: batches of the same files are handled alike.
* `Engine.hidden_irrelevant`: a file that is filtered out does not influence the graph.
-/

namespace CodeGraph

/-! ### Listed paths -/

/-- Without a path the other files stay, if no directory above it is listed as well. -/
theorem splitFiles_filter {paths : List String} {q : String}
    (h : ∀ d ∈ Path.ancestors q, d ∉ paths) :
    (splitFiles (paths.filter (· ≠ q))).1 = (splitFiles paths).1.filter (· ≠ q) := by
  have hunique : Text.distinct ((paths.filter (· ≠ q)).filter (· ≠ "")) =
      (Text.distinct (paths.filter (· ≠ ""))).filter (· ≠ q) := by
    rw [List.filter_comm, Text.distinct_filter]
  have hdirs : ∀ p ∈ Text.distinct (paths.filter (· ≠ "")),
      p ∈ directoriesAbove ((Text.distinct (paths.filter (· ≠ ""))).filter (· ≠ q)) ↔
        p ∈ directoriesAbove (Text.distinct (paths.filter (· ≠ ""))) := by
    intro p hp
    simp only [directoriesAbove, List.mem_flatMap]
    constructor
    · rintro ⟨p', hp', hmem⟩
      exact ⟨p', (List.mem_filter.mp hp').1, hmem⟩
    · rintro ⟨p', hp', hmem⟩
      -- no listed path is a directory above the one that is left out
      have hne : p' ≠ q := by
        rintro rfl
        exact h p hmem (List.mem_filter.mp (Text.mem_distinct.mp hp)).1
      exact ⟨p', List.mem_filter.mpr ⟨hp', decide_eq_true hne⟩, hmem⟩
  simp only [splitFiles, hunique]
  rw [List.filter_filter, List.filter_filter]
  refine List.filter_congr fun p hp => ?_
  simp only [hdirs p hp, Bool.and_comm]

/-- What hides a file is its path, whatever its content. -/
theorem Selection.exclusion?_of_isHidden {s : Selection} {path : String} {content : Option String}
    (h : Plan.isHidden (s.exclusion? path content) = true) (content' : Option String) :
    s.exclusion? path content' = s.exclusion? path content := by
  unfold exclusion? at h ⊢
  split_ifs at h ⊢
  · rfl
  · rfl
  · rfl
  · exfalso
    cases content with
    | none => cases h
    | some text =>
      dsimp only at h
      split at h <;> cases h

/-! ### Requests that differ in one file -/

/-- Two requests that are the same but for the entries and the content of a file. -/
structure Request.SameBut (q : String) (r r' : Request) : Prop where
  options : r'.options = r.options
  projectName : r'.projectName = r.projectName
  projectRoot : r'.projectRoot = r.projectRoot
  contents : ∀ path, path ≠ q → r'.fileContents.get? path = r.fileContents.get? path
  files : (splitFiles r'.filePaths).1.filter (· ≠ q) = (splitFiles r.filePaths).1.filter (· ≠ q)

/-- The request with other contents. -/
def Request.withContents (r : Request) (contents : OrderedMap String String) : Request :=
  { r with fileContents := contents }

/-- The request without the entries of a path. -/
def Request.without (r : Request) (q : String) : Request :=
  { r with filePaths := r.filePaths.filter (Path.normalize · ≠ q) }

/-- Contents that agree on all other files. -/
theorem Request.sameBut_withContents {q : String} {r : Request}
    {contents : OrderedMap String String}
    (h : ∀ path, path ≠ q → contents.get? path = r.fileContents.get? path) :
    r.SameBut q (r.withContents contents) :=
  ⟨rfl, rfl, rfl, h, rfl⟩

/-- The normalized paths without those of a file. -/
theorem Request.filePaths_normalized_without (r : Request) (q : String) :
    (r.without q).normalized.filePaths = r.normalized.filePaths.filter (· ≠ q) := by
  have hmap : (r.filePaths.map Path.normalize).filter (· ≠ q) =
      (r.filePaths.filter (Path.normalize · ≠ q)).map Path.normalize := by
    rw [List.filter_map, Function.comp_def]
  simp only [normalized, without]
  rw [List.filter_comm, hmap]

/-- A path that no listed directory lies above is left out. -/
theorem Request.sameBut_without {q : String} {r : Request}
    (h : ∀ d ∈ Path.ancestors q, d ∉ r.normalized.filePaths) :
    r.normalized.SameBut q (r.without q).normalized := by
  refine ⟨rfl, rfl, rfl, fun _ _ => rfl, ?_⟩
  rw [filePaths_normalized_without, splitFiles_filter h, List.filter_filter]
  simp only [Bool.and_self]

/-! ### Plans -/

namespace Plan

variable {settings : Settings} {q : String} {r r' : Request} {plan plan' : Plan}

/-- Whether a file is hidden is the same in both requests. -/
theorem isHidden_of_sameBut (hsame : r.SameBut q r')
    (hq : isHidden (entry settings r q).2 = true) : isHidden (entry settings r' q).2 = true := by
  simp only [entry, hsame.options] at hq ⊢
  rwa [Selection.exclusion?_of_isHidden hq]

/-- The plans of two such requests have the same other files. -/
theorem filter_files_of_sameBut (hsame : r.SameBut q r') (h : ofRequest settings r = .ok plan)
    (h' : ofRequest settings r' = .ok plan') :
    plan'.files.filter (·.1 ≠ q) = plan.files.filter (·.1 ≠ q) := by
  have hentry : ∀ path, path ≠ q → entry settings r' path = entry settings r path := by
    intro path hne
    simp only [entry, hsame.options, hsame.contents path hne]
  have hfilter : ∀ request : Request, ((splitFiles request.filePaths).1.map
      (entry settings request)).filter (·.1 ≠ q) =
        ((splitFiles request.filePaths).1.filter (· ≠ q)).map (entry settings request) := by
    intro request
    rw [List.filter_map]
    rfl
  rw [(eq_of_ofRequest h).2, (eq_of_ofRequest h').2, hfilter, hfilter, hsame.files]
  refine List.map_congr_left fun path hpath => hentry path ?_
  exact of_decide_eq_true (List.mem_filter.mp hpath).2

/-- If no hidden file is chosen, a hidden file need not be there to choose from. -/
theorem filter_files_of_isHidden (h : ofRequest settings r = .ok plan)
    (hq : isHidden (entry settings r q).2 = true) {shown : Option SkipReason → Bool}
    (hshown : ∀ reason, isHidden reason = true → shown reason = false) :
    plan.files.filter (shown ·.2) = (plan.files.filter (·.1 ≠ q)).filter (shown ·.2) := by
  rw [List.filter_filter]
  refine List.filter_congr fun f hf => ?_
  by_cases hne : f.1 = q
  · rw [(eq_of_ofRequest h).2] at hf
    obtain ⟨path, -, rfl⟩ := List.mem_map.mp hf
    obtain rfl : path = q := hne
    rw [hshown _ hq, Bool.false_and]
  · rw [decide_eq_true hne, Bool.and_true]

/-- Two plans with the same selection that show the same files. -/
structure ShowsSame (p p' : Plan) : Prop where
  selection : p'.selection = p.selection
  visible : p'.visible = p.visible
  pending : p'.pending = p.pending
  blank : p'.blank = p.blank

/-- A hidden file has one of three reasons. -/
theorem isHidden_iff {reason : Option SkipReason} :
    isHidden reason = true ↔ reason = some .directoryFilter ∨ reason = some .extensionFilter ∨
      reason = some .ignored := by
  simp [isHidden, or_assoc]

theorem isVisible_eq_false {reason : Option SkipReason} (h : isHidden reason = true) :
    isVisible reason = false := by
  rcases isHidden_iff.mp h with rfl | rfl | rfl <;> rfl

/-- A file that is hidden has no node. -/
theorem notMem_visible_of_isHidden (h : ofRequest settings r = .ok plan)
    (hq : isHidden (entry settings r q).2 = true) : q ∉ plan.visible := by
  intro hmem
  obtain ⟨f, hf, rfl⟩ := List.mem_map.mp hmem
  obtain ⟨hf, hvisible⟩ := List.mem_filter.mp hf
  rw [(eq_of_ofRequest h).2] at hf
  obtain ⟨path, -, rfl⟩ := List.mem_map.mp hf
  have hnot : isVisible (entry settings r path).2 = false := isVisible_eq_false hq
  rw [hnot] at hvisible
  cases hvisible

/-- The plans of two requests that differ in a hidden file show the same files. -/
theorem showsSame_of_sameBut (hsame : r.SameBut q r') (hq : isHidden (entry settings r q).2 = true)
    (h : ofRequest settings r = .ok plan) (h' : ofRequest settings r' = .ok plan') :
    plan.ShowsSame plan' := by
  have hchosen : ∀ shown : Option SkipReason → Bool,
      (∀ reason, isHidden reason = true → shown reason = false) →
      plan'.files.filter (shown ·.2) = plan.files.filter (shown ·.2) := by
    intro shown hshown
    rw [filter_files_of_isHidden h hq hshown,
      filter_files_of_isHidden h' (isHidden_of_sameBut hsame hq) hshown,
      filter_files_of_sameBut hsame h h']
  constructor
  case selection => rw [(eq_of_ofRequest h).1, (eq_of_ofRequest h').1, hsame.options]
  case visible =>
    exact congrArg (List.map Prod.fst) (hchosen isVisible fun _ hreason =>
      isVisible_eq_false hreason)
  case pending =>
    refine congrArg (List.map Prod.fst) (hchosen Option.isNone fun reason hreason => ?_)
    rcases isHidden_iff.mp hreason with rfl | rfl | rfl <;> rfl
  case blank =>
    refine congrArg (List.map Prod.fst) (hchosen (· = some .empty) fun reason hreason => ?_)
    rcases isHidden_iff.mp hreason with rfl | rfl | rfl <;> rfl

end Plan

/-! ### The parsing stage -/

namespace Parsing

/-- Two states of the parsing stage that may differ in the counts of skipped files. -/
def Alike (p p' : Parsing) : Prop :=
  ∃ skips, p' = { p with skipped := skips }

variable {fileIds contents contents' : OrderedMap String String} {p p' : Parsing}

/-- Writing an outcome keeps states alike, if its file has the same content. -/
theorem Alike.write (h : p.Alike p') {o : FileOutcome}
    (hcontent : contents'.get? o.path = contents.get? o.path) :
    (p.write fileIds contents o).Alike (p'.write fileIds contents' o) := by
  obtain ⟨skips, rfl⟩ := h
  have hdescription : o.description contents' = o.description contents := by
    funext count
    simp only [FileOutcome.description, hcontent]
  simp only [write_eq, hdescription]
  exact ⟨_, rfl⟩

/-- Writing outcomes keeps states alike. -/
theorem Alike.foldl_write (fileIds : OrderedMap String String) {os : List FileOutcome}
    (h : p.Alike p') (hcontents : ∀ o ∈ os, contents'.get? o.path = contents.get? o.path) :
    (os.foldl (Parsing.write fileIds contents) p).Alike
      (os.foldl (Parsing.write fileIds contents') p') := by
  induction os generalizing p p' with
  | nil => exact h
  | cons o os ih =>
    exact ih (h.write (hcontents o List.mem_cons_self)) fun o' ho' =>
      hcontents o' (List.mem_cons_of_mem o ho')

end Parsing

namespace Engine

variable {e : Engine} {s : Selection} {stalled : List String}
variable {fileIds contents contents' : OrderedMap String String} {cache : Cache}

/-- Only the contents of its files matter to a batch. -/
theorem handleBatch_congr {paths : List String}
    (h : ∀ path ∈ paths, contents'.get? path = contents.get? path) (cache : Cache) :
    e.handleBatch s stalled contents' paths cache =
      e.handleBatch s stalled contents paths cache := by
  induction paths generalizing cache with
  | nil => rfl
  | cons path paths ih =>
    have hcontent : contents'.getD path "" = contents.getD path "" :=
      congrArg (Option.getD · "") (h path List.mem_cons_self)
    have hrest := ih fun path' hpath' => h path' (List.mem_cons_of_mem path hpath')
    simp only [handleBatch, hcontent, hrest]

/-- Batches of files with the same contents are handled alike. -/
theorem handleBatches_alike {groups : List (List String)} {checks left : Checks}
    {p p' done : Parsing} {after : Cache}
    (hcontents : ∀ path ∈ groups.flatten, contents'.get? path = contents.get? path)
    (hp : p.Alike p')
    (h : e.handleBatches s stalled fileIds contents groups checks p cache =
      (.ok (done, left), after)) :
    ∃ done', done.Alike done' ∧
      e.handleBatches s stalled fileIds contents' groups checks p' cache =
        (.ok (done', left), after) := by
  induction groups generalizing checks p p' cache with
  | nil =>
    obtain ⟨hok, rfl⟩ := Prod.mk.inj h
    obtain ⟨rfl, rfl⟩ := Prod.mk.inj (Except.ok.inj hok)
    exact ⟨p', hp, rfl⟩
  | cons batch groups ih =>
    rw [List.flatten_cons] at hcontents
    have hbatch : ∀ path ∈ batch, contents'.get? path = contents.get? path := fun path hpath =>
      hcontents path (List.mem_append_left _ hpath)
    have hrest : ∀ path ∈ groups.flatten, contents'.get? path = contents.get? path :=
      fun path hpath => hcontents path (List.mem_append_right _ hpath)
    unfold handleBatches at h ⊢
    rw [handleBatch_congr hbatch]
    split at h
    · cases h
    · next mid hpass =>
      split at h
      · cases h
      · next os between hhandle =>
        split at h
        · cases h
        · next relieved released hrelieve =>
          have hwritten := hp.foldl_write fileIds fun o ho =>
            hbatch o.path (path_of_handleBatch hhandle o ho)
          exact ih hrest hwritten h

/-! ### Whole runs -/

variable {request : Request} {i : Interruptions} {res : IngestResult}

/-- The stages of a run that returns, whatever its cache holds. -/
theorem exists_handleBatches_of_run (h : (e.run request i cache).1 = .ok res) :
    ∃ plan checks p left after, Plan.ofRequest e.settings request = .ok plan ∧
      begun request plan i.cancelAfter = .ok (skeletonOf request plan, checks) ∧
      e.handleBatches plan.selection i.stalled (skeletonOf request plan).fileIds
        request.fileContents (batches e.settings.batchSize plan.pending) checks
        (beforeParsing request plan (skeletonOf request plan)) cache = (.ok (p, left), after) ∧
      res = e.finish (skeletonOf request plan) p cache after := by
  unfold run at h
  split at h
  · cases h
  · next plan hplan =>
    unfold execute at h
    split at h
    · cases h
    · next c checks hbegun =>
      obtain ⟨-, rfl, -⟩ := begun_eq_ok_iff.mp hbegun
      dsimp only at h
      split at h
      · cases h
      · next p left after hhandle =>
        split at h
        · cases h
        · exact ⟨plan, checks, p, left, after, hplan, hbegun, hhandle, (Except.ok.inj h).symm⟩

/-- Two requests that differ in a file without node have the same skeleton. -/
theorem skeletonOf_eq {q : String} {r r' : Request} {plan plan' : Plan} (hsame : r.SameBut q r')
    (hplans : plan.ShowsSame plan') : skeletonOf r' plan' = skeletonOf r plan := by
  rw [skeletonOf, skeletonOf, hsame.projectName, hsame.projectRoot, hplans.visible]

/-- Before anything is parsed, a file without node shows in the counts only. -/
theorem beforeParsing_alike {q : String} {r r' : Request} {plan plan' : Plan}
    (hsame : r.SameBut q r') (hplans : plan.ShowsSame plan')
    (hcontents : ∀ path ∈ plan.visible, r'.fileContents.get? path = r.fileContents.get? path)
    (hnodup : (plan.files.map Prod.fst).Nodup) (hnodup' : (plan'.files.map Prod.fst).Nodup) :
    (beforeParsing r plan (skeletonOf r plan)).Alike
      (beforeParsing r' plan' (skeletonOf r' plan')) := by
  have hdescriptions := Stages.excludedDescriptions_eq (s := ⟨r, plan, {}⟩) hnodup
  have hdescriptions' := Stages.excludedDescriptions_eq (s := ⟨r', plan', {}⟩) hnodup'
  have hbefore := Stages.beforeParsing_eq ⟨r, plan, {}⟩
  have hbefore' := Stages.beforeParsing_eq ⟨r', plan', {}⟩
  -- only blank files are described, and the two requests agree on them
  have hblank : ∀ path ∈ plan.blank, path ∈ plan.visible := fun path hpath =>
    plan.visible_perm_blank_append.mem_iff.mpr (List.mem_append_left _ hpath)
  have hmap : plan.blank.map (fun path => (Containment.fileId path, skippedProperties .empty
        (hasContent (r'.fileContents.get? path)) .other [])) =
      plan.blank.map fun path => (Containment.fileId path, skippedProperties .empty
        (hasContent (r.fileContents.get? path)) .other []) :=
    List.map_congr_left fun path hpath => by
      rw [hcontents path (hblank path hpath)]
  rw [hdescriptions] at hbefore
  rw [hdescriptions'] at hbefore'
  simp only [Stages.skeleton, hplans.blank, hplans.visible, hmap] at hbefore hbefore'
  rw [hbefore, hbefore', skeletonOf_eq hsame hplans]
  exact ⟨_, rfl⟩

/-- Two requests that differ in a hidden file lead to the same graph. -/
theorem graph_eq_of_sameBut {q : String} {r r' : Request} {res' : IngestResult}
    (hsame : r.SameBut q r') (hq : Plan.isHidden (Plan.entry e.settings r q).2 = true)
    (h : (e.run r i cache).1 = .ok res) (h' : (e.run r' i cache).1 = .ok res') :
    res'.store.graph = res.store.graph := by
  obtain ⟨plan, checks, p, left, after, hplan, hbegun, hhandle, rfl⟩ :=
    exists_handleBatches_of_run h
  obtain ⟨plan', checks', p', left', after', hplan', hbegun', hhandle', rfl⟩ :=
    exists_handleBatches_of_run h'
  have hplans := Plan.showsSame_of_sameBut hsame hq hplan hplan'
  have hcontents : ∀ path ∈ plan.visible,
      r'.fileContents.get? path = r.fileContents.get? path := by
    intro path hpath
    refine hsame.contents path ?_
    rintro rfl
    exact Plan.notMem_visible_of_isHidden hplan hq hpath
  have hbefore := beforeParsing_alike hsame hplans hcontents (Plan.nodup_of_ofRequest hplan)
    (Plan.nodup_of_ofRequest hplan')
  have hpending : ∀ path ∈ (batches e.settings.batchSize plan.pending).flatten,
      r'.fileContents.get? path = r.fileContents.get? path := by
    intro path hpath
    rw [flatten_batches] at hpath
    exact hcontents path (Plan.mem_visible_of_mem_pending hpath)
  obtain ⟨done, ⟨skips, rfl⟩, hdone⟩ := handleBatches_alike hpending hbefore hhandle
  -- both runs pass the same checks before their first file
  obtain ⟨-, -, hchecks⟩ := begun_eq_ok_iff.mp hbegun
  obtain ⟨-, -, hchecks'⟩ := begun_eq_ok_iff.mp hbegun'
  obtain rfl : checks = checks' := Option.some.inj (hchecks.symm.trans hchecks')
  rw [hplans.selection, hplans.pending, skeletonOf_eq hsame hplans] at hhandle'
  rw [skeletonOf_eq hsame hplans, hhandle'] at hdone
  obtain ⟨hok, rfl⟩ := Prod.mk.inj hdone
  obtain ⟨rfl, -⟩ := Prod.mk.inj (Except.ok.inj hok)
  rw [skeletonOf_eq hsame hplans]
  rfl

/--
A file that a filter or an ignore rule excludes does not influence the graph: with any other content
for it, and without its entries if no directory above it is listed, a run that returns gives the same
nodes and relationships in the same order.
-/
theorem hidden_irrelevant (e : Engine) (request : Request) (i : Interruptions) (cache : Cache)
    (q : String)
    (hq : Plan.isHidden ((Selection.ofSettings e.settings request.options).exclusion? q
      (request.normalized.fileContents.get? q)) = true)
    {res : IngestResult} (h : (e.run request.normalized i cache).1 = .ok res) :
    (∀ contents, (∀ path, path ≠ q →
        contents.get? path = request.normalized.fileContents.get? path) →
      ∀ res', (e.run (request.normalized.withContents contents) i cache).1 = .ok res' →
        res'.store.graph = res.store.graph) ∧
    ((∀ d ∈ Path.ancestors q, d ∉ request.normalized.filePaths) →
      ∀ res', (e.run (request.without q).normalized i cache).1 = .ok res' →
        res'.store.graph = res.store.graph) := by
  constructor
  · intro contents hcontents res' h'
    exact graph_eq_of_sameBut (Request.sameBut_withContents hcontents) hq h h'
  · intro habove res' h'
    exact graph_eq_of_sameBut (Request.sameBut_without habove) hq h h'

/-- A request for a text, and twice for a source in an ignored directory. -/
def vendoredRequest : Request :=
  { filePaths := ["a.txt", "./node_modules/b.py", "node_modules/b.py"]
    fileContents := ⟨[("a.txt", "hello"), ("node_modules/b.py", "def f():f()")]⟩ }

/-- The request with another content for the source. -/
def changedRequest : Request :=
  vendoredRequest.normalized.withContents
    (vendoredRequest.normalized.fileContents.insert "node_modules/b.py" "import a")

/-- The ignored source may have another content, and its entries may be missing. -/
theorem hidden_irrelevant_vendored :
    ∃ res res' res'',
      (({} : Engine).run vendoredRequest.normalized {} (Cache.ofSettings {})).1 = .ok res ∧
      (({} : Engine).run changedRequest {} (Cache.ofSettings {})).1 = .ok res' ∧
      (({} : Engine).run (vendoredRequest.without "node_modules/b.py").normalized {}
        (Cache.ofSettings {})).1 = .ok res'' ∧
      res'.store.graph = res.store.graph ∧ res''.store.graph = res.store.graph := by
  have hreturns :
      (({} : Engine).run vendoredRequest.normalized {} (Cache.ofSettings {})).1.toBool ∧
      (({} : Engine).run changedRequest {} (Cache.ofSettings {})).1.toBool ∧
      (({} : Engine).run (vendoredRequest.without "node_modules/b.py").normalized {}
        (Cache.ofSettings {})).1.toBool := by
    decide +kernel
  obtain ⟨res, h⟩ := Except.exists_eq_ok_of_toBool hreturns.1
  obtain ⟨res', h'⟩ := Except.exists_eq_ok_of_toBool hreturns.2.1
  obtain ⟨res'', h''⟩ := Except.exists_eq_ok_of_toBool hreturns.2.2
  obtain ⟨hcontent, hentries⟩ := hidden_irrelevant {} vendoredRequest {} (Cache.ofSettings {})
    "node_modules/b.py" (by decide +kernel) h
  refine ⟨res, res', res'', h, h', h'', hcontent _ (fun path hne => ?_) res' h',
    hentries (by decide +kernel) res'' h''⟩
  rw [OrderedMap.get?_insert, if_neg hne]

end Engine

end CodeGraph
