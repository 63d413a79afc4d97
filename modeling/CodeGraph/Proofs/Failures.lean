import CodeGraph.Proofs.Manifest
import CodeGraph.Proofs.Offers

/-!
# What stops a run

A failure of one file is meant to end in the report, next to the results of all other files. So it
does for files that are malformed, have no syntax tree or take too long. Here are all the ways in
which a run of `Engine.run` that nobody cancels gives no result: a plan without files, and a few
conditions on the files and the settings of a run, among them configuration files that are of no
use.

What the machine itself cannot do is outside `Engine.run`, and so it is not among these ways. The
stack ends below a search through re-exports if the settings allow for several hundred hops and the
files have a chain of that length. A time limit may be larger than a clock can hold. The text of a
file may have halves of surrogate pairs that stand alone, which no `String` has. And memory ends.

## Main definitions

* `Engine.Stops`: the conditions that stop a run.
* `IngestResult.Shows`: what is left of a file in graph and report.

## Main results

* `Engine.stops_of_yields`: a file without an outcome stops a run.
* `Engine.exists_stops_of_run_eq_error`: a run stops for one of the conditions.
* `Stages.Complete.shows`: a run that returns shows all its files.
* `Engine.failures_contained`: a run fails for lack of files, stops, or shows all its files.
* `Engine.stopped_by_manifest`: a file of no use stops a run.
-/

namespace CodeGraph

/-- Whether an error tells that there is nothing to ingest. -/
def IngestError.isConfig : IngestError → Bool
  | noFiles | filteredOut _ => true
  | _ => false

/-- A request without a plan has nothing to ingest. -/
theorem Plan.isConfig_of_ofRequest {settings : Settings} {request : Request} {err : IngestError}
    (h : ofRequest settings request = .error err) : err.isConfig = true := by
  unfold ofRequest at h
  split at h
  · obtain rfl := Except.error.inj h
    rfl
  · dsimp only at h
    split at h
    · obtain rfl := Except.error.inj h
      rfl
    · cases h

namespace Engine

variable {e : Engine} {s : Selection} {stalled : List String} {path content : String}

/-! ### Runs without a result -/

/--
The conditions that stop a run with a plan, with what it reports. The numbers behind `tooDeep`,
`patterns` and the nesting of manifests are those of a stack of the usual size.
-/
inductive Stops (e : Engine) (request : Request) (stalled : List String) (lowWater : Option Int)
    (plan : Plan) : IngestError → Prop where
  | tooDeep (hdeep : Containment.shallow [] plan.visible = false) :
      Stops e request stalled lowWater plan .tooDeep
  | manifest {path : String} {fault : Manifest.Fault} (hpath : path ∈ plan.pending)
      (hconfig : plan.selection.classify path = .config)
      (hfault : Manifest.harvest path (request.fileContents.getD path "") =
        .error (.unusable fault)) :
      Stops e request stalled lowWater plan (.manifest fault)
  | endless {path : String} {l : Language} (hpath : path ∈ plan.pending)
      (hsource : IsParsedIn plan.selection path l) (hstalled : path ∈ stalled)
      (hlimit : e.timeout? = none) :
      Stops e request stalled lowWater plan (.endless path)
  | patterns {path : String} {l : Language} {tree : SyntaxTree} (hpath : path ∈ plan.pending)
      (hsource : IsParsedIn plan.selection path l)
      (htree : e.forest.tree? l (Digest.ofText (request.fileContents.getD path "")) = some tree)
      (hreadable : (⟨tree, (request.fileContents.getD path "").toUTF8⟩ : SourceTree).isReadable l
        e.broken = false) :
      Stops e request stalled lowWater plan (.patterns path)
  | budget (hfiles : plan.pending ≠ []) (hmark : lowWater = none) :
      Stops e request stalled lowWater plan .budget

variable {fileIds contents : OrderedMap String String} {request : Request} {i : Interruptions}
variable {cache : Cache} {plan : Plan} {err : IngestError}

/-- The failure of a traversal is that of one of its items. -/
theorem error_mem_of_mapM_id {ε α : Type} {rs : List (Except ε α)} {err : ε}
    (h : rs.mapM id = .error err) : .error err ∈ rs := by
  induction rs with
  | nil => cases h
  | cons r rs ih =>
    rw [List.mapM_cons] at h
    cases r with
    | error err' =>
      obtain rfl : err' = err := Except.error.inj h
      exact List.mem_cons_self
    | ok a =>
      cases hrs : rs.mapM id with
      | error err' =>
        rw [hrs] at h
        obtain rfl : err' = err := Except.error.inj h
        exact List.mem_cons_of_mem _ (ih hrs)
      | ok as =>
        rw [hrs] at h
        cases h

/-- Batches fail for memory that cannot be released, or like one of their files. -/
theorem settle_eq_error {relief : Bool} {rss : List (List (Except IngestError FileOutcome))}
    {p : Parsing} (h : settle fileIds contents relief rss none p = .error err) :
    (err = .budget ∧ relief = false ∧ rss ≠ []) ∨ .error err ∈ rss.flatten := by
  induction rss generalizing p with
  | nil => cases h
  | cons batch rss ih =>
    rw [List.flatten_cons, List.mem_append]
    simp only [settle, Checks.pass] at h
    cases hbatch : batch.mapM id with
    | error err' =>
      simp only [hbatch] at h
      obtain rfl := Except.error.inj h
      exact .inr (.inl (error_mem_of_mapM_id hbatch))
    | ok os =>
      simp only [hbatch] at h
      cases relief with
      | false => exact .inl ⟨(Except.error.inj h).symm, rfl, List.cons_ne_nil batch rss⟩
      | true =>
        rcases ih h with ⟨-, hrelief, -⟩ | hmem
        · cases hrelief
        · exact .inr (.inr hmem)

/-- A run that nobody cancels gets to its first file unless folders are nested too deep. -/
theorem begun_eq_error (h : begun request plan none = .error err) :
    err = .tooDeep ∧ Containment.shallow [] plan.visible = false := by
  cases hshallow : Containment.shallow [] plan.visible with
  | true =>
    have hbegun : begun request plan none = .ok (skeletonOf request plan, none) :=
      begun_eq_ok_iff.mpr ⟨hshallow, rfl, rfl⟩
    rw [h] at hbegun
    cases hbegun
  | false =>
    simp only [begun, Checks.pass, skeleton_eq, hshallow, bind, Except.bind] at h
    exact ⟨(Except.error.inj h).symm, rfl⟩

/-- After its last batch, a run that nobody cancels returns. -/
theorem conclude_eq_error {c : Containment} {before after : Cache} {relief : Bool}
    {rss : List (List (Except IngestError FileOutcome))} {p : Parsing}
    (h : e.conclude c before after (settle fileIds contents relief rss none p) = .error err) :
    settle fileIds contents relief rss none p = .error err := by
  cases hsettle : settle fileIds contents relief rss none p with
  | error err' =>
    rw [hsettle] at h
    exact congrArg Except.error (Except.error.inj h)
  | ok done =>
    obtain ⟨p', left⟩ := done
    obtain ⟨-, hleft, -⟩ := settle_eq_ok_iff.mp hsettle
    obtain rfl : left = none := (Option.some.inj hleft).symm
    rw [hsettle] at h
    cases h

/-- What a pending file yields is no failure, or stops the run. -/
theorem stops_of_yields {P : Cache.Source → ParsedFile → Prop} {lowWater : Option Int}
    (hpath : path ∈ plan.pending)
    (h : e.Yields P plan.selection stalled path (request.fileContents.getD path "") (.error err)) :
    e.Stops request stalled lowWater plan err := by
  rcases h with houtcome | ⟨f, l, -, -, -, hok⟩
  · cases results_of_outcome_eq_error houtcome.symm with
    | config hconfig hr =>
      have hcases := configures_handleConfig path (request.fileContents.getD path "")
      rw [hr] at hcases
      cases hcases with
      | unusable hfault => exact .manifest hpath hconfig hfault
    | @endless l hl hparse =>
      have hcases := e.parses_parse stalled l path (request.fileContents.getD path "")
      rw [hparse] at hcases
      cases hcases with
      | endless hstalled hlimit => exact .endless hpath hl hstalled hlimit
    | @tooDeep l hl hparse =>
      have hcases := e.parses_parse stalled l path (request.fileContents.getD path "")
      rw [hparse] at hcases
      cases hcases with
      | tooDeep _ htree hdeep => exact .patterns hpath hl htree hdeep
  · cases hok

/-- A run that nobody cancels and that gives no result has no plan, or it is stopped. -/
theorem exists_stops_of_run_eq_error (hi : i.cancelAfter = none)
    (hc : cache.Sound Cache.Genuine) (h : (e.run request i cache).1 = .error err) :
    Plan.ofRequest e.settings request = .error err ∨
      ∃ plan, Plan.ofRequest e.settings request = .ok plan ∧
        e.Stops request i.stalled cache.files.lowWater plan err := by
  rcases run_cases hc Cache.faithful_genuine (e.admits_genuine request i) with
    ⟨err', hrun, ⟨plan, hplan, hbegun⟩ | hplan⟩ |
    ⟨plan, checks, rss, after, hplan, hbegun, -, hrun, -, -, hyields⟩
  · rw [hrun] at h
    obtain rfl := Except.error.inj h
    rw [hi] at hbegun
    obtain ⟨rfl, hdeep⟩ := begun_eq_error hbegun
    exact .inr ⟨plan, hplan, .tooDeep hdeep⟩
  · rw [hrun] at h
    obtain rfl := Except.error.inj h
    exact .inl hplan
  · refine .inr ⟨plan, hplan, ?_⟩
    obtain ⟨-, -, hchecks⟩ := begun_eq_ok_iff.mp hbegun
    rw [hi] at hchecks
    obtain rfl : checks = none := (Option.some.inj hchecks).symm
    rw [hrun] at h
    rcases settle_eq_error (conclude_eq_error h) with ⟨rfl, hrelief, hrss⟩ | hmem
    · refine .budget (fun hnil => hrss ?_) (Option.not_isSome_iff_eq_none.mp (by simp [hrelief]))
      rw [hnil, batches] at hyields
      exact List.forall₂_nil_left_iff.mp hyields
    · have hflat := List.rel_flatten hyields
      rw [flatten_batches] at hflat
      obtain ⟨path, hpath, hyield⟩ := exists_of_mem_forall₂ hflat hmem
      exact stops_of_yields hpath hyield

/-! ### Files of a run that returns -/

/-- A file that fails is reported under its own path. -/
theorem path_of_results_failed {failure : FileFailure}
    (h : e.Results s stalled path content (.ok (.failed failure))) : failure.path = path := by
  cases h with
  | config _ hr =>
    have hcases := configures_handleConfig path content
    rw [hr] at hcases
    cases hcases with
    | malformed _ => rfl
  | @failed l _ _ hparse =>
    have hcases := e.parses_parse stalled l path content
    rw [hparse] at hcases
    cases hcases with
    | stopped _ _ => rfl
    | treeless _ _ => rfl

/-- A file that fails is reported under its own path, also if a cache takes part. -/
theorem path_of_yields_failed {P : Cache.Source → ParsedFile → Prop} {o : FileOutcome}
    {failure : FileFailure} (h : e.Yields P s stalled path content (.ok o))
    (hfailure : o.failure? = some failure) : failure.path = o.path := by
  rcases h with houtcome | ⟨f, l, -, -, -, hok⟩
  · obtain ⟨r, hr, rfl⟩ := exists_of_outcome_eq_ok houtcome.symm
    cases r with
    | failed failure' =>
      obtain rfl : failure' = failure := Option.some.inj hfailure
      exact path_of_results_failed hr
    | parsed file => cases hfailure
    | skipped reason => cases hfailure
  · obtain rfl := Except.ok.inj hok
    cases hfailure

/-- A configuration file never comes from a cache. -/
theorem handleConfig_of_yields {P : Cache.Source → ParsedFile → Prop} {o : FileOutcome}
    (h : e.Yields P s stalled path content (.ok o)) (hconfig : s.classify path = .config) :
    handleConfig path content = .ok o.result := by
  have hsource : ∀ l, ¬IsParsedIn s path l := by
    rintro l ⟨language, hclass, -⟩
    rw [hconfig] at hclass
    cases hclass
  rcases h with houtcome | ⟨f, l, -, hl, -, -⟩
  · obtain ⟨r, hr, rfl⟩ := exists_of_outcome_eq_ok houtcome.symm
    cases hr with
    | config _ hr => exact hr
    | other hclass => cases hconfig.symm.trans hclass
    | generated hclass _ => cases hconfig.symm.trans hclass
    | unsupported hclass _ => cases hconfig.symm.trans hclass
    | failed hl _ => exact absurd hl (hsource _)
    | parsed hl _ => exact absurd hl (hsource _)
  · exact absurd hl (hsource l)

end Engine

/-- What is left of a file in graph and report: its node, its definitions and its failure. -/
structure IngestResult.Shows (res : IngestResult) (o : FileOutcome) : Prop where
  node : Containment.fileId o.path ∈ res.store.graph.ids
  definitions : ∀ f, o.parsed? = some f → ∀ d ∈ f.definitions, d.nodeId ∈ res.store.graph.ids
  failures : res.report.parseFailures.filter (·.path = o.path) = o.failure?.toList

/-- A run that returns shows all its files, and each failure once. -/
theorem Stages.Complete.shows {s : Stages} {os : List FileOutcome} (h : s.Complete os)
    (hfailures : ∀ o ∈ os, ∀ failure, o.failure? = some failure → failure.path = o.path)
    {o : FileOutcome} (ho : o ∈ os) (e : Engine) (before after : Cache) :
    (e.finish s.skeleton s.parsing before after).Shows o := by
  have hids : (e.finish s.skeleton s.parsing before after).store.graph.ids =
      s.parsing.inventory.graph.ids := s.ids_graph e
  constructor
  case node =>
    rw [hids]
    exact h.fileId_mem_ids (h.mem_visible ho)
  case definitions =>
    intro f hf d hd
    have hfile : (o.path, f) ∈ s.files := by
      rw [Stages.files, h.parsed_eq]
      refine List.mem_filterMap.mpr ⟨o, ho, ?_⟩
      rw [FileOutcome.parsedEntry?, hf, Option.map_some]
    rw [hids]
    exact h.nodeId_mem_ids hfile hd
  case failures =>
    have hall : s.parsing.parseFailures = os.flatMap fun o => o.failure?.toList := by
      rw [h.written.parseFailures, Stages.beforeParsing_eq, ← List.filterMap_eq_flatMap_toList]
      rfl
    have hgroups : ∀ o ∈ os, ∀ failure ∈ o.failure?.toList, failure.path = o.path :=
      fun o ho failure hmem => hfailures o ho failure (Option.mem_toList.mp hmem)
    have hpaths : (os.map FileOutcome.path).Nodup := h.paths ▸ Plan.nodup_pending h.nodup
    show s.parsing.parseFailures.filter _ = _
    rw [hall, filter_flatMap_eq hgroups, filter_key_eq_singleton hpaths ho,
      List.flatMap_singleton]

/-! ### All runs -/

/--
A configuration file gives definitions unless it is malformed or of no use. A run that nobody
cancels, on a cache that only runs have filled, has nothing to ingest, or it shows all its files: a
malformed configuration file as one failure in the report, and every other one by its definitions.
There is no third way but for the conditions that stop a run.
-/
theorem Engine.failures_contained (e : Engine) (request : Request) (i : Interruptions)
    (hi : i.cancelAfter = none) {cache : Cache} (hcache : cache.Reachable) :
    (∀ path content, Manifest.Judged (Manifest.harvest path content)
      (Manifest.IsMalformed path content) (Manifest.IsUnusable path content)) ∧
    ((∃ err, (e.run request i cache).1 = .error err ∧ err.isConfig = true ∧
        Plan.ofRequest e.settings request = .error err) ∨
      ∃ plan, Plan.ofRequest e.settings request = .ok plan ∧
        ((∃ res, (e.run request i cache).1 = .ok res ∧
            ∀ path ∈ plan.pending, ∃ o, e.Yields Cache.Genuine plan.selection i.stalled path
                (request.fileContents.getD path "") (.ok o) ∧ o.path = path ∧ res.Shows o ∧
              (plan.selection.classify path = .config →
                handleConfig path (request.fileContents.getD path "") = .ok o.result)) ∨
          ∃ err, (e.run request i cache).1 = .error err ∧
            e.Stops request i.stalled cache.files.lowWater plan err)) := by
  refine ⟨Manifest.judged_harvest, ?_⟩
  cases hrun : (e.run request i cache).1 with
  | error err =>
    rcases exists_stops_of_run_eq_error hi hcache.sound hrun with hplan | ⟨plan, hplan, hstops⟩
    · exact .inl ⟨err, rfl, Plan.isConfig_of_ofRequest hplan, hplan⟩
    · exact .inr ⟨plan, hplan, .inr ⟨err, rfl, hstops⟩⟩
  | ok res =>
    obtain ⟨s, os, after, -, rfl, hplan, hs, hyields, rfl⟩ := exists_complete_yields hcache.sound
      (fun _ _ hf => hf) (e.admits_genuine request i) hrun
    refine .inr ⟨s.plan, hplan, .inl ⟨_, rfl, fun path hpath => ?_⟩⟩
    have hfailures : ∀ o ∈ os, ∀ failure, o.failure? = some failure → failure.path = o.path := by
      intro o ho failure hfailure
      obtain ⟨path, -, hyield⟩ := exists_of_mem_forall₂ hyields ho
      exact path_of_yields_failed hyield hfailure
    obtain ⟨o, ho, hyield⟩ := exists_of_mem_forall₂ hyields.flip hpath
    exact ⟨o, hyield, (genuine_of_yields (fun _ _ hf => hf) hyield).1,
      hs.shows hfailures ho e cache after, handleConfig_of_yields hyield⟩

/-- A malformed configuration file beside a good one. -/
def malformedRequest : Request :=
  { filePaths := ["package.json", "requirements.txt"]
    fileContents := ⟨[("package.json", "["), ("requirements.txt", "flask")]⟩ }

/-- The malformed file is one failure in the report, and the other one has its node. -/
theorem Engine.failures_contained_malformed :
    ∃ res, (({} : Engine).run malformedRequest {} (Cache.ofSettings {})).1 = .ok res ∧
      res.report.parseFailures.filter (·.path = "package.json") =
        [{ path := "package.json"
           reason := "invalid JSON: Expecting value: line 1 column 2 (char 1)" }] ∧
      Containment.fileId "requirements.txt" ∈ res.store.graph.ids := by
  have hreturns :
      (({} : Engine).run malformedRequest {} (Cache.ofSettings {})).1.toBool = true := by
    decide +kernel
  have hfiles : (Plan.ofRequest {} malformedRequest).map (fun plan =>
      (plan.pending, plan.selection.classify "package.json")) =
      .ok (["package.json", "requirements.txt"], .config) := by
    decide +kernel
  have hconfig : handleConfig "package.json" "[" = .ok (.failed
      { path := "package.json"
        reason := "invalid JSON: Expecting value: line 1 column 2 (char 1)" }) := by
    decide +kernel
  obtain ⟨-, ⟨err, hrun, -⟩ | ⟨plan, hplan, ⟨res, hrun, hall⟩ | ⟨err, hrun, -⟩⟩⟩ :=
    Engine.failures_contained {} malformedRequest {} rfl (Cache.reachable_ofSettings {})
  · rw [hrun] at hreturns
    cases hreturns
  · rw [hplan] at hfiles
    obtain ⟨hpending, hclass⟩ := Prod.mk.inj (Except.ok.inj hfiles)
    rw [hpending] at hall
    obtain ⟨o, -, hpath, hshows, hhandle⟩ := hall "package.json" (by simp)
    obtain ⟨o', -, hpath', hshows', -⟩ := hall "requirements.txt" (by simp)
    have hfailures := hshows.failures
    rw [hpath] at hfailures
    have hresult := Except.ok.inj ((hhandle hclass).symm.trans hconfig)
    refine ⟨res, hrun, ?_, hpath' ▸ hshows'.node⟩
    rw [hfailures, FileOutcome.failure?, hresult]
    rfl
  · rw [hrun] at hreturns
    cases hreturns

/-- A project file that is well formed, with a number in the place of a table. -/
def unusableRequest : Request :=
  { filePaths := ["pyproject.toml", "requirements.txt"]
    fileContents := ⟨[("pyproject.toml", "project = 1"), ("requirements.txt", "flask")]⟩ }

/-- A file of no use is neither harvested nor malformed, and stops the run. -/
theorem Engine.stopped_by_manifest :
    Manifest.harvest "pyproject.toml" "project = 1" = .error (.unusable .notTable) ∧
      (({} : Engine).run unusableRequest {} (Cache.ofSettings {})).1 =
        .error (.manifest .notTable) := by
  have hstops : (({} : Engine).run unusableRequest {} (Cache.ofSettings {})).1.map (fun _ => ()) =
      .error (.manifest .notTable) := by
    decide +kernel
  refine ⟨by decide +kernel, ?_⟩
  cases hrun : (({} : Engine).run unusableRequest {} (Cache.ofSettings {})).1 with
  | error err =>
    rw [hrun] at hstops
    exact congrArg Except.error (Except.error.inj hstops)
  | ok res =>
    rw [hrun] at hstops
    cases hstops

end CodeGraph
