import CodeGraph.Proofs.FileNodes
import CodeGraph.Proofs.Integrity
import Mathlib.Data.Finset.Card

/-!
# Every file is accounted for

The counts of a report and the flags on file nodes tell the same story. Each file of the request is
processed, failed or skipped, and counted so once; those with a node carry the flag of their end.

## Main results

* `FileOutcome.length_eq`: each outcome is of one of the three ends.
* `Plan.length_files`: the files of a plan by what becomes of them.
* `Stages.Complete.countP_files`: file nodes are counted through blank files and outcomes.
* `Engine.files_accounted`: counts, nodes and flags of a run that returns.
-/

namespace CodeGraph

/-! ### Three ends -/

namespace FileOutcome

/-- An outcome has a parse result exactly if the file neither failed nor was skipped. -/
theorem isSome_parsed? (o : FileOutcome) :
    o.parsed?.isSome = (!o.failure?.isSome && !o.skip?.isSome) := by
  obtain ⟨path, category, contentHash, fileSize, result⟩ := o
  cases result <;> rfl

/-- No file both failed and was skipped. -/
theorem not_failure?_and_skip? (o : FileOutcome) :
    ¬(o.failure?.isSome = true ∧ o.skip?.isSome = true) := by
  obtain ⟨path, category, contentHash, fileSize, result⟩ := o
  cases result <;> simp [failure?, skip?]

/-- Each outcome is of one of the three ends. -/
theorem length_eq (os : List FileOutcome) :
    os.length = (os.filterMap parsed?).length + (os.filterMap failure?).length
      + (os.filterMap skip?).length := by
  induction os with
  | nil => rfl
  | cons o os ih =>
    obtain ⟨path, category, contentHash, fileSize, result⟩ := o
    simp only [List.filterMap_cons, List.length_cons]
    cases result with
    | parsed file =>
      simp only [parsed?, failure?, skip?, List.length_cons]
      omega
    | failed failure =>
      simp only [parsed?, failure?, skip?, List.length_cons]
      omega
    | skipped reason =>
      simp only [parsed?, failure?, skip?, List.length_cons]
      omega

end FileOutcome

namespace Tells

variable {n : Node} {failed : Bool} {skip? : Option SkipReason} {count : Nat}

/-- The flag of failed files. -/
theorem flagged_failed (h : Tells n.properties failed skip? count) :
    n.flagged "parseError" = failed := by
  rw [Node.flagged, h.failure]
  cases failed <;> rfl

/-- The flag of skipped files. -/
theorem flagged_skipped (h : Tells n.properties failed skip? count) :
    n.flagged "skipReason" = skip?.isSome := by
  rw [Node.flagged, h.skip]
  cases skip? with
  | none => rfl
  | some reason => cases reason <;> rfl

end Tells

/-! ### Files of a plan -/

/-- Files are excluded by filters, by ignore rules, or because they have no content. -/
theorem Selection.exclusion?_cases (s : Selection) (path : String) (content : Option String) :
    s.exclusion? path content = none ∨ s.exclusion? path content = some .empty ∨
      Plan.isHidden (s.exclusion? path content) = true := by
  unfold exclusion?
  split
  · exact .inr (.inr rfl)
  split
  · exact .inr (.inr rfl)
  split
  · exact .inr (.inr rfl)
  split
  · exact .inr (.inl rfl)
  · split
    · exact .inr (.inl rfl)
    · exact .inl rfl

namespace Plan

variable {settings : Settings} {request : Request} {plan : Plan}

/-- A file counts once: as one to be parsed, as blank or as hidden. -/
theorem count_eq_one {reason : Option SkipReason}
    (h : reason = none ∨ reason = some .empty ∨ isHidden reason = true) :
    (if reason.isNone = true then 1 else 0)
      + (if decide (reason = some .empty) = true then 1 else 0)
      + (if isHidden reason = true then 1 else 0) = 1 := by
  rcases h with rfl | rfl | hhidden
  · rfl
  · rfl
  · cases reason with
    | none => cases hhidden
    | some r => cases r <;> first | rfl | cases hhidden

/-- The files of a plan are parsed, blank or hidden. -/
theorem length_files (h : ofRequest settings request = .ok plan) :
    plan.files.length = plan.pending.length + plan.blank.length + plan.hidden.length := by
  have hcases : ∀ f ∈ plan.files, f.2 = none ∨ f.2 = some .empty ∨ isHidden f.2 = true := by
    intro f hf
    rw [(eq_of_ofRequest h).2] at hf
    obtain ⟨path, -, rfl⟩ := List.mem_map.mp hf
    exact Selection.exclusion?_cases _ _ _
  simp only [pending, blank, hidden, List.length_map, ← List.countP_eq_length_filter]
  generalize plan.files = files at hcases
  induction files with
  | nil => rfl
  | cons f files ih =>
    have hrest := ih fun g hg => hcases g (List.mem_cons_of_mem f hg)
    have hfirst := count_eq_one (hcases f List.mem_cons_self)
    rw [List.length_cons, List.countP_cons, List.countP_cons, List.countP_cons, hrest]
    omega

/-- Excluded files are blank or hidden. -/
theorem length_excluded (h : ofRequest settings request = .ok plan) :
    plan.excluded.length = plan.blank.length + plan.hidden.length := by
  have hsplit : plan.files.length = plan.excluded.length + plan.pending.length := by
    simp only [excluded, pending, List.length_map]
    induction plan.files with
    | nil => rfl
    | cons f files ih =>
      obtain ⟨path, reason⟩ := f
      cases reason with
      | none =>
        simp only [List.filterMap_cons, Option.map_none, List.filter_cons, Option.isNone_none,
          if_true, List.length_cons, ih]
        omega
      | some r =>
        simp only [List.filterMap_cons, Option.map_some, List.filter_cons, Option.isNone_some,
          Bool.false_eq_true, if_false, List.length_cons, ih]
        omega
  have hfiles := length_files h
  omega

end Plan

/-! ### Counts and flags -/

namespace Stages

variable {s : Stages} {os : List FileOutcome} {e : Engine}

/-- The paths of the file nodes are the visible files. -/
theorem Complete.paths_files (h : s.Complete os) (hinj : s.Injective e) :
    ((s.graph e).files.map (·.properties.get? "path")).Perm
      (s.plan.visible.map fun path => some (.text path)) := by
  have hperm := (h.files_perm_visible hinj).map fun n : Node => n.properties.get? "path"
  have hpaths : (s.plan.visible.map fun path =>
      (Containment.fileNode path).described (s.descriptions os)).map
        (fun n : Node => n.properties.get? "path") =
      s.plan.visible.map fun path => some (PropertyValue.text path) := by
    rw [List.map_map]
    exact List.map_congr_left fun path _ => s.get?_path_described os path
  rwa [hpaths] at hperm

/-- File nodes are counted through blank files and outcomes. -/
theorem Complete.countP_files (h : s.Complete os) (hinj : s.Injective e) (p : Node → Bool) :
    (s.graph e).files.countP p =
      s.plan.blank.countP (fun path => p (s.blankNode path))
        + os.countP fun o => p (s.outcomeNode o) := by
  rw [(h.files_perm hinj).countP_eq, List.countP_append, List.countP_map, List.countP_map]
  rfl

/-- The file nodes with the flag of failed files. -/
theorem Complete.countP_failed (h : s.Complete os) (hinj : s.Injective e) :
    (s.graph e).files.countP (·.flagged "parseError") =
      (os.filterMap FileOutcome.failure?).length := by
  have hblank : s.plan.blank.countP (fun path => (s.blankNode path).flagged "parseError") = 0 := by
    rw [List.countP_eq_zero]
    intro path _
    rw [(s.tells_blank path).flagged_failed]
    exact Bool.false_ne_true
  have houtcomes : os.countP (fun o => (s.outcomeNode o).flagged "parseError") =
      os.countP fun o => o.failure?.isSome :=
    List.countP_congr fun o ho => by rw [(h.tells_outcome hinj ho).flagged_failed]
  rw [h.countP_files hinj, hblank, houtcomes, List.length_filterMap_eq_countP, Nat.zero_add]

/-- The file nodes with the flag of skipped files. -/
theorem Complete.countP_skipped (h : s.Complete os) (hinj : s.Injective e) :
    (s.graph e).files.countP (·.flagged "skipReason") =
      s.plan.blank.length + (os.filterMap FileOutcome.skip?).length := by
  have hblank : s.plan.blank.countP (fun path => (s.blankNode path).flagged "skipReason") =
      s.plan.blank.length := by
    rw [List.countP_eq_length]
    intro path _
    rw [(s.tells_blank path).flagged_skipped]
    rfl
  have houtcomes : os.countP (fun o => (s.outcomeNode o).flagged "skipReason") =
      os.countP fun o => o.skip?.isSome :=
    List.countP_congr fun o ho => by rw [(h.tells_outcome hinj ho).flagged_skipped]
  rw [h.countP_files hinj, hblank, houtcomes, List.length_filterMap_eq_countP]

/-- The file nodes with neither flag. -/
theorem Complete.countP_unflagged (h : s.Complete os) (hinj : s.Injective e) :
    (s.graph e).files.countP (fun n => !n.flagged "parseError" && !n.flagged "skipReason") =
      (os.filterMap FileOutcome.parsed?).length := by
  have hblank : s.plan.blank.countP (fun path => !(s.blankNode path).flagged "parseError" &&
      !(s.blankNode path).flagged "skipReason") = 0 := by
    rw [List.countP_eq_zero]
    intro path _
    rw [(s.tells_blank path).flagged_failed, (s.tells_blank path).flagged_skipped]
    exact Bool.false_ne_true
  have houtcomes : os.countP (fun o => !(s.outcomeNode o).flagged "parseError" &&
      !(s.outcomeNode o).flagged "skipReason") = os.countP fun o => o.parsed?.isSome :=
    List.countP_congr fun o ho => by
      rw [(h.tells_outcome hinj ho).flagged_failed, (h.tells_outcome hinj ho).flagged_skipped,
        o.isSome_parsed?]
  rw [h.countP_files hinj, hblank, houtcomes, List.length_filterMap_eq_countP, Nat.zero_add]

/-- Every file node is that of a blank file or of an outcome, and says what became of the file. -/
theorem Complete.exists_tells (h : s.Complete os) (hinj : s.Injective e) {n : Node}
    (hn : n ∈ (s.graph e).files) :
    ∃ failed skip? count, Tells n.properties failed skip? count ∧
      ¬(failed = true ∧ skip?.isSome = true) := by
  rcases List.mem_append.mp ((h.files_perm hinj).mem_iff.mp hn) with hn | hn
  · obtain ⟨path, -, rfl⟩ := List.mem_map.mp hn
    exact ⟨_, _, _, s.tells_blank path, by simp⟩
  · obtain ⟨o, ho, rfl⟩ := List.mem_map.mp hn
    exact ⟨_, _, _, h.tells_outcome hinj ho, o.not_failure?_and_skip?⟩

/-- Skipped files are counted: excluded ones and those that handling skipped. -/
theorem Complete.total_skipped (h : s.Complete os) :
    Count.total s.parsing.skipped.values =
      s.plan.excluded.length + (os.filterMap FileOutcome.skip?).length := by
  have hempty : (∅ : OrderedMap String Nat).keys.Nodup := List.nodup_nil
  rw [h.written.skipped, beforeParsing_eq, ← List.foldl_append,
    OrderedMap.total_foldl_increment hempty, List.length_append, List.length_map, List.length_map]
  exact Nat.zero_add _

end Stages

/--
Every file of a request is counted once as processed, failed or skipped. Exactly the visible files
have nodes; their flags tell the same as the counts, hidden files apart, and each says how many
definitions it has.
-/
theorem Engine.files_accounted (e : Engine) (request : Request) (i : Interruptions) {cache : Cache}
    (hcache : cache.Reachable) {res : IngestResult} (hrun : (e.run request i cache).1 = .ok res)
    (hinj : Set.InjOn Identifier.digest {t | t ∈ e.hashed request i cache}) :
    ∃ plan, Plan.ofRequest e.settings request = .ok plan ∧
      res.report.processed + res.report.failed + res.report.skippedTotal =
        (splitFiles request.filePaths).1.toFinset.card ∧
      plan.visible.Nodup ∧
      (res.store.graph.files.map (·.properties.get? "path")).Perm
        (plan.visible.map fun path => some (.text path)) ∧
      res.report.failed = res.store.graph.files.countP (·.flagged "parseError") ∧
      res.report.skippedTotal =
        res.store.graph.files.countP (·.flagged "skipReason") + plan.hidden.length ∧
      res.report.processed = res.store.graph.files.countP
        (fun n => !n.flagged "parseError" && !n.flagged "skipReason") ∧
      ∀ n ∈ res.store.graph.files,
        ¬(n.flagged "parseError" = true ∧ n.flagged "skipReason" = true) ∧
        ∃ count : Nat, n.properties.get? "definitionCount" = some (.int count) ∧
          n.properties.get? "noDefinitions" = some (.bool (count = 0)) := by
  obtain ⟨s, os, after, hstages, rfl, hplan, hs, rfl⟩ := Engine.exists_complete hcache.sound hrun
  have hinj' : s.Injective e := Stages.injective_of_hashed hstages hinj
  have hprocessed : s.parsing.processed = (os.filterMap FileOutcome.parsed?).length := by
    rw [hs.written.processed, Stages.beforeParsing_eq]
    exact Nat.zero_add _
  have hfailed : s.parsing.failed = (os.filterMap FileOutcome.failure?).length := by
    rw [hs.written.failed, Stages.beforeParsing_eq]
    exact Nat.zero_add _
  have hskipped := hs.total_skipped
  have hexcluded := Plan.length_excluded hplan
  refine ⟨s.plan, hplan, ?_, Plan.nodup_visible hs.nodup, hs.paths_files hinj', ?_, ?_, ?_,
    fun n hn => ?_⟩
  · -- outcomes are those of the files to be parsed, and no file is listed twice
    have hnodup : (splitFiles s.request.filePaths).1.Nodup := (Text.nodup_distinct _).filter _
    have houtcomes : os.length = s.plan.pending.length := by
      rw [← hs.paths, List.length_map]
    have hfiles : s.plan.files.length = (splitFiles s.request.filePaths).1.length := by
      rw [(Plan.eq_of_ofRequest hplan).2, List.length_map]
    have hlength := Plan.length_files hplan
    have hends := FileOutcome.length_eq os
    rw [List.toFinset_card_of_nodup hnodup]
    show s.parsing.processed + s.parsing.failed + Count.total s.parsing.skipped.values = _
    omega
  · exact hfailed.trans (hs.countP_failed hinj').symm
  · have hflags := hs.countP_skipped hinj'
    show Count.total s.parsing.skipped.values = (s.graph e).files.countP _ + _
    omega
  · exact hprocessed.trans (hs.countP_unflagged hinj').symm
  · obtain ⟨failed, skip?, count, htells, hone⟩ := hs.exists_tells hinj' hn
    refine ⟨?_, count, htells.definitionCount, htells.noDefinitions⟩
    rwa [htells.flagged_failed, htells.flagged_skipped]

/-- Both files of the sample are counted, and the one that is not hidden has a node. -/
theorem Engine.files_accounted_sample :
    ∃ res, (Sample.engine.run Sample.request {} (Cache.ofSettings {})).1 = .ok res ∧
      res.report.processed + res.report.failed + res.report.skippedTotal = 2 ∧
      res.store.graph.files.map (·.properties.get? "path") = [some (.text "a.py")] := by
  obtain ⟨res, hres, -⟩ := Sample.exists_result
  obtain ⟨plan, hplan, htotal, -, hpaths, -⟩ :=
    Engine.files_accounted _ _ _ (Cache.reachable_ofSettings {}) hres Sample.injOn_hashed
  have htwo : (splitFiles Sample.request.filePaths).1.toFinset.card = 2 := by
    decide
  rw [Sample.visible_eq hplan] at hpaths
  exact ⟨res, hres, htotal.trans htwo, List.perm_singleton.mp hpaths⟩

end CodeGraph
