import CodeGraph.Ingest
import CodeGraph.Proofs.Containment
import CodeGraph.Proofs.Outcome
import CodeGraph.Proofs.Plan
import Mathlib.Data.List.Forall2

/-!
# Runs, stage by stage

An ingestion either stops before its first file or settles what its files yield and concludes. When
it returns, all its stages are there to be looked at.

## Main definitions

* `Engine.skeletonOf`: the skeleton of a plan.
* `Engine.conclude`: what is left to do after the last batch.
* `Job`, `Cache.afterJobs`: ingestions one after the other on one cache.

## Main results

* `Engine.begun_eq_ok_iff`: when a run gets to its first file.
* `Engine.run_cases`: a run with a sound cache.
* `Engine.sound_run`, `Cache.Sound.afterJobs`: runs keep a cache sound.
* `Engine.run_eq_ok`: the stages of a run that returns.
-/

namespace CodeGraph

open Cache (Source Sound Faithful)

namespace Engine

/-! ### Before the first file -/

/-- The skeleton of a plan. -/
def skeletonOf (request : Request) (plan : Plan) : Containment :=
  Containment.build request.projectName request.projectRoot plan.visible

/-- A skeleton is there exactly if the visible files are shallow. -/
theorem skeleton_eq (request : Request) (plan : Plan) :
    skeleton request plan =
      if Containment.shallow [] plan.visible then .ok (skeletonOf request plan)
      else .error .tooDeep := by
  unfold skeleton
  rw [Containment.build?_eq]
  by_cases h : Containment.shallow [] plan.visible = true
  · simp only [h, if_true]
    rfl
  · simp only [h]
    rfl

/-- A check passes exactly if one is left. -/
theorem pass_eq_ok_iff {checks left : Checks} {stage : Stage} :
    checks.pass stage = .ok left ↔ checks.after 1 = some left := by
  rcases checks with - | (- | k)
  · simp [Checks.pass, Checks.after]
  · simp [Checks.pass, Checks.after]
  · simp [Checks.pass, Checks.after]

/-- A run gets to its first file exactly if the files are shallow and two checks pass. -/
theorem begun_eq_ok_iff {request : Request} {plan : Plan} {checks left : Checks}
    {c : Containment} :
    begun request plan checks = .ok (c, left) ↔
      Containment.shallow [] plan.visible = true ∧ c = skeletonOf request plan ∧
        checks.after 2 = some left := by
  constructor
  · intro h
    obtain ⟨mid, hmid, h⟩ := Except.bind_eq_ok_iff.mp h
    obtain ⟨c', hc', h⟩ := Except.bind_eq_ok_iff.mp h
    obtain ⟨last, hlast, h⟩ := Except.bind_eq_ok_iff.mp h
    obtain ⟨rfl, rfl⟩ := Prod.mk.inj (Except.ok.inj h)
    rw [skeleton_eq] at hc'
    split at hc'
    · next hshallow =>
      refine ⟨hshallow, (Except.ok.inj hc').symm, ?_⟩
      rw [Checks.after_succ hmid, pass_eq_ok_iff.mp hlast]
    · cases hc'
  · rintro ⟨hshallow, rfl, hafter⟩
    cases hmid : checks.pass .structure with
    | error err =>
      rw [Checks.after_eq_none hmid] at hafter
      cases hafter
    | ok mid =>
      rw [Checks.after_succ hmid] at hafter
      simp only [begun, hmid, skeleton_eq, hshallow, if_true, bind, Except.bind,
        pass_eq_ok_iff.mpr hafter]
      rfl

/-! ### After the last file -/

/-- Several checks pass exactly if there are enough of them. -/
theorem passAll_eq_ok_iff {checks left : Checks} {stages : List Stage} :
    checks.passAll stages = .ok left ↔ checks.after stages.length = some left := by
  induction stages generalizing checks with
  | nil =>
    have hzero : checks.after 0 = some checks := by cases checks <;> rfl
    rw [List.length_nil, hzero]
    exact ⟨fun h => congrArg some (Except.ok.inj h), fun h => congrArg Except.ok (Option.some.inj h)⟩
  | cons stage stages ih =>
    rw [Checks.passAll, List.foldlM_cons, List.length_cons]
    cases hpass : checks.pass stage with
    | error err =>
      rw [Checks.after_eq_none hpass]
      constructor
      · intro h
        cases h
      · intro h
        cases h
    | ok mid =>
      rw [Checks.after_succ hpass]
      exact ih

/-- What is left to do after the last batch. -/
def conclude (e : Engine) (c : Containment) (before after : Cache) :
    Except IngestError (Parsing × Checks) → Except IngestError IngestResult
  | .error err => .error err
  | .ok (p, checks) =>
    match checks.passAll [.imports, .heritage, .calls, .validation] with
    | .error err => .error err
    | .ok _ => .ok (e.finish c p before after)

/-- A run returns exactly if its batches are settled and four more checks pass. -/
theorem conclude_eq_ok_iff {e : Engine} {c : Containment} {before after : Cache}
    {r : Except IngestError (Parsing × Checks)} {res : IngestResult} :
    e.conclude c before after r = .ok res ↔
      ∃ p checks, r = .ok (p, checks) ∧ (checks.after 4).isSome = true ∧
        res = e.finish c p before after := by
  rcases r with err | ⟨p, checks⟩
  · simp [conclude]
  · simp only [conclude]
    cases hpass : checks.passAll [.imports, .heritage, .calls, .validation] with
    | error err =>
      have hnone : checks.after 4 = none := by
        cases h : checks.after 4 with
        | none => rfl
        | some left =>
          rw [passAll_eq_ok_iff.mpr h] at hpass
          cases hpass
      simp only [reduceCtorEq, false_iff, not_exists, not_and]
      intro p' checks' hok hsome
      obtain ⟨rfl, rfl⟩ := Prod.mk.inj (Except.ok.inj hok)
      rw [hnone] at hsome
      cases hsome
    | ok left =>
      have hsome : checks.after 4 = some left := passAll_eq_ok_iff.mp hpass
      constructor
      · intro h
        exact ⟨p, checks, rfl, by rw [hsome]; rfl, (Except.ok.inj h).symm⟩
      · rintro ⟨p', checks', hok, -, rfl⟩
        obtain ⟨rfl, rfl⟩ := Prod.mk.inj (Except.ok.inj hok)
        rfl

/-! ### Whole runs -/

variable {e : Engine} {P : Source → ParsedFile → Prop} {request : Request} {i : Interruptions}

/-- What is parsed anew in a run has a property. -/
def Admits (e : Engine) (request : Request) (i : Interruptions)
    (P : Source → ParsedFile → Prop) : Prop :=
  ∀ path content, request.fileContents.get? path = some content → ∀ l f tree,
    IsParsedIn (Selection.ofSettings e.settings request.options) path l →
    e.parse i.stalled l path content = .ok (f, tree) → P ⟨path, Digest.ofText content⟩ f

/-- A file that is parsed has content. -/
theorem exists_content_of_mem_pending {plan : Plan}
    (h : Plan.ofRequest e.settings request = .ok plan) {path : String} (hp : path ∈ plan.pending) :
    ∃ content, request.fileContents.get? path = some content := by
  rw [Plan.pending, (Plan.eq_of_ofRequest h).2] at hp
  obtain ⟨f, hf, rfl⟩ := List.mem_map.mp hp
  obtain ⟨hmem, hnone⟩ := List.mem_filter.mp hf
  obtain ⟨path, -, rfl⟩ := List.mem_map.mp hmem
  cases hget : request.fileContents.get? path with
  | some content => exact ⟨content, by simpa [Plan.entry] using hget⟩
  | none =>
    simp only [Plan.entry, Selection.exclusion?, hget] at hnone
    split at hnone
    · cases hnone
    split at hnone
    · cases hnone
    split at hnone
    · cases hnone
    · cases hnone

/--
A run with a sound cache: it stops before its first file and leaves the cache alone, or it settles
what its files yield and concludes.
-/
theorem run_cases {cache : Cache} (hc : cache.Sound P) (hP : Faithful P)
    (hnew : e.Admits request i P) :
    (∃ err, e.run request i cache = (.error err, cache) ∧
      ((∃ plan, Plan.ofRequest e.settings request = .ok plan ∧
        begun request plan i.cancelAfter = .error err) ∨
        Plan.ofRequest e.settings request = .error err)) ∨
    ∃ plan checks rss after, Plan.ofRequest e.settings request = .ok plan ∧
      begun request plan i.cancelAfter = .ok (skeletonOf request plan, checks) ∧
      e.handleBatches plan.selection i.stalled (skeletonOf request plan).fileIds
          request.fileContents (batches e.settings.batchSize plan.pending) checks
          (beforeParsing request plan (skeletonOf request plan)) cache =
        (settle (skeletonOf request plan).fileIds request.fileContents
          cache.files.lowWater.isSome rss checks
          (beforeParsing request plan (skeletonOf request plan)), after) ∧
      e.run request i cache =
        (e.conclude (skeletonOf request plan) cache after
          (settle (skeletonOf request plan).fileIds request.fileContents
            cache.files.lowWater.isSome rss checks
            (beforeParsing request plan (skeletonOf request plan))), after) ∧
      after.Sound P ∧ after.files.lowWater = cache.files.lowWater ∧
      List.Forall₂ (List.Forall₂ fun path r =>
        e.Yields P plan.selection i.stalled path (request.fileContents.getD path "") r)
        (batches e.settings.batchSize plan.pending) rss := by
  cases hplan : Plan.ofRequest e.settings request with
  | error err => exact .inl ⟨err, by simp only [run, hplan], .inr rfl⟩
  | ok plan =>
    cases hbegun : begun request plan i.cancelAfter with
    | error err =>
      exact .inl ⟨err, by simp only [run, hplan, execute, hbegun], .inl ⟨plan, rfl, hbegun⟩⟩
    | ok start =>
      obtain ⟨c, checks⟩ := start
      obtain ⟨-, rfl, -⟩ := begun_eq_ok_iff.mp hbegun
      have hadmits : ∀ path ∈ (batches e.settings.batchSize plan.pending).flatten, ∀ l f tree,
          IsParsedIn plan.selection path l →
          e.parse i.stalled l path (request.fileContents.getD path "") = .ok (f, tree) →
          P ⟨path, Digest.ofText (request.fileContents.getD path "")⟩ f := by
        intro path hpath l f tree hl hparse
        rw [flatten_batches] at hpath
        obtain ⟨content, hcontent⟩ := exists_content_of_mem_pending hplan hpath
        rw [OrderedMap.getD, hcontent, Option.getD_some] at hparse ⊢
        rw [(Plan.eq_of_ofRequest hplan).1] at hl
        exact hnew path content hcontent l f tree hl hparse
      obtain ⟨rss, after, hhandle, hafter, hwater, hyields⟩ :=
        handleBatches_settle hP (skeletonOf request plan).fileIds request.fileContents checks
          (beforeParsing request plan (skeletonOf request plan)) hc hadmits
      refine .inr ⟨plan, checks, rss, after, rfl, hbegun, hhandle, ?_, hafter, hwater, hyields⟩
      simp only [run, hplan, execute, hbegun, hhandle, conclude]
      cases settle (skeletonOf request plan).fileIds request.fileContents
          cache.files.lowWater.isSome rss checks
          (beforeParsing request plan (skeletonOf request plan)) with
      | error err => rfl
      | ok done =>
        obtain ⟨p, left⟩ := done
        dsimp only
        cases left.passAll [.imports, .heritage, .calls, .validation] <;> rfl

/-- A run keeps a cache sound. -/
theorem sound_run {cache : Cache} (hc : cache.Sound P) (hP : Faithful P)
    (hnew : e.Admits request i P) : (e.run request i cache).2.Sound P := by
  rcases run_cases hc hP hnew with ⟨err, hrun, -⟩ | ⟨_, _, _, after, -, -, -, hrun, hafter, -⟩
  · rw [hrun]
    exact hc
  · rw [hrun]
    exact hafter

/-- A run does not move the low-water mark. -/
theorem lowWater_run {cache : Cache} (hc : cache.Sound P) (hP : Faithful P)
    (hnew : e.Admits request i P) :
    (e.run request i cache).2.files.lowWater = cache.files.lowWater := by
  rcases run_cases hc hP hnew with ⟨err, hrun, -⟩ |
    ⟨_, _, _, after, -, -, -, hrun, -, hwater, -⟩
  · rw [hrun]
  · rw [hrun]
    exact hwater

/-- The stages of a run that returns. -/
theorem run_eq_ok {cache : Cache} {res : IngestResult} (hc : cache.Sound P) (hP : Faithful P)
    (hnew : e.Admits request i P) (h : (e.run request i cache).1 = .ok res) :
    ∃ plan os p after, Plan.ofRequest e.settings request = .ok plan ∧
      (∃ checks left, begun request plan i.cancelAfter = .ok (skeletonOf request plan, checks) ∧
        e.handleBatches plan.selection i.stalled (skeletonOf request plan).fileIds
          request.fileContents (batches e.settings.batchSize plan.pending) checks
          (beforeParsing request plan (skeletonOf request plan)) cache = (.ok (p, left), after)) ∧
      List.Forall₂ (fun path o =>
        e.Yields P plan.selection i.stalled path (request.fileContents.getD path "") (.ok o))
        plan.pending os ∧
      p = os.foldl (Parsing.write (skeletonOf request plan).fileIds request.fileContents)
        (beforeParsing request plan (skeletonOf request plan)) ∧
      res = e.finish (skeletonOf request plan) p cache after := by
  rcases run_cases hc hP hnew with ⟨err, hrun, -⟩ |
    ⟨plan, checks, rss, after, hplan, hbegun, hhandle, hrun, -, -, hyields⟩
  · rw [hrun] at h
    cases h
  · rw [hrun] at h
    obtain ⟨p, left, hsettle, -, rfl⟩ := conclude_eq_ok_iff.mp h
    obtain ⟨-, -, os, hos, hp⟩ := settle_eq_ok_iff.mp hsettle
    refine ⟨plan, os, p, after, hplan, ⟨checks, left, hbegun, hsettle ▸ hhandle⟩, ?_, hp, rfl⟩
    have hflat := List.rel_flatten hyields
    rw [flatten_batches, hos, List.forall₂_map_right_iff] at hflat
    exact hflat

end Engine

/-! ### Runs one after the other -/

/-- An ingestion to be carried out. -/
structure Job where
  engine : Engine
  request : Request
  interruptions : Interruptions := {}

/-- The cache after some ingestions, whatever became of them. -/
def Cache.afterJobs (cache : Cache) (jobs : List Job) : Cache :=
  jobs.foldl (fun cache job => (job.engine.run job.request job.interruptions cache).2) cache

/-- Ingestions keep a cache sound. -/
theorem Cache.Sound.afterJobs {P : Source → ParsedFile → Prop} {cache : Cache} {jobs : List Job}
    (hc : cache.Sound P) (hP : Faithful P)
    (hnew : ∀ job ∈ jobs, job.engine.Admits job.request job.interruptions P) :
    (cache.afterJobs jobs).Sound P ∧
      (cache.afterJobs jobs).files.lowWater = cache.files.lowWater := by
  induction jobs generalizing cache with
  | nil => exact ⟨hc, rfl⟩
  | cons job jobs ih =>
    have hjob := hnew job List.mem_cons_self
    obtain ⟨hsound, hwater⟩ := ih (Engine.sound_run hc hP hjob) fun j hj =>
      hnew j (List.mem_cons_of_mem job hj)
    exact ⟨hsound, hwater.trans (Engine.lowWater_run hc hP hjob)⟩

/-- A cache that some ingestions left behind, the first of which had an empty one. -/
def Cache.Reachable (cache : Cache) : Prop :=
  ∃ (settings : Settings) (jobs : List Job), cache = (Cache.ofSettings settings).afterJobs jobs

/-- The cache before the first ingestion. -/
theorem Cache.reachable_ofSettings (settings : Settings) :
    (Cache.ofSettings settings).Reachable :=
  ⟨settings, [], rfl⟩

end CodeGraph
