import CodeGraph.Ingest.Plan
import CodeGraph.Proofs.Fresh

/-!
# The files of a plan

A plan lists each file once, whatever the request repeats, and a request that lists the same paths
in another order has the same plan but for the order.

## Main results

* `Text.nodup_distinct`, `Text.mem_distinct`, `Text.distinct_perm`: the distinct texts of a list.
* `Plan.nodup_of_ofRequest`: the files of a plan are different.
* `Plan.ofRequest_perm`: the order of a request only matters to the order of its plan.
-/

namespace CodeGraph

/-! ### Distinct texts -/

namespace Text

/-- The distinct texts are those that have not been seen. -/
theorem distinct_eq_fresh (xs : List String) : distinct xs = fresh id [] xs := by
  have hfold : ∀ (xs seen : List String),
      xs.foldl (fun seen x => if x ∈ seen then seen else seen ++ [x]) seen =
        seen ++ fresh id seen xs := by
    intro xs
    induction xs with
    | nil => simp
    | cons x xs ih =>
      intro seen
      rw [List.foldl_cons, ih, fresh]
      by_cases hx : x ∈ seen
      · simp [hx]
      · have hcongr : fresh id (seen ++ [x]) xs = fresh id (x :: seen) xs := by
          refine fresh_congr (fun y => ?_) xs
          rw [List.mem_append, List.mem_singleton, List.mem_cons, or_comm]
        simp [hx, hcongr]
  exact hfold xs []

theorem nodup_distinct (xs : List String) : (distinct xs).Nodup := by
  have h := nodup_keys_fresh id [] xs
  rwa [List.map_id, ← distinct_eq_fresh] at h

theorem mem_distinct {xs : List String} {x : String} : x ∈ distinct xs ↔ x ∈ xs := by
  have hkey : ∀ a ∈ xs, ∀ b ∈ xs, id a = id b → a = b := fun _ _ _ _ h => h
  rw [distinct_eq_fresh, mem_fresh_iff hkey]
  simp

/-- The distinct texts of a list do not depend on its order. -/
theorem distinct_perm {xs ys : List String} (h : xs.Perm ys) :
    (distinct xs).Perm (distinct ys) := by
  rw [distinct_eq_fresh, distinct_eq_fresh]
  exact fresh_perm h (fun _ _ _ _ h => h) []

/-- The distinct texts of a part of a list. -/
theorem distinct_filter (p : String → Bool) (xs : List String) :
    distinct (xs.filter p) = (distinct xs).filter p := by
  rw [distinct_eq_fresh, distinct_eq_fresh]
  exact (filter_fresh fun _ _ _ _ h => congrArg p h).symm

end Text

/-- Different paths that are not directories of each other are files. -/
theorem splitFiles_eq_self {paths : List String} (hnodup : paths.Nodup) (hempty : "" ∉ paths)
    (hfiles : ∀ p ∈ paths, p ∉ directoriesAbove paths) : (splitFiles paths).1 = paths := by
  have hfilter : paths.filter (· ≠ "") = paths :=
    List.filter_eq_self.mpr fun p hp => decide_eq_true (ne_of_mem_of_not_mem hp hempty)
  have hdistinct : Text.distinct paths = paths := by
    rw [Text.distinct_eq_fresh]
    exact fresh_eq_self (by rwa [List.map_id]) fun _ _ => List.not_mem_nil
  simp only [splitFiles, hfilter, hdistinct]
  exact List.filter_eq_self.mpr fun p hp => decide_eq_true (hfiles p hp)

/-- The files of a request do not depend on the order of its paths. -/
theorem splitFiles_perm {paths paths' : List String} (h : paths.Perm paths') :
    (splitFiles paths).1.Perm (splitFiles paths').1 := by
  have hunique := Text.distinct_perm (h.filter (· ≠ ""))
  have hdirs : ∀ p, p ∈ directoriesAbove (Text.distinct (paths.filter (· ≠ ""))) ↔
      p ∈ directoriesAbove (Text.distinct (paths'.filter (· ≠ ""))) := by
    intro p
    exact (hunique.flatMap_right Path.ancestors).mem_iff
  simp only [splitFiles, hdirs]
  exact hunique.filter _

/-! ### Plans -/

namespace Plan

variable {settings : Settings} {request : Request} {plan : Plan}

/-- A file of a request with the reason to exclude it. -/
def entry (settings : Settings) (request : Request) (path : String) :
    String × Option SkipReason :=
  (path, (Selection.ofSettings settings request.options).exclusion? path
    (request.fileContents.get? path))

/-- A plan holds the selection in force and the distinct files of the request. -/
theorem eq_of_ofRequest (h : ofRequest settings request = .ok plan) :
    plan.selection = Selection.ofSettings settings request.options ∧
      plan.files = (splitFiles request.filePaths).1.map (entry settings request) := by
  unfold ofRequest at h
  split at h
  · cases h
  · dsimp only at h
    split at h
    · cases h
    · obtain rfl := Except.ok.inj h
      exact ⟨rfl, rfl⟩

/-- The paths of a plan are different. -/
theorem nodup_of_ofRequest (h : ofRequest settings request = .ok plan) :
    (plan.files.map Prod.fst).Nodup := by
  have hfst : ((splitFiles request.filePaths).1.map (entry settings request)).map Prod.fst =
      (splitFiles request.filePaths).1 := by
    rw [List.map_map]
    exact List.map_id _
  rw [(eq_of_ofRequest h).2, hfst]
  exact (Text.nodup_distinct _).filter _

/-- The files with nodes are different. -/
theorem nodup_visible (h : (plan.files.map Prod.fst).Nodup) : plan.visible.Nodup :=
  h.sublist (List.filter_sublist.map Prod.fst)

/-- The files that are parsed are different. -/
theorem nodup_pending (h : (plan.files.map Prod.fst).Nodup) : plan.pending.Nodup :=
  h.sublist (List.filter_sublist.map Prod.fst)

/-- A file that is parsed has a node. -/
theorem mem_visible_of_mem_pending {path : String} (h : path ∈ plan.pending) :
    path ∈ plan.visible := by
  obtain ⟨f, hf, rfl⟩ := List.mem_map.mp h
  obtain ⟨hmem, hnone⟩ := List.mem_filter.mp hf
  refine List.mem_map_of_mem (List.mem_filter.mpr ⟨hmem, ?_⟩)
  simp [isVisible, Option.isNone_iff_eq_none.mp hnone]

/-- Whether a request has a plan, and which one, but for the order does not depend on the order. -/
theorem ofRequest_perm {paths : List String} (hperm : request.filePaths.Perm paths)
    (h : ofRequest settings request = .ok plan) :
    ∃ plan', ofRequest settings { request with filePaths := paths } = .ok plan' ∧
      plan'.selection = plan.selection ∧ plan.files.Perm plan'.files := by
  obtain ⟨hselection, hfiles⟩ := eq_of_ofRequest h
  have hsplit := (splitFiles_perm hperm).map (entry settings request)
  have hempty : request.filePaths.isEmpty = paths.isEmpty := by
    rw [Bool.eq_iff_iff, List.isEmpty_iff, List.isEmpty_iff]
    exact ⟨fun hnil => (hnil ▸ hperm).nil_eq.symm, fun hnil => (hnil ▸ hperm).eq_nil⟩
  have hall : ((splitFiles request.filePaths).1.map (entry settings request)).all
        (fun f => isFiltered f.2) =
      ((splitFiles paths).1.map (entry settings request)).all fun f => isFiltered f.2 := by
    rw [Bool.eq_iff_iff, List.all_eq_true, List.all_eq_true]
    exact ⟨fun hf f hmem => hf f (hsplit.mem_iff.mpr hmem), fun hf f hmem =>
      hf f (hsplit.mem_iff.mp hmem)⟩
  refine ⟨⟨plan.selection, (splitFiles paths).1.map (entry settings request)⟩, ?_, rfl,
    hfiles ▸ hsplit⟩
  unfold ofRequest at h ⊢
  dsimp only at h ⊢
  rw [← hempty, hselection]
  split at h
  · cases h
  · next hne =>
    rw [if_neg hne]
    split at h
    · cases h
    · next hnot =>
      refine if_neg fun hyes => hnot ?_
      rw [Bool.and_eq_true] at hyes ⊢
      exact ⟨hyes.1, hall.trans hyes.2⟩

/-- The visible files of plans that differ in the order only. -/
theorem visible_perm {plan' : Plan} (h : plan.files.Perm plan'.files) :
    plan.visible.Perm plan'.visible :=
  (h.filter _).map _

/-- The files to be parsed of plans that differ in the order only. -/
theorem pending_perm {plan' : Plan} (h : plan.files.Perm plan'.files) :
    plan.pending.Perm plan'.pending :=
  (h.filter _).map _

/-- The excluded files of plans that differ in the order only. -/
theorem excluded_perm {plan' : Plan} (h : plan.files.Perm plan'.files) :
    plan.excluded.Perm plan'.excluded :=
  h.filterMap _

end Plan

end CodeGraph
