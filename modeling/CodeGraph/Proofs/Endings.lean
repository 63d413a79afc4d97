import CodeGraph.Proofs.Packages
import CodeGraph.Proofs.Suffixes
import Mathlib.Data.List.Nodup

/-!
# Files by the end of their path

A registered file is indexed under every trailing part of its path. The parts of one path all have
different lengths, so a file is listed once under each of them, and a part is what the path is, or
what it ends with after a slash. A question is answered after slashes at its ends are cut off, so it
is always answered in whole segments.

## Main results

* `Path.mem_suffixes_iff_endsWith`: the trailing parts of a path, as texts.
* `Path.nodup_suffixes`: no part of a path occurs twice.
* `Registry.Holds.filesEndingWith_eq`: look-up by a trailing part is a filter of the files.
* `Registry.filesEndingWith_exact`: what is found, whatever a registry was told in which order.
-/

namespace CodeGraph

/-- Different texts are strictly in order when they are sorted. -/
theorem Text.pairwise_lt_sort {xs : List String} (h : xs.Nodup) :
    (sort xs).Pairwise (· < ·) := by
  have hnodup : (sort xs).Nodup := (Sorting.sort_perm _ xs).nodup_iff.mpr h
  refine ((pairwise_sort xs).and hnodup).imp fun hab => ?_
  exact String.not_le.mp fun hba => hab.2 (String.le_antisymm hab.1 hba)

namespace Path

/-- A trailing part of a path is the path itself, or the path ends with it after a slash. -/
theorem mem_suffixes_iff_endsWith {s path : String} :
    s ∈ suffixes path ↔ path = s ∨ Text.endsWith ("/" ++ s) path = true := by
  rw [mem_suffixes, Text.endsWith, List.isSuffixOf_iff_suffix]
  constructor
  · rintro ⟨front, hpieces⟩
    have hjoin := Text.join_split path
    rw [← hpieces] at hjoin
    rcases eq_or_ne front [] with rfl | hfront
    · rw [List.nil_append, Text.join_split] at hjoin
      exact .inl hjoin.symm
    · rw [Text.join_append hfront (Text.split_ne_nil '/' s), Text.join_split,
        String.append_assoc] at hjoin
      refine .inr ⟨(Text.join "/" front).toList, ?_⟩
      rw [← String.toList_append, hjoin]
  · rintro (rfl | ⟨front, hpath⟩)
    · exact List.suffix_refl _
    · have hsplit : path = String.ofList front ++ "/" ++ s := by
        apply String.toList_inj.mp
        simpa using hpath.symm
      rw [hsplit, Text.split_append_slash]
      exact List.suffix_append _ _

/-- No trailing part of a path occurs twice: each has fewer pieces than the one before. -/
theorem nodup_suffixes (path : String) : (suffixes path).Nodup := by
  have hlength : ∀ i ∈ List.range (Text.split '/' path).length,
      (Text.split '/' (Text.join "/" ((Text.split '/' path).drop i))).length =
        (Text.split '/' path).length - i := by
    intro i hi
    have hi' : i < (Text.split '/' path).length := List.mem_range.mp hi
    rw [Text.split_join (List.ne_nil_of_length_pos (by rw [List.length_drop]; omega))
      fun p hp => Text.notMem_of_mem_split (List.mem_of_mem_drop hp), List.length_drop]
  refine List.nodup_range.map_on fun i hi j hj heq => ?_
  have hi' := hlength i hi
  have hj' := hlength j hj
  rw [heq] at hi'
  have hlt := List.mem_range.mp hi
  have hlt' := List.mem_range.mp hj
  omega

end Path

namespace Registry

/-! ### Every file once -/

/-- A file that arrives again is not registered again. -/
theorem nodup_files_receive {r : Registry} (h : r.files.Nodup) (a : Arrival) :
    (r.receive a).files.Nodup := by
  have hregister : ∀ (r : Registry) (p : String), r.files.Nodup →
      (r.registerFile p).files.Nodup := by
    intro r p hr
    by_cases hp : p ∈ r.files
    · rwa [registerFile, if_pos hp]
    · simpa [registerFile, hp] using hr.concat hp
  cases a with
  | definition d => exact hregister _ d.filePath h
  | file p => exact hregister r p h

/-- However often files arrive, each is registered once. -/
theorem nodup_files_foldl_receive {r : Registry} (h : r.files.Nodup) (arrivals : List Arrival) :
    (arrivals.foldl receive r).files.Nodup := by
  induction arrivals generalizing r with
  | nil => exact h
  | cons a arrivals ih => exact ih (nodup_files_receive h a)

namespace Holds

variable {r : Registry} {files : List String} {ds : List Definition}

/-- Under a trailing part stand the files that have it, each of them once. -/
theorem bySuffix_eq_filter (h : r.Holds files ds) (s : String) :
    r.bySuffix.getD s [] = files.filter fun p => s ∈ Path.suffixes p := by
  have hcount : ∀ p, List.replicate ((Path.suffixes p).count s) p =
      if s ∈ Path.suffixes p then [p] else [] := by
    intro p
    rw [(Path.nodup_suffixes p).count]
    split <;> rfl
  have hfilter : ∀ ps : List String,
      (ps.flatMap fun p => if s ∈ Path.suffixes p then [p] else []) =
        ps.filter fun p => s ∈ Path.suffixes p := by
    intro ps
    induction ps with
    | nil => rfl
    | cons p ps ih =>
      rw [List.flatMap_cons, List.filter_cons, ih]
      by_cases hp : s ∈ Path.suffixes p <;> simp [hp]
  simp only [h.bySuffix, hcount, hfilter]

/-- The files found by a trailing part are the registered ones that have it, in path order. -/
theorem filesEndingWith_eq (h : r.Holds files ds) (suffix : String) :
    r.filesEndingWith suffix =
      Text.sort (files.filter fun p => Text.trimWhile (· = '/') suffix ∈ Path.suffixes p) := by
  rw [filesEndingWith, h.bySuffix_eq_filter]

end Holds

/--
A question for files by the end of their path, without the slashes at its own ends, is answered by
exactly the files that arrived and that are the question or end with it after a slash. They come in
path order, each of them once, and the question is made of their last pieces.
-/
theorem filesEndingWith_exact (arrivals : List Arrival) (suffix : String) :
    let s := Text.trimWhile (· = '/') suffix
    let found := (arrivals.foldl receive empty).filesEndingWith suffix
    found.Pairwise (· < ·) ∧
    (∀ p, p ∈ found ↔ p ∈ arrivals.map Arrival.path ∧
      (p = s ∨ Text.endsWith ("/" ++ s) p = true)) ∧
    ∀ p ∈ found, Text.split '/' s <:+ Text.split '/' p := by
  intro s found
  obtain ⟨files, ds, h, hfiles⟩ := exists_holds arrivals
  have hmem : ∀ p, p ∈ found ↔ p ∈ arrivals.map Arrival.path ∧ s ∈ Path.suffixes p := by
    intro p
    rw [h.mem_filesEndingWith, hfiles]
  refine ⟨?_, fun p => ?_, fun p hp => Path.mem_suffixes.mp ((hmem p).mp hp).2⟩
  · have hnodup : files.Nodup := h.files ▸ nodup_files_foldl_receive List.nodup_nil arrivals
    show ((arrivals.foldl receive empty).filesEndingWith suffix).Pairwise (· < ·)
    rw [h.filesEndingWith_eq]
    exact Text.pairwise_lt_sort (hnodup.filter _)
  · rw [hmem, Path.mem_suffixes_iff_endsWith]

end Registry

end CodeGraph
