import CodeGraph.Proofs.Path
import CodeGraph.Proofs.Plan
import Mathlib.Data.Set.Finite.Lemmas
import Mathlib.Data.Set.Finite.List

/-!
# Files and the directories above them

Which of the listed paths are files is decided on pieces: every path is cut at its slashes, and the
joined leading pieces of all paths are the directories. What comes out is a law on whole texts. A
path is a file if none of the listed ones goes on after it with a slash, also where a path is listed
twice, has empty pieces or ends with a slash.

Every other path leads to a file: of the listed paths that go on after it a longest one is kept.

## Main results

* `mem_splitFiles`: which paths are kept.
* `pairwise_idxOf_splitFiles`: they are kept once, in order of first occurrence.
* `exists_mem_splitFiles`: every path is kept or above a kept one.
* `splitFiles_exact`: the laws of splitting.
-/

namespace CodeGraph

/-! ### Directories above a path -/

namespace Path

/-- What goes on after a path that goes on after another one goes on after that as well. -/
theorem Above.trans {d e path : String} (hd : Above d e) (he : Above e path) : Above d path := by
  obtain ⟨rest, rfl⟩ := hd
  obtain ⟨rest', rfl⟩ := he
  exact ⟨rest ++ "/" ++ rest', by simp only [String.append_assoc]⟩

/-- Nothing is above the empty path. -/
theorem not_above_empty (d : String) : ¬Above d "" := by
  intro h
  have hlength := h.length_lt
  simp at hlength

end Path

/-- The directories above some paths. -/
theorem mem_directoriesAbove {paths : List String} {d : String} :
    d ∈ directoriesAbove paths ↔ ∃ path ∈ paths, Path.Above d path := by
  simp only [directoriesAbove, List.mem_flatMap, Path.mem_ancestors]

/-- Leaving out repeated and empty paths leaves the directories as they are. -/
theorem mem_directoriesAbove_distinct {paths : List String} {d : String} :
    d ∈ directoriesAbove (Text.distinct (paths.filter (· ≠ ""))) ↔
      ∃ path ∈ paths, Path.Above d path := by
  simp only [mem_directoriesAbove, Text.mem_distinct, List.mem_filter]
  refine exists_congr fun path => and_congr_left fun habove => ⟨And.left, fun h => ⟨h, ?_⟩⟩
  refine decide_eq_true ?_
  rintro rfl
  exact Path.not_above_empty d habove

/-- The directories of a list of paths are those above one of them. -/
theorem mem_directories_splitFiles {paths : List String} {d : String} :
    d ∈ (splitFiles paths).2 ↔ ∃ path ∈ paths, Path.Above d path :=
  Text.mem_distinct.trans mem_directoriesAbove_distinct

/-! ### Files -/

/-- A path is kept if it is not empty and none of the paths goes on after it. -/
theorem mem_splitFiles {paths : List String} {p : String} :
    p ∈ (splitFiles paths).1 ↔ p ∈ paths ∧ p ≠ "" ∧ ∀ q ∈ paths, ¬Path.Above p q := by
  simp only [splitFiles, List.mem_filter, Text.mem_distinct, decide_eq_true_iff,
    mem_directoriesAbove_distinct, not_exists, not_and, and_assoc]

/-- The distinct texts of a list are in order of first occurrence. -/
theorem Text.pairwise_idxOf_distinct (xs : List String) :
    (distinct xs).Pairwise fun x y => xs.idxOf x < xs.idxOf y := by
  have hfresh : ∀ (xs taken : List String),
      (fresh id taken xs).Pairwise fun x y => xs.idxOf x < xs.idxOf y := by
    intro xs
    induction xs with
    | nil => exact fun _ => .nil
    | cons x xs ih =>
      intro taken
      -- behind the first text every other one comes one place later
      have hlater : ∀ taken, x ∈ taken → (fresh id taken xs).Pairwise fun y z =>
          (x :: xs).idxOf y < (x :: xs).idxOf z := by
        intro taken hx
        refine (ih taken).imp_of_mem fun {y z} hy hz hyz => ?_
        have hy : x ≠ y := ne_of_mem_of_not_mem hx (mem_of_mem_fresh hy).2
        have hz : x ≠ z := ne_of_mem_of_not_mem hx (mem_of_mem_fresh hz).2
        rw [List.idxOf_cons_ne _ hy, List.idxOf_cons_ne _ hz]
        exact Nat.succ_lt_succ hyz
      rw [fresh]
      split
      · next hx => exact hlater taken hx
      · refine List.pairwise_cons.mpr ⟨fun y hy => ?_, hlater _ List.mem_cons_self⟩
        have hne : x ≠ y := ne_of_mem_of_not_mem List.mem_cons_self (mem_of_mem_fresh hy).2
        rw [List.idxOf_cons_self, List.idxOf_cons_ne _ hne]
        exact Nat.succ_pos _
  rw [distinct_eq_fresh]
  exact hfresh xs []

/-- What is kept stands once and in order of first occurrence. -/
theorem pairwise_idxOf_splitFiles (paths : List String) :
    (splitFiles paths).1.Pairwise fun p q => paths.idxOf p < paths.idxOf q := by
  have hdistinct := (Text.pairwise_idxOf_distinct paths).filter (· ≠ "")
  rw [← Text.distinct_filter] at hdistinct
  exact hdistinct.filter _

/-- Every path is kept or above a kept one. -/
theorem exists_mem_splitFiles {paths : List String} {p : String} (hp : p ∈ paths) (hne : p ≠ "") :
    ∃ q ∈ (splitFiles paths).1, q = p ∨ Path.Above p q := by
  -- a longest one of the paths that are the given one or go on after it
  obtain ⟨q, ⟨hq, hpq⟩, hlongest⟩ :=
    Set.exists_max_image {q | q ∈ paths ∧ (q = p ∨ Path.Above p q)} (fun q => q.toList.length)
      (paths.finite_toSet.subset fun q hq => hq.1) ⟨p, hp, .inl rfl⟩
  refine ⟨q, mem_splitFiles.mpr ⟨hq, ?_, fun q' hq' habove => ?_⟩, hpq⟩
  · rintro rfl
    rcases hpq with heq | habove
    · exact hne heq.symm
    · exact Path.not_above_empty p habove
  · -- what goes on after the longest one would be longer
    have honward : Path.Above p q' := by
      rcases hpq with rfl | hpq
      · exact habove
      · exact hpq.trans habove
    have hle := hlongest q' ⟨hq', .inr honward⟩
    have hlt := habove.length_lt
    omega

/-- Nothing is kept only if there is nothing but empty paths. -/
theorem splitFiles_eq_nil_iff {paths : List String} :
    (splitFiles paths).1 = [] ↔ ∀ p ∈ paths, p = "" := by
  constructor
  · intro hnil p hp
    by_contra hne
    obtain ⟨q, hq, -⟩ := exists_mem_splitFiles hp hne
    rw [hnil] at hq
    exact List.not_mem_nil hq
  · intro h
    refine List.eq_nil_iff_forall_not_mem.mpr fun p hp => ?_
    obtain ⟨hp, hne, -⟩ := mem_splitFiles.mp hp
    exact hne (h p hp)

/-- Splitting what is kept keeps all of it. -/
theorem splitFiles_splitFiles (paths : List String) :
    (splitFiles (splitFiles paths).1).1 = (splitFiles paths).1 := by
  refine splitFiles_eq_self ?_ ?_ fun p hp hdir => ?_
  · exact (Text.nodup_distinct _).filter _
  · exact fun h => (mem_splitFiles.mp h).2.1 rfl
  · obtain ⟨q, hq, habove⟩ := mem_directoriesAbove.mp hdir
    exact (mem_splitFiles.mp hp).2.2 q (mem_splitFiles.mp hq).1 habove

/--
The paths that are kept of a list are its non-empty ones that no path of the list goes on after.
They stand once and in order of first occurrence, none of them is a directory above another one,
something is kept unless all paths are empty, and splitting once more keeps all of them.
-/
theorem splitFiles_exact (paths : List String) :
    let kept := (splitFiles paths).1
    (∀ p, p ∈ kept ↔ p ∈ paths ∧ p ≠ "" ∧ ∀ q ∈ paths, ¬Path.Above p q) ∧
    kept.Nodup ∧
    kept.Pairwise (fun p q => paths.idxOf p < paths.idxOf q) ∧
    (∀ p ∈ kept, ∀ q ∈ kept, ¬Path.Above p q) ∧
    (kept = [] ↔ ∀ p ∈ paths, p = "") ∧
    (splitFiles kept).1 = kept := by
  refine ⟨fun p => mem_splitFiles, (Text.nodup_distinct _).filter _,
    pairwise_idxOf_splitFiles paths, fun p hp q hq => ?_, splitFiles_eq_nil_iff,
    splitFiles_splitFiles paths⟩
  exact (mem_splitFiles.mp hp).2.2 q (mem_splitFiles.mp hq).1

/-- A repeated path, a directory with a trailing slash, and an empty piece. -/
example : (splitFiles ["a", "b/", "a/b", "", "b", "a/b", "b//c"]).1 = ["a/b", "b//c"] := by
  decide

end CodeGraph
