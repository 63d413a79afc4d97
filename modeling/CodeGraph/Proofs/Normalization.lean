import CodeGraph.Proofs.Directories
import Mathlib.Data.List.DropRight

/-!
# Normalized paths

A path is normalized in three steps that are taken once each: backslashes become slashes, leading
`./` steps are dropped, and slashes are cut off both ends. The result has no backslash and no slash
at either end.

It may still begin with a `./` step. The slashes at the front are cut off last, so a step behind
them is not dropped any more. Such a path is no fixed point: normalizing it once more drops the
step. Every other result is one.

## Main definitions

* `Path.slashed`: the code points of a path with forward slashes only.
* `Path.HidesDotStep`: a `./` step stands behind the slashes at the front.

## Main results

* `Path.normalize_eq_self_iff`: which paths are fixed points.
* `Path.startsWith_dot_normalize`: which paths have a `./` step left at the front.
* `Path.normalize_canonical`: the normal form is canonical, unless a step is hidden.
* `Path.normalize_hidden`: a hidden step.
-/

namespace CodeGraph.Path

/-- The code points of a path with forward slashes only. -/
def slashed (path : String) : List Char :=
  (Text.replaceChar '\\' '/' path).toList

/-- A number of `./` steps. -/
def dotSteps (n : Nat) : List Char :=
  (List.replicate n ['.', '/']).flatten

/--
Slashes follow the leading `./` steps of a path, then another such step, and then something other
than slashes.
-/
def HidesDotStep (path : String) : Prop :=
  ∃ m n rest, slashed path = dotSteps m ++ (List.replicate (n + 1) '/' ++ '.' :: '/' :: rest) ∧
    ∃ c ∈ rest, c ≠ '/'

/-! ### Dropping steps -/

theorem dotSteps_succ (n : Nat) : dotSteps (n + 1) = '.' :: '/' :: dotSteps n :=
  rfl

/-- What does not begin with a `./` step is kept. -/
theorem dropDotSteps_of_not {cs : List Char} (h : ¬['.', '/'] <+: cs) : dropDotSteps cs = cs := by
  cases cs using dropDotSteps.induct with
  | case1 rest => exact absurd (List.prefix_append _ _) h
  | case2 cs hcs => rw [dropDotSteps]; exact hcs

/-- No `./` step is left at the front. -/
theorem not_prefix_dropDotSteps (cs : List Char) : ¬['.', '/'] <+: dropDotSteps cs := by
  induction cs using dropDotSteps.induct with
  | case1 rest ih => exact ih
  | case2 cs hcs =>
    rw [dropDotSteps]
    · rintro ⟨rest, rfl⟩
      exact hcs rest rfl
    · exact hcs

/-- What is dropped are `./` steps. -/
theorem exists_dotSteps_append (cs : List Char) : ∃ n, cs = dotSteps n ++ dropDotSteps cs := by
  induction cs using dropDotSteps.induct with
  | case1 rest ih =>
    obtain ⟨n, hn⟩ := ih
    refine ⟨n + 1, ?_⟩
    rw [dotSteps_succ, List.cons_append, List.cons_append, dropDotSteps, ← hn]
  | case2 cs hcs =>
    refine ⟨0, ?_⟩
    rw [dropDotSteps]
    · rfl
    · exact hcs

/-- Leading `./` steps are dropped. -/
theorem dropDotSteps_append {cs : List Char} (h : ¬['.', '/'] <+: cs) (n : Nat) :
    dropDotSteps (dotSteps n ++ cs) = cs := by
  induction n with
  | zero => exact dropDotSteps_of_not h
  | succ n ih => exact ih

/-! ### Backslashes -/

theorem backslash_notMem_slashed (path : String) : '\\' ∉ slashed path := by
  intro hmem
  rw [slashed, Text.replaceChar, String.toList_ofList] at hmem
  obtain ⟨c, -, hc⟩ := List.mem_map.mp hmem
  split at hc
  · cases hc
  · contradiction

/-- A path without backslashes has forward slashes only. -/
theorem slashed_of_notMem {path : String} (h : '\\' ∉ path.toList) :
    slashed path = path.toList := by
  rw [slashed, Text.replaceChar, String.toList_ofList]
  refine (List.map_congr_left fun c hc => ?_).trans (List.map_id _)
  exact if_neg (ne_of_mem_of_not_mem hc h)

/-! ### Slashes at both ends -/

/-- What a list ends with is left alone if something of it is kept. -/
theorem rdropWhile_append {α : Type} {p : α → Bool} (xs : List α) {ys : List α}
    (h : ∃ y ∈ ys, p y = false) : (xs ++ ys).rdropWhile p = xs ++ ys.rdropWhile p := by
  have hkept : (ys.reverse.dropWhile p).isEmpty = false := by
    obtain ⟨y, hy, hp⟩ := h
    rw [List.isEmpty_eq_false_iff, Ne, List.dropWhile_eq_nil_iff]
    exact fun hall => Bool.eq_false_iff.mp hp (hall y (List.mem_reverse.mpr hy))
  rw [List.rdropWhile, List.reverse_append, List.dropWhile_append, hkept]
  simp [List.rdropWhile]

/-- Slashes are cut off both ends of what the dropped steps leave. -/
theorem toList_normalize (path : String) : (normalize path).toList =
    ((dropDotSteps (slashed path)).dropWhile (· = '/')).rdropWhile (· = '/') := by
  simp [normalize, slashed, Text.trimWhile, Text.trimStartWhile, Text.trimEndWhile, List.rdropWhile]

/-- Normalizing only leaves code points out, once the slashes are forward. -/
theorem toList_normalize_sublist (path : String) :
    (normalize path).toList.Sublist (dropDotSteps (slashed path)) := by
  rw [toList_normalize]
  exact (List.rdropWhile_prefix _ _).sublist.trans (List.dropWhile_sublist _)

theorem backslash_notMem_normalize (path : String) : '\\' ∉ (normalize path).toList := by
  intro hmem
  obtain ⟨n, hn⟩ := exists_dotSteps_append (slashed path)
  refine backslash_notMem_slashed path ?_
  rw [hn]
  exact List.mem_append_right _ ((toList_normalize_sublist path).mem hmem)

theorem startsWith_normalize (path : String) : Text.startsWith "/" (normalize path) = false := by
  refine Bool.eq_false_iff.mpr fun hstart => ?_
  rw [Text.startsWith_iff_head? (c := '/') rfl, toList_normalize] at hstart
  generalize dropDotSteps (slashed path) = steps at hstart
  obtain ⟨tail, htail⟩ := List.rdropWhile_prefix (· = '/') (steps.dropWhile (· = '/'))
  have hhead := List.head?_dropWhile_not (fun c => decide (c = '/')) steps
  rw [← htail, List.head?_append, hstart] at hhead
  simp at hhead

theorem endsWith_normalize (path : String) : Text.endsWith "/" (normalize path) = false :=
  Text.endsWith_trimEndWhile _

/-! ### Fixed points -/

/-- A path that begins with a `./` step gets shorter. -/
theorem normalize_ne_self {path : String} (h : Text.startsWith "./" path = true) :
    normalize path ≠ path := by
  intro hself
  obtain ⟨rest, hrest⟩ := List.isPrefixOf_iff_prefix.mp h
  have hslashed : slashed path = path.toList :=
    slashed_of_notMem (hself ▸ backslash_notMem_normalize path)
  have hsub := toList_normalize_sublist path
  obtain ⟨n, hn⟩ := exists_dotSteps_append rest
  have hdrop : dropDotSteps (slashed path) = dropDotSteps rest := by
    rw [hslashed, ← hrest]
    rfl
  rw [hdrop, hself] at hsub
  have hle := hsub.length_le
  have hlength := congrArg List.length hrest
  have hlength' := congrArg List.length hn
  simp only [List.length_append] at hlength hlength'
  have htwo : ("./" : String).toList.length = 2 := rfl
  omega

/-- The fixed points have no backslash, no `./` step at the front, and no slash at either end. -/
theorem normalize_eq_self_iff {path : String} : normalize path = path ↔
    '\\' ∉ path.toList ∧ Text.startsWith "./" path = false ∧
      Text.startsWith "/" path = false ∧ Text.endsWith "/" path = false := by
  constructor
  · intro hself
    refine ⟨hself ▸ backslash_notMem_normalize path, ?_, hself ▸ startsWith_normalize path,
      hself ▸ endsWith_normalize path⟩
    exact Bool.eq_false_iff.mpr fun hstart => normalize_ne_self hstart hself
  · rintro ⟨hback, hstep, hstart, hend⟩
    have hstep' : ¬['.', '/'] <+: path.toList := fun h =>
      Bool.eq_false_iff.mp hstep (List.isPrefixOf_iff_prefix.mpr h)
    have hfront : path.toList.dropWhile (· = '/') = path.toList := by
      refine List.dropWhile_eq_self_iff.mpr fun hpos hslash => ?_
      refine Bool.eq_false_iff.mp hstart ((Text.startsWith_iff_head? (c := '/') rfl _).mpr ?_)
      rw [List.head?_eq_getElem?, List.getElem?_eq_getElem hpos, of_decide_eq_true hslash]
    have hback' : path.toList.rdropWhile (· = '/') = path.toList := by
      refine List.rdropWhile_eq_self_iff.mpr fun hne hslash => ?_
      refine Bool.eq_false_iff.mp hend (List.isSuffixOf_iff_suffix.mpr ?_)
      refine ⟨path.toList.dropLast, ?_⟩
      conv_rhs => rw [← List.dropLast_append_getLast hne, of_decide_eq_true hslash]
      rfl
    apply String.toList_inj.mp
    rw [toList_normalize, slashed_of_notMem hback, dropDotSteps_of_not hstep', hfront, hback']

/-! ### Hidden steps -/

/-- A normalized path that begins with a `./` step goes on with more than slashes. -/
theorem exists_ne_slash_of_startsWith {path : String} {kept : List Char}
    (h : (normalize path).toList = '.' :: '/' :: kept) : ∃ c ∈ kept, c ≠ '/' := by
  by_contra hall
  push Not at hall
  obtain ⟨n, hn⟩ : ∃ n, kept = List.replicate n '/' :=
    ⟨kept.length, List.eq_replicate_of_mem hall⟩
  refine Bool.eq_false_iff.mp (endsWith_normalize path) (List.isSuffixOf_iff_suffix.mpr ?_)
  rw [h, hn, ← List.replicate_succ, List.replicate_succ']
  exact ⟨'.' :: List.replicate n '/', rfl⟩

/-- A `./` step is left at the front exactly if it was hidden behind slashes. -/
theorem startsWith_dot_normalize {path : String} :
    Text.startsWith "./" (normalize path) = true ↔ HidesDotStep path := by
  constructor
  · intro h
    obtain ⟨kept, hkept⟩ := List.isPrefixOf_iff_prefix.mp h
    obtain ⟨c, hc, hne⟩ := exists_ne_slash_of_startsWith hkept.symm
    obtain ⟨m, hm⟩ := exists_dotSteps_append (slashed path)
    obtain ⟨tail, htail⟩ := List.rdropWhile_prefix (fun c => decide (c = '/'))
      ((dropDotSteps (slashed path)).dropWhile (· = '/'))
    rw [← toList_normalize, ← hkept] at htail
    -- what stands before the step are slashes, and there is at least one
    obtain ⟨n, hn⟩ : ∃ n, (dropDotSteps (slashed path)).takeWhile (· = '/') =
        List.replicate n '/' :=
      ⟨_, List.eq_replicate_of_mem fun c hc => by simpa using List.mem_takeWhile_imp hc⟩
    have hdropped : dropDotSteps (slashed path) =
        List.replicate n '/' ++ '.' :: '/' :: (kept ++ tail) := by
      rw [← List.takeWhile_append_dropWhile (p := (· = '/')) (l := dropDotSteps (slashed path)), hn,
        ← htail]
      rfl
    cases n with
    | zero =>
      refine absurd ?_ (not_prefix_dropDotSteps (slashed path))
      rw [hdropped]
      exact List.prefix_append ['.', '/'] _
    | succ n =>
      rw [hdropped] at hm
      exact ⟨m, n, kept ++ tail, hm, c, List.mem_append_left _ hc, hne⟩
  · rintro ⟨m, n, rest, hpath, hrest⟩
    have hfront : ¬['.', '/'] <+: List.replicate (n + 1) '/' ++ '.' :: '/' :: rest := by
      rw [List.replicate_succ]
      rintro ⟨_, h⟩
      cases h
    have hslashes : (List.replicate (n + 1) '/' ++ '.' :: '/' :: rest).dropWhile (· = '/') =
        ['.', '/'] ++ rest := by
      rw [List.dropWhile_append_of_pos]
      · rfl
      · exact fun c hc => decide_eq_true (List.eq_of_mem_replicate hc)
    refine List.isPrefixOf_iff_prefix.mpr ?_
    rw [toList_normalize, hpath, dropDotSteps_append hfront, hslashes, rdropWhile_append]
    · exact List.prefix_append _ _
    · obtain ⟨c, hc, hne⟩ := hrest
      exact ⟨c, hc, decide_eq_false hne⟩

/--
A normalized path has no backslash and no slash at either end. It begins with no `./` step and is a
fixed point, with one exception: the path hides such a step behind the slashes at its front, and
then it is left, and normalizing once more changes the path.
-/
theorem normalize_canonical (path : String) :
    '\\' ∉ (normalize path).toList ∧
    Text.startsWith "/" (normalize path) = false ∧
    Text.endsWith "/" (normalize path) = false ∧
    (Text.startsWith "./" (normalize path) = false ↔ ¬HidesDotStep path) ∧
    (normalize (normalize path) = normalize path ↔ ¬HidesDotStep path) := by
  have hstep : Text.startsWith "./" (normalize path) = false ↔ ¬HidesDotStep path := by
    rw [← startsWith_dot_normalize, Bool.not_eq_true]
  refine ⟨backslash_notMem_normalize path, startsWith_normalize path, endsWith_normalize path,
    hstep, ?_⟩
  rw [normalize_eq_self_iff, ← hstep]
  constructor
  · exact fun h => h.2.1
  · exact fun h => ⟨backslash_notMem_normalize path, h, startsWith_normalize path,
      endsWith_normalize path⟩

/-- A step behind a leading slash is left, and dropped when the path is normalized once more. -/
theorem normalize_hidden :
    normalize "/./a" = "./a" ∧ Text.startsWith "./" (normalize "/./a") = true ∧
      normalize (normalize "/./a") = "a" := by
  decide

end CodeGraph.Path
