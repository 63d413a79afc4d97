import CodeGraph.Import.Candidates
import CodeGraph.Proofs.Suffixes

/-!
# Directories of directories

Taking the directory of a path again and again leads to the root and stays there: a path that holds
nothing but slashes is its own directory. Before that, every step drops one piece, as the directory
of a path does not end with a slash.

## Main definitions

* `Path.Settled`: a path that ends with a slash only if it has no pieces.
* `Path.depth`: the number of directories above a file.

## Main results

* `Text.segments_trimEndWhile`: slashes at the end add no piece.
* `Path.length_segments_directory`: a directory has one piece less.
* `Path.climb_of_depth_lt`, `Path.climb_eq_empty`: the root is not left by taking directories.
-/

namespace CodeGraph

namespace Text

/-! ### Pieces and slashes -/

/-- A slash divides the pieces that are not empty. -/
theorem segments_append_slash (s t : String) :
    segments '/' (s ++ "/" ++ t) = segments '/' s ++ segments '/' t := by
  rw [segments, split_append_slash, List.filter_append, segments, segments]

/-- A text without slashes is one piece, unless it is empty. -/
theorem segments_of_notMem {s : String} (h : '/' ∉ s.toList) (hne : s ≠ "") :
    segments '/' s = [s] := by
  rw [segments, split_of_notMem h]
  exact List.filter_eq_self.mpr (by simpa using hne)

/-- Slashes at the end add no piece. -/
theorem segments_append_replicate (s : String) (n : Nat) :
    segments '/' (s ++ replicate n '/') = segments '/' s := by
  induction n with
  | zero =>
    have hempty : replicate 0 '/' = "" := rfl
    rw [hempty, String.append_empty]
  | succ n ih =>
    have hlast : s ++ replicate (n + 1) '/' = s ++ replicate n '/' ++ "/" ++ "" := by
      apply String.toList_inj.mp
      simp [replicate, List.replicate_succ']
    rw [hlast, segments_append_slash, ih]
    exact List.append_nil _

/-- A text of slashes has no piece. -/
theorem segments_replicate (n : Nat) : segments '/' (replicate n '/') = [] := by
  have hpieces := segments_append_replicate "" n
  rwa [String.empty_append] at hpieces

/-- A text that holds nothing but slashes is a number of them. -/
theorem eq_replicate_of_all {s : String} (h : s.toList.all (· = '/') = true) :
    ∃ n, s = replicate n '/' := by
  refine ⟨s.toList.length, String.toList_inj.mp ?_⟩
  rw [replicate, String.toList_ofList]
  exact List.eq_replicate_of_mem fun c hc => of_decide_eq_true (List.all_eq_true.mp h c hc)

/-- What is cut off the end are slashes. -/
theorem exists_trimEndWhile_append (s : String) :
    ∃ n, s = trimEndWhile (· = '/') s ++ replicate n '/' := by
  obtain ⟨n, hn⟩ := eq_replicate_of_all
    (s := String.ofList (s.toList.reverse.takeWhile (· = '/'))) (by simp)
  have hcut : s.toList.reverse.takeWhile (· = '/') = List.replicate n '/' := by
    simpa [replicate] using congrArg String.toList hn
  refine ⟨n, String.toList_inj.mp ?_⟩
  have hboth := congrArg List.reverse (List.takeWhile_append_dropWhile
    (p := fun c => decide (c = '/')) (l := s.toList.reverse))
  rw [hcut, List.reverse_append, List.reverse_reverse, List.reverse_replicate] at hboth
  rw [← hboth]
  simp [trimEndWhile, replicate]

/-- Cutting slashes off the end leaves the pieces that are not empty. -/
theorem segments_trimEndWhile (s : String) :
    segments '/' (trimEndWhile (· = '/') s) = segments '/' s := by
  obtain ⟨n, hn⟩ := exists_trimEndWhile_append s
  conv_rhs => rw [hn, segments_append_replicate]

/-- No slash is left at the end. -/
theorem endsWith_trimEndWhile (s : String) :
    endsWith "/" (trimEndWhile (· = '/') s) = false := by
  refine Bool.eq_false_iff.mpr fun hend => ?_
  have hprefix : ['/'] <+: s.toList.reverse.dropWhile (· = '/') := by
    rw [← List.reverse_suffix]
    simpa [endsWith, trimEndWhile] using List.isSuffixOf_iff_suffix.mp hend
  obtain ⟨rest, hrest⟩ := hprefix
  have hhead := List.head?_dropWhile_not (fun c => decide (c = '/')) s.toList.reverse
  rw [← hrest] at hhead
  simp at hhead

/-- Only slashes make no piece. -/
theorem eq_replicate_of_segments_nil {s : String} (h : segments '/' s = []) :
    ∃ n, s = replicate n '/' := by
  obtain ⟨n, hn⟩ := exists_trimEndWhile_append s
  suffices hempty : trimEndWhile (· = '/') s = "" by
    rw [hempty, String.empty_append] at hn
    exact ⟨n, hn⟩
  have hend := endsWith_trimEndWhile s
  rw [← segments_trimEndWhile] at h
  rcases exists_last_slash (trimEndWhile (· = '/') s) with hslash | ⟨front, last, heq, hslash⟩
  · rw [segments, split_of_notMem hslash] at h
    simpa using h
  · rw [heq, segments_append_slash, List.append_eq_nil_iff, segments, segments,
      split_of_notMem hslash] at h
    obtain rfl : last = "" := by simpa using h.2
    rw [heq, endsWith] at hend
    simp [List.isSuffixOf, List.isPrefixOf] at hend

end Text

namespace Path

/-! ### The directory of a path -/

/-- The directory of a path is a leading part of it. -/
theorem directory_leading (path : String) : (directory path).toList <+: path.toList := by
  have hhead : throughLastSlash path.toList <+: path.toList := by
    rw [throughLastSlash, ← List.reverse_suffix, List.reverse_reverse]
    exact List.dropWhile_suffix _
  rw [directory]
  split
  · rwa [String.toList_ofList]
  · rw [String.toList_ofList, ← List.reverse_suffix, List.reverse_reverse]
    exact (List.dropWhile_suffix _).trans (List.reverse_suffix.mpr hhead)

/-- A path that is not rooted does not begin with a slash. -/
theorem head?_ne_slash {path : String} (h : Text.startsWith "/" path = false) :
    path.toList.head? ≠ some '/' :=
  mt (Text.startsWith_iff_head? rfl path).mpr (Bool.eq_false_iff.mp h)

/-- The directory of a path that is not rooted is not rooted either. -/
theorem head?_directory {path : String} (h : path.toList.head? ≠ some '/') :
    (directory path).toList.head? ≠ some '/' := by
  obtain ⟨rest, hrest⟩ := directory_leading path
  intro hhead
  rw [← hrest, List.head?_append, hhead] at h
  exact h rfl

/-- A directory is what stands before the last slash, without slashes at its end. -/
theorem directory_eq (path : String) :
    directory path =
      let head := String.ofList (throughLastSlash path.toList)
      if head.toList.all (· = '/') then head else Text.trimEndWhile (· = '/') head := by
  simp only [directory, Text.trimEndWhile, String.toList_ofList]

/-- The directory of a path with a slash is what stands before the last one, likewise. -/
theorem directory_append_slash_eq (dir : String) {last : String} (h : '/' ∉ last.toList) :
    directory (dir ++ "/" ++ last) =
      if (dir ++ "/" ++ "").toList.all (· = '/') then dir ++ "/" ++ ""
      else Text.trimEndWhile (· = '/') (dir ++ "/" ++ "") := by
  have hhead : String.ofList (throughLastSlash (dir ++ "/" ++ last).toList) = dir ++ "/" ++ "" := by
    rw [throughLastSlash_append_slash dir h]
    apply String.toList_inj.mp
    simp
  rw [directory_eq, hhead]

/-- The pieces of a directory are those before the last slash. -/
theorem segments_directory_append_slash (dir : String) {last : String} (h : '/' ∉ last.toList) :
    Text.segments '/' (directory (dir ++ "/" ++ last)) = Text.segments '/' dir := by
  have hhead : Text.segments '/' (dir ++ "/" ++ "") = Text.segments '/' dir := by
    rw [Text.segments_append_slash]
    exact List.append_nil _
  rw [directory_append_slash_eq dir h]
  split
  · exact hhead
  · rw [Text.segments_trimEndWhile, hhead]

/-- A path that ends with a slash only if it has no pieces. -/
def Settled (path : String) : Prop :=
  Text.segments '/' path = [] ∨ Text.endsWith "/" path = false

/-- Every directory is settled. -/
theorem settled_directory (path : String) : Settled (directory path) := by
  rw [directory_eq]
  dsimp only
  split
  · next hall =>
    obtain ⟨n, hn⟩ := Text.eq_replicate_of_all hall
    exact .inl (hn ▸ Text.segments_replicate n)
  · exact .inr (Text.endsWith_trimEndWhile _)

/-- The root is its own directory. -/
theorem directory_of_segments_nil {path : String} (h : Text.segments '/' path = []) :
    directory path = path := by
  obtain ⟨n, rfl⟩ := Text.eq_replicate_of_segments_nil h
  have hhead : throughLastSlash (Text.replicate n '/').toList = List.replicate n '/' := by
    rw [throughLastSlash, Text.replicate, String.toList_ofList, List.reverse_replicate,
      List.dropWhile_replicate]
    simp
  rw [directory_eq, hhead]
  simp [Text.replicate]

/-- Any other directory has one piece more than its own directory. -/
theorem length_segments_directory {path : String} (h : Settled path)
    (hne : Text.segments '/' path ≠ []) :
    (Text.segments '/' (directory path)).length + 1 = (Text.segments '/' path).length := by
  rcases Text.exists_last_slash path with hslash | ⟨dir, last, rfl, hslash⟩
  · have hpath : path ≠ "" := by
      rintro rfl
      exact hne rfl
    rw [directory_of_notMem hslash, Text.segments_of_notMem hslash hpath]
    rfl
  · have hlast : last ≠ "" := by
      rintro rfl
      have hend := h.resolve_left hne
      rw [Text.endsWith] at hend
      simp [List.isSuffixOf, List.isPrefixOf] at hend
    rw [segments_directory_append_slash dir hslash, Text.segments_append_slash,
      Text.segments_of_notMem hslash hlast, List.length_append, List.length_singleton]

/-- Taking directories stops at the root. -/
theorem climb_of_segments_nil {path : String} (h : Text.segments '/' path = []) (n : Nat) :
    climb n path = path := by
  induction n with
  | zero => rfl
  | succ n ih => rw [climb, directory_of_segments_nil h, ih]

/-- As many directories up as there are pieces lead to the root. -/
theorem climb_of_length_le {path : String} (h : Settled path) {n : Nat}
    (hn : (Text.segments '/' path).length ≤ n) :
    climb n path = climb (Text.segments '/' path).length path ∧
      Text.segments '/' (climb n path) = [] := by
  induction n generalizing path with
  | zero =>
    have hnil := List.length_eq_zero_iff.mp (Nat.le_zero.mp hn)
    rw [hnil, List.length_nil, climb]
    exact ⟨rfl, hnil⟩
  | succ n ih =>
    by_cases hnil : Text.segments '/' path = []
    · rw [climb_of_segments_nil hnil, climb_of_segments_nil hnil]
      exact ⟨rfl, hnil⟩
    · have hlength := length_segments_directory h hnil
      rw [← hlength, climb, climb]
      exact ih (settled_directory path) (by omega)

/-- The number of directories above a file. -/
def depth (path : String) : Nat :=
  (Text.segments '/' (directory path)).length

/-- More directories up than there are above a file lead to the root. -/
theorem climb_of_depth_lt {path : String} {n : Nat} (h : depth path < n) :
    climb n path = climb (depth path + 1) path ∧ Text.segments '/' (climb n path) = [] := by
  obtain ⟨n, rfl⟩ := Nat.exists_eq_add_one_of_ne_zero (Nat.ne_zero_of_lt h)
  rw [climb, climb]
  exact climb_of_length_le (settled_directory path) (Nat.le_of_lt_succ h)

/-- Directories of directories are leading parts of a path. -/
theorem climb_prefix (n : Nat) (path : String) : (climb n path).toList <+: path.toList := by
  induction n generalizing path with
  | zero => exact List.prefix_refl _
  | succ n ih => exact (ih (directory path)).trans (directory_leading path)

/-- Above a path that is not rooted, the root is the empty path. -/
theorem climb_eq_empty {path : String} (hpath : Text.startsWith "/" path = false) {n : Nat}
    (h : depth path < n) : climb n path = "" := by
  obtain ⟨k, hk⟩ := Text.eq_replicate_of_segments_nil (climb_of_depth_lt h).2
  obtain ⟨rest, hrest⟩ := climb_prefix n path
  cases k with
  | zero => exact hk
  | succ k =>
    refine absurd ?_ (head?_ne_slash hpath)
    rw [← hrest, hk]
    simp [Text.replicate, List.replicate_succ]

end Path

end CodeGraph
