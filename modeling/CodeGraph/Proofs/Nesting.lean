import CodeGraph.Proofs.Containment
import CodeGraph.Proofs.Plan

/-!
# Files below many folders

A file may lie below any number of folders. Such a path has as many folders as it has steps, and a
path that goes less deep shares its folders with one that goes deeper, so that the deeper file needs
fewer new folders if it comes second.

## Main definitions

* `Path.nested`: a file below a number of folders.

## Main results

* `Path.folders_nested`: the folders on the way.
* `Plan.visible_nested`: without content, all such files are visible and none is parsed.
* `Containment.shallow_nested`: when two such files are not nested too deep.
-/

namespace CodeGraph

/-! ### Texts -/

namespace Text

/-- A text without the first code point of another one does not contain it. -/
theorem contains_eq_false {needle s : String} {c : Char} {cs : List Char}
    (hneedle : needle.toList = c :: cs) (h : c ∉ s.toList) : contains needle s = false := by
  have hchars : ∀ l : List Char, c ∉ l → occursIn (c :: cs) l = false := by
    intro l hl
    induction l with
    | nil => rfl
    | cons d l ih =>
      rw [List.mem_cons, not_or] at hl
      rw [occursIn, ih hl.2, List.isPrefixOf, beq_false_of_ne hl.1]
      rfl
  rw [contains, hneedle, hchars _ h]

end Text

/-! ### Nested paths -/

namespace Path

/-- A file below a number of folders. -/
def nested (n : Nat) (leaf : String) : String :=
  Text.join "/" (List.replicate n "d" ++ [leaf])

variable {leaf : String}

/-- A path without folders is its name. -/
theorem toList_nested_zero (leaf : String) : (nested 0 leaf).toList = leaf.toList := by
  simp [nested, Text.join]

/-- A further folder stands in front. -/
theorem toList_nested_succ (n : Nat) (leaf : String) :
    (nested (n + 1) leaf).toList = 'd' :: '/' :: (nested n leaf).toList := by
  have hne : (List.replicate n "d" ++ [leaf]).map String.toList ≠ [] := by simp
  simp only [nested, Text.join, String.toList_ofList, List.replicate_succ, List.cons_append,
    List.map_cons, List.intercalate_cons_of_ne_nil hne]
  rfl

/-- The code points of a nested path. -/
theorem mem_toList_nested {n : Nat} {c : Char} (h : c ∈ (nested n leaf).toList) :
    c = 'd' ∨ c = '/' ∨ c ∈ leaf.toList := by
  induction n with
  | zero => exact .inr (.inr (toList_nested_zero leaf ▸ h))
  | succ n ih =>
    rw [toList_nested_succ] at h
    rcases List.mem_cons.mp h with hd | h
    · exact .inl hd
    rcases List.mem_cons.mp h with hslash | h
    · exact .inr (.inl hslash)
    · exact ih h

/-- The pieces of a nested path. -/
theorem split_nested (n : Nat) (h : '/' ∉ leaf.toList) :
    Text.split '/' (nested n leaf) = List.replicate n "d" ++ [leaf] := by
  refine Text.split_join (by simp) fun p hp => ?_
  rcases List.mem_append.mp hp with hp | hp
  · rw [List.eq_of_mem_replicate hp]
    decide
  · rw [List.mem_singleton.mp hp]
    exact h

/-- Nested paths with the same pieces are the same. -/
theorem nested_inj {n n' : Nat} {leaf' : String} (h : '/' ∉ leaf.toList) (h' : '/' ∉ leaf'.toList)
    (heq : nested n leaf = nested n' leaf') : n = n' ∧ leaf = leaf' := by
  have hpieces := congrArg (Text.split '/') heq
  rw [split_nested n h, split_nested n' h'] at hpieces
  have hlength := congrArg List.length hpieces
  simp only [List.length_append, List.length_replicate, List.length_singleton] at hlength
  obtain rfl : n = n' := by omega
  exact ⟨rfl, List.singleton_inj.mp (List.append_cancel_left hpieces)⟩

/-- The directories on the way to a nested path are nested themselves. -/
theorem ancestors_nested (n : Nat) (h : '/' ∉ leaf.toList) :
    ancestors (nested n leaf) = (List.range n).map (nested · "d") := by
  simp only [ancestors, split_nested n h, List.length_append, List.length_replicate,
    List.length_singleton, Nat.add_sub_cancel]
  refine List.map_congr_left fun i hi => ?_
  have hlt : i + 1 ≤ n := List.mem_range.mp hi
  rw [List.take_append_of_le_length (by rwa [List.length_replicate]), List.take_replicate,
    Nat.min_eq_left hlt, List.replicate_succ', nested]

/-- All directories on the way to a nested path are folders. -/
theorem folders_nested (n : Nat) (h : '/' ∉ leaf.toList) :
    folders (nested n leaf) = (List.range n).map (nested · "d") := by
  have hlast : ∀ i, ∃ front, (nested i "d").toList = front ++ ['d'] := by
    intro i
    induction i with
    | zero => exact ⟨[], toList_nested_zero "d"⟩
    | succ i ih =>
      obtain ⟨front, hfront⟩ := ih
      exact ⟨'d' :: '/' :: front, by rw [toList_nested_succ, hfront]; rfl⟩
  rw [folders, ancestors_nested n h]
  refine List.filter_eq_self.mpr fun d hd => ?_
  obtain ⟨i, -, rfl⟩ := List.mem_map.mp hd
  obtain ⟨front, hfront⟩ := hlast i
  have hne : nested i "d" ≠ "" := by
    intro heq
    rw [heq] at hfront
    simp at hfront
  have hslash : Text.endsWith "/" (nested i "d") = false := by
    rw [Text.endsWith, hfront]
    simp [List.isSuffixOf, List.isPrefixOf]
  rw [hslash, Bool.and_eq_true]
  exact ⟨decide_eq_true hne, rfl⟩

/-- A nested path is not rooted. -/
theorem startsWith_nested (n : Nat) (leaf : String) :
    Text.startsWith "/" (nested (n + 1) leaf) = false := by
  rw [Text.startsWith, toList_nested_succ]
  rfl

end Path

/-! ### Plans with nested files -/

/-- Nested files with these names are not ignored. -/
theorem Selection.ignores_nested (n : Nat) {leaf : String} (h : leaf ∈ ["a", "b"]) :
    (Selection.ofSettings {} {}).ignores (Path.nested n leaf) = false := by
  have hknown : (Selection.ofSettings {} {}).ignoresSegment "d" = false ∧
      ∀ leaf ∈ ["a", "b"], '/' ∉ leaf.toList ∧ leaf.toList ⊆ ['a', 'b'] ∧
        leaf ∉ (Selection.ofSettings {} {}).ignoredNames ∧
        ((Selection.ofSettings {} {}).ignoredExtensions.any fun e => Text.endsWith e leaf) =
          false := by
    decide +kernel
  obtain ⟨hsegment, hleaves⟩ := hknown
  obtain ⟨hslash, hletters, hname, hextension⟩ := hleaves leaf h
  have hchars : ∀ c ∈ (Path.nested n leaf).toList, c ∈ ['a', 'b', 'd', '/'] := by
    intro c hc
    rcases Path.mem_toList_nested hc with rfl | rfl | hc
    · decide
    · decide
    · exact List.mem_append_left ['d', '/'] (hletters hc)
  have hlower : Text.lower (Path.nested n leaf) = Path.nested n leaf := by
    -- a `List.all`, since a bounded `∀` over `Char` would be decided by running through all of it
    have hplain : ['a', 'b', 'd', '/'].all fun c => c ≠ 'Σ' ∧ Text.lowerChar c = [c] := by
      decide
    apply Text.lower_eq_self
    intro c hc
    exact of_decide_eq_true (List.all_eq_true.mp hplain c (hchars c hc))
  have hpackages : Text.contains "site-packages/" (Path.nested n leaf) = false :=
    Text.contains_eq_false (c := 's') rfl fun hc => absurd (hchars _ hc) (by decide)
  have hegg : Text.contains ".egg-info/" (Path.nested n leaf) = false :=
    Text.contains_eq_false (c := '.') rfl fun hc => absurd (hchars _ hc) (by decide)
  have hfolders : (List.replicate n "d").any (Selection.ofSettings {} {}).ignoresSegment =
      false := by
    rw [List.any_eq_false]
    intro segment hmem
    rw [List.eq_of_mem_replicate hmem, hsegment]
    exact Bool.false_ne_true
  simp only [Selection.ignores, hlower, Path.split_nested n hslash, hpackages, hegg,
    List.dropLast_concat, hfolders, List.getLast?_concat, Option.getD_some, hname, hextension]
  rfl

/-- Nested files without content are visible, and none of them is parsed. -/
theorem Plan.visible_nested (paths : List String) (hne : paths ≠ []) (hnodup : paths.Nodup)
    (hnested : ∀ p ∈ paths, ∃ n, ∃ leaf ∈ ["a", "b"], p = Path.nested n leaf) :
    ∃ plan, Plan.ofRequest {} { filePaths := paths } = .ok plan ∧ plan.visible = paths ∧
      plan.pending = [] := by
  have hleaf : ∀ leaf ∈ ["a", "b"], '/' ∉ leaf.toList ∧ leaf ≠ "d" ∧ leaf ≠ "" := by
    decide
  have hsplit : (splitFiles paths).1 = paths := by
    refine splitFiles_eq_self hnodup (fun hempty => ?_) fun p hp hmem => ?_
    · obtain ⟨n, leaf, hleaf', hnil⟩ := hnested "" hempty
      have hpieces := congrArg (Text.split '/') hnil
      rw [Path.split_nested n (hleaf leaf hleaf').1] at hpieces
      have hlast : [""] = List.replicate n "d" ++ [leaf] := hpieces
      have hmem : leaf ∈ [""] := hlast ▸ List.mem_append_right _ (List.mem_singleton_self leaf)
      exact (hleaf leaf hleaf').2.2 (List.mem_singleton.mp hmem)
    · -- directories are named otherwise than files
      obtain ⟨n, leaf, hleaf', rfl⟩ := hnested p hp
      obtain ⟨q, hq, hmem⟩ := List.mem_flatMap.mp hmem
      obtain ⟨n', leaf', hleaf'', rfl⟩ := hnested q hq
      rw [Path.ancestors_nested n' (hleaf leaf' hleaf'').1] at hmem
      obtain ⟨i, -, heq⟩ := List.mem_map.mp hmem
      exact (hleaf leaf hleaf').2.1
        (Path.nested_inj (by decide) (hleaf leaf hleaf').1 heq).2.symm
  have hentries : paths.map (Plan.entry {} { filePaths := paths }) =
      paths.map fun p => (p, some SkipReason.empty) := by
    refine List.map_congr_left fun p hp => ?_
    obtain ⟨n, leaf, hleaf', rfl⟩ := hnested p hp
    have hfilters : (Selection.ofSettings {} {}).directoryFilters = [] ∧
        (Selection.ofSettings {} {}).extensionFilters = [] := by
      decide
    simp only [Plan.entry, Selection.exclusion?, hfilters, Selection.ignores_nested n hleaf']
    rfl
  refine ⟨⟨Selection.ofSettings {} {}, paths.map fun p => (p, some SkipReason.empty)⟩, ?_, ?_, ?_⟩
  · have hempty : paths.isEmpty = false := by
      rw [List.isEmpty_eq_false_iff]
      exact hne
    have hfilters : (Selection.ofSettings {} {}).hasFilters = false := by
      decide
    rw [← hentries]
    simp only [Plan.ofRequest, hempty, hsplit, hfilters, Bool.false_and]
    rfl
  · rw [Plan.visible, List.filter_eq_self.mpr, List.map_map]
    · exact List.map_id _
    · intro f hf
      obtain ⟨p, -, rfl⟩ := List.mem_map.mp hf
      rfl
  · rw [Plan.pending, List.filter_eq_nil_iff.mpr, List.map_nil]
    intro f hf
    obtain ⟨p, -, rfl⟩ := List.mem_map.mp hf
    exact Bool.false_ne_true

/-! ### Skeletons of nested files -/

namespace Containment

variable {leaf leaf' : String}

/-- A file below too many folders cannot be the first one. -/
theorem not_shallow_nested {n : Nat} (hleaf : '/' ∉ leaf.toList) (hn : maxNewFolders < n)
    (files : List String) : shallow [] (Path.nested n leaf :: files) = false := by
  have hmissing : (Path.folders (Path.nested n leaf)).filter
      (· ∉ ([] : List String).flatMap Path.folders) = Path.folders (Path.nested n leaf) :=
    List.filter_eq_self.mpr fun d _ => decide_eq_true List.not_mem_nil
  have hmany : ¬(Path.folders (Path.nested n leaf)).length ≤ maxNewFolders := by
    rw [Path.folders_nested n hleaf, List.length_map, List.length_range]
    omega
  rw [shallow, hmissing, decide_eq_false hmany, Bool.and_false, Bool.false_and]

/-- A file may go as much deeper than the one before it as a first file may go. -/
theorem shallow_nested {n m : Nat} (hleaf : '/' ∉ leaf.toList) (hleaf' : '/' ∉ leaf'.toList)
    (hn : n + 1 ≤ maxNewFolders) (hm : m ≤ maxNewFolders) :
    shallow [] [Path.nested (n + 1) leaf, Path.nested (n + 1 + m) leaf'] = true := by
  have hfirst : ((Path.folders (Path.nested (n + 1) leaf)).filter
      (· ∉ ([] : List String).flatMap Path.folders)).length ≤ maxNewFolders := by
    refine Nat.le_trans (List.length_filter_le _ _) ?_
    rw [Path.folders_nested _ hleaf, List.length_map, List.length_range]
    exact hn
  have hsecond : ((Path.folders (Path.nested (n + 1 + m) leaf')).filter
      (· ∉ [Path.nested (n + 1) leaf].flatMap Path.folders)).length ≤ maxNewFolders := by
    have hsplit : List.range (n + 1 + m) = List.range (n + 1) ++ (List.range m).map (n + 1 + ·) :=
      List.range_add
    rw [List.flatMap_singleton, Path.folders_nested _ hleaf, Path.folders_nested _ hleaf', hsplit,
      List.map_append, List.filter_append]
    have hshared : ((List.range (n + 1)).map (Path.nested · "d")).filter
        (· ∉ (List.range (n + 1)).map (Path.nested · "d")) = [] :=
      List.filter_eq_nil_iff.mpr fun d hd hnew => of_decide_eq_true hnew hd
    rw [hshared, List.nil_append]
    refine Nat.le_trans (List.length_filter_le _ _) ?_
    rw [List.length_map, List.length_map, List.length_range]
    exact hm
  have hroot : Text.startsWith "/" (Path.nested (n + 1 + m) leaf') = false := by
    rw [Nat.add_right_comm]
    exact Path.startsWith_nested _ _
  simp only [shallow, List.nil_append, Path.startsWith_nested, hroot, decide_eq_true hfirst,
    decide_eq_true hsecond]
  rfl

end Containment

end CodeGraph
