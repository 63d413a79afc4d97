import CodeGraph.Containment
import Mathlib.Data.List.Basic
import Mathlib.Data.List.TakeWhile

/-!
# Folders on the way to a file

Cutting a path at its slashes and joining the pieces again are inverse to each other, so the folders
above a folder are the folders listed before it. A folder has therefore the same parent whichever
file needs it first. Paths without empty pieces are as one expects: the folders on the way are all
directories above, and directory and name are the two sides of the last slash.

## Main definitions

* `Path.Above`: a directory above a path.
* `Path.Plain`: a path without empty pieces.

## Main results

* `Text.split_join`, `Text.join_split`: cutting and joining are inverse to each other.
* `Path.ancestors_getElem`: what stands above a directory on the way to a path.
* `Path.folders_of_append`: the folders above a folder are those listed before it.
* `Path.mem_ancestors`, `Path.Plain.folders`: the directories on the way are those above.
* `Path.name_append_slash`, `Path.directory_append_slash`: the two sides of the last slash.
* `Path.extensionLength_lt`: something stands before an extension.
-/

namespace CodeGraph

/-! ### Cutting and joining -/

/-- A piece between separators holds none. -/
theorem notMem_of_mem_splitOn {α : Type} [BEq α] [LawfulBEq α] {x : α} {xs l : List α}
    (h : l ∈ xs.splitOn x) : x ∉ l := by
  induction xs generalizing l with
  | nil =>
    rw [List.splitOn_nil, List.mem_singleton] at h
    simp [h]
  | cons y ys ih =>
    rw [List.splitOn_cons_eq_if_modifyHead] at h
    split at h
    · rcases List.mem_cons.mp h with rfl | h
      · simp
      · exact ih h
    · next hne =>
      obtain ⟨first, rest, heq⟩ := List.exists_cons_of_ne_nil (List.splitOn_ne_nil x ys)
      rw [heq, List.modifyHead_cons] at h
      rcases List.mem_cons.mp h with rfl | h
      · have hfirst : x ∉ first := ih (heq ▸ List.mem_cons_self)
        simp only [beq_iff_eq] at hne
        simp [hfirst, Ne.symm hne]
      · exact ih (heq ▸ List.mem_cons_of_mem _ h)

namespace Text

/-- There is always a piece. -/
theorem split_ne_nil (sep : Char) (s : String) : split sep s ≠ [] := by
  simp [split, List.splitOn_ne_nil]

/-- A piece between slashes holds none. -/
theorem notMem_of_mem_split {sep : Char} {s piece : String} (h : piece ∈ split sep s) :
    sep ∉ piece.toList := by
  obtain ⟨cs, hcs, rfl⟩ := List.mem_map.mp h
  rw [String.toList_ofList]
  exact notMem_of_mem_splitOn hcs

/-- Pieces without slashes that are joined by slashes are cut apart again. -/
theorem split_join {parts : List String} (hne : parts ≠ [])
    (h : ∀ p ∈ parts, '/' ∉ p.toList) : split '/' (join "/" parts) = parts := by
  have hpieces : ∀ l ∈ parts.map String.toList, '/' ∉ l := by
    intro l hl
    obtain ⟨p, hp, rfl⟩ := List.mem_map.mp hl
    exact h p hp
  rw [split, join, String.toList_ofList, show ("/" : String).toList = ['/'] from rfl,
    List.splitOn_intercalate '/' hpieces (by simpa using hne), List.map_map]
  conv_rhs => rw [← List.map_id parts]
  exact List.map_congr_left fun p _ => String.ofList_toList

/-- A text is made of its pieces. -/
theorem join_split_of {sep : Char} {glue : String} (h : glue.toList = [sep]) (s : String) :
    join glue (split sep s) = s := by
  have hpieces : (split sep s).map String.toList = s.toList.splitOn sep := by
    rw [split, List.map_map]
    exact (List.map_congr_left fun cs _ => String.toList_ofList).trans (List.map_id _)
  rw [join, hpieces, h, List.intercalate_splitOn, String.ofList_toList]

theorem join_split (s : String) : join "/" (split '/' s) = s :=
  join_split_of rfl s

/-- A separator divides the pieces before it from those after it. -/
theorem split_append {sep : Char} {glue : String} (h : glue.toList = [sep]) (s t : String) :
    split sep (s ++ glue ++ t) = split sep s ++ split sep t := by
  have hlist : (s ++ glue ++ t).toList = s.toList ++ sep :: t.toList := by
    simp [h]
  rw [split, hlist, List.splitOn_append_cons_self, List.map_append, split, split]

theorem split_append_slash (s t : String) :
    split '/' (s ++ "/" ++ t) = split '/' s ++ split '/' t :=
  split_append rfl s t

/-- A text without separator is one piece. -/
theorem split_of_notMem {sep : Char} {s : String} (h : sep ∉ s.toList) : split sep s = [s] := by
  rw [split, List.splitOn_eq_singleton h, List.map_singleton, String.ofList_toList]

/-- Joined pieces begin with the first one. -/
theorem join_cons_of_ne_nil (glue x : String) {xs : List String} (h : xs ≠ []) :
    join glue (x :: xs) = x ++ glue ++ join glue xs := by
  have hxs : xs.map String.toList ≠ [] := by
    rwa [Ne, List.map_eq_nil_iff]
  apply String.toList_inj.mp
  simp [join, List.intercalate_cons_of_ne_nil hxs]

@[simp]
theorem join_singleton (glue x : String) : join glue [x] = x := by
  simp [join]

/-- Between two lists of pieces stands the separator. -/
theorem join_append {glue : String} {xs ys : List String} (hx : xs ≠ []) (hy : ys ≠ []) :
    join glue (xs ++ ys) = join glue xs ++ glue ++ join glue ys := by
  induction xs with
  | nil => exact absurd rfl hx
  | cons x xs ih =>
    cases xs with
    | nil => rw [List.singleton_append, join_cons_of_ne_nil glue x hy, join_singleton]
    | cons x' xs =>
      rw [List.cons_append, join_cons_of_ne_nil glue x (List.append_ne_nil_of_right_ne_nil _ hy),
        ih (List.cons_ne_nil x' xs), join_cons_of_ne_nil glue x (List.cons_ne_nil x' xs)]
      simp only [String.append_assoc]

/-- There is one piece more than there are slashes. -/
theorem length_split (s : String) : (split '/' s).length = count '/' s + 1 := by
  have hchars : ∀ cs : List Char, (cs.splitOn '/').length = cs.count '/' + 1 := by
    intro cs
    induction cs with
    | nil => rfl
    | cons c cs ih =>
      rw [List.splitOn_cons_eq_if_modifyHead, List.count_cons]
      split
      · rw [List.length_cons, ih]
      · rw [List.length_modifyHead, ih]
  rw [split, List.length_map, hchars, count]

/-- A text has no slash, or a last one. -/
theorem exists_last_slash (s : String) :
    '/' ∉ s.toList ∨ ∃ front last, s = front ++ "/" ++ last ∧ '/' ∉ last.toList := by
  have hpieces := List.dropLast_append_getLast (split_ne_nil '/' s)
  have hlast := notMem_of_mem_split (List.getLast_mem (split_ne_nil '/' s))
  by_cases hfront : (split '/' s).dropLast = []
  · rw [hfront, List.nil_append] at hpieces
    have hs := join_split s
    rw [← hpieces] at hs
    refine .inl ?_
    rw [← hs]
    simpa [join] using hlast
  · refine .inr ⟨join "/" (split '/' s).dropLast, (split '/' s).getLast (split_ne_nil '/' s), ?_,
      hlast⟩
    have hs := join_split s
    rw [← hpieces, join_append hfront (List.cons_ne_nil _ _)] at hs
    simpa [join] using hs.symm

end Text

/-! ### Ancestors -/

namespace Path

/-- The directories above one of the directories on the way to a path are those before it. -/
theorem ancestors_getElem (path : String) (i : Nat) (hi : i < (ancestors path).length) :
    ancestors (ancestors path)[i] = (ancestors path).take i := by
  have hlen : i + 1 < (Text.split '/' path).length := by
    simp only [ancestors, List.length_map, List.length_range] at hi
    omega
  have hsplit : Text.split '/' (Text.join "/" ((Text.split '/' path).take (i + 1))) =
      (Text.split '/' path).take (i + 1) := by
    refine Text.split_join ?_ fun p hp => Text.notMem_of_mem_split (List.mem_of_mem_take hp)
    simp [Text.split_ne_nil]
  simp only [ancestors, List.getElem_map, List.getElem_range, hsplit, List.length_take,
    ← List.map_take, List.take_range]
  rw [Nat.min_eq_left (by omega : i + 1 ≤ (Text.split '/' path).length),
    Nat.min_eq_left (by omega : i ≤ (Text.split '/' path).length - 1), Nat.add_sub_cancel]
  refine List.map_congr_left fun j hj => ?_
  have hj' : j < i := List.mem_range.mp hj
  rw [List.take_take, Nat.min_eq_left (by omega)]

/-- The folders above a folder on the way to a path are those listed before it. -/
theorem folders_of_append {path d : String} {above below : List String}
    (h : folders path = above ++ d :: below) : folders d = above := by
  rw [folders, List.filter_eq_append_iff] at h
  obtain ⟨front, back, hanc, rfl, hback⟩ := h
  rw [List.filter_eq_cons_iff] at hback
  obtain ⟨skipped, after, rfl, hskipped, hd, -⟩ := hback
  have hi : (front ++ skipped).length < (ancestors path).length := by
    rw [hanc]
    simp
  have hget : (ancestors path)[(front ++ skipped).length] = d := by
    simp only [hanc, ← List.append_assoc]
    simp
  have htake : ancestors d = front ++ skipped := by
    rw [← hget, ancestors_getElem path _ hi, hanc, ← List.append_assoc, List.take_left]
  have hnone : skipped.filter (fun d => d ≠ "" && !Text.endsWith "/" d) = [] :=
    List.filter_eq_nil_iff.mpr hskipped
  rw [folders, htake, List.filter_append, hnone, List.append_nil]

/-- There are as many directories on the way to a path as there are slashes. -/
theorem length_ancestors (path : String) : (ancestors path).length = Text.count '/' path := by
  rw [ancestors, List.length_map, List.length_range, Text.length_split, Nat.add_sub_cancel]

/-- A directory above a path: the path goes on after it. -/
def Above (d path : String) : Prop :=
  ∃ rest, path = d ++ "/" ++ rest

/-- A directory is shorter than what it is above. -/
theorem Above.length_lt {d path : String} (h : Above d path) :
    d.toList.length < path.toList.length := by
  obtain ⟨rest, rfl⟩ := h
  have hslash : ("/" : String).toList.length = 1 := rfl
  simp only [String.toList_append, List.length_append]
  omega

/-- Nothing stands above itself. -/
theorem not_above_self (path : String) : ¬Above path path :=
  fun h => Nat.lt_irrefl _ h.length_lt

/-- The directories on the way to a path are those above it. -/
theorem mem_ancestors {d path : String} : d ∈ ancestors path ↔ Above d path := by
  constructor
  · intro h
    obtain ⟨i, hi, rfl⟩ := List.mem_map.mp h
    have hlt : i < (Text.split '/' path).length - 1 := List.mem_range.mp hi
    refine ⟨Text.join "/" ((Text.split '/' path).drop (i + 1)), ?_⟩
    rw [← Text.join_append, List.take_append_drop, Text.join_split]
    · exact List.ne_nil_of_length_pos (by rw [List.length_take]; omega)
    · exact List.ne_nil_of_length_pos (by rw [List.length_drop]; omega)
  · rintro ⟨rest, rfl⟩
    have hd := List.length_pos_iff.mpr (Text.split_ne_nil '/' d)
    have hrest := List.length_pos_iff.mpr (Text.split_ne_nil '/' rest)
    refine List.mem_map.mpr ⟨(Text.split '/' d).length - 1, List.mem_range.mpr ?_, ?_⟩
    · rw [Text.split_append_slash, List.length_append]
      omega
    · rw [Text.split_append_slash, Nat.sub_add_cancel hd, List.take_left, Text.join_split]

/-! ### Paths without empty pieces -/

/-- A path without empty pieces; in particular, it does not start or end with a slash. -/
def Plain (path : String) : Prop :=
  ∀ segment ∈ Text.split '/' path, segment ≠ ""

namespace Plain

variable {d path : String}

/-- What stands above a plain path is plain. -/
theorem of_above (h : Plain path) (hd : Above d path) : Plain d := by
  obtain ⟨rest, rfl⟩ := hd
  intro segment hsegment
  refine h segment ?_
  rw [Text.split_append_slash]
  exact List.mem_append_left _ hsegment

/-- A plain path ends with a code point that is no slash. -/
theorem exists_last (h : Plain path) : ∃ front c, path.toList = front ++ [c] ∧ c ≠ '/' := by
  rcases List.eq_nil_or_concat path.toList with hnil | ⟨front, c, hlist⟩
  · refine absurd rfl (h "" ?_)
    rw [String.toList_eq_nil_iff.mp hnil]
    exact List.mem_cons_self
  · refine ⟨front, c, by simpa using hlist, ?_⟩
    rintro rfl
    -- behind a slash at the end stands an empty piece
    have hpath : path = String.ofList front ++ "/" ++ "" := by
      apply String.toList_inj.mp
      simpa using hlist
    refine h "" ?_ rfl
    rw [hpath, Text.split_append_slash]
    exact List.mem_append_right _ List.mem_cons_self

theorem ne_empty (h : Plain path) : path ≠ "" := by
  rintro rfl
  obtain ⟨front, c, hlist, -⟩ := h.exists_last
  simp at hlist

/-- All directories above a plain path are folders on the way. -/
theorem folders (h : Plain path) : folders path = ancestors path := by
  rw [Path.folders, List.filter_eq_self]
  intro d hd
  have hplain := h.of_above (mem_ancestors.mp hd)
  obtain ⟨front, c, hlist, hc⟩ := hplain.exists_last
  have hslash : Text.endsWith "/" d = false := by
    rw [Text.endsWith, hlist]
    simp [List.isSuffixOf, List.isPrefixOf, Ne.symm hc]
  rw [hslash, Bool.and_eq_true]
  exact ⟨decide_eq_true hplain.ne_empty, rfl⟩

end Plain

/-! ### The two sides of the last slash -/

/-- Backwards, a text without slashes is read to its end. -/
theorem ne_slash_of_mem_reverse {s : String} (h : '/' ∉ s.toList) :
    ∀ c ∈ s.toList.reverse, decide (c ≠ '/') = true :=
  fun _ hc => decide_eq_true fun heq => h (heq ▸ List.mem_reverse.mp hc)

theorem reverse_append_slash (s t : String) :
    (s ++ "/" ++ t).toList.reverse = t.toList.reverse ++ '/' :: s.toList.reverse := by
  simp

/-- The name of a path is what stands after its last slash. -/
theorem name_append_slash (d : String) {last : String} (h : '/' ∉ last.toList) :
    name (d ++ "/" ++ last) = last := by
  rw [name, Text.afterLast, reverse_append_slash,
    List.takeWhile_append_of_pos (ne_slash_of_mem_reverse h)]
  simp

/-- The part of a path up to its last slash. -/
theorem throughLastSlash_append_slash (dir : String) {last : String} (h : '/' ∉ last.toList) :
    throughLastSlash (dir ++ "/" ++ last).toList = dir.toList ++ ['/'] := by
  rw [throughLastSlash, reverse_append_slash,
    List.dropWhile_append_of_pos (ne_slash_of_mem_reverse h)]
  simp

/-- The directory of a path is what stands before its last slash. -/
theorem directory_append_slash {d last : String} (hd : Plain d) (h : '/' ∉ last.toList) :
    directory (d ++ "/" ++ last) = d := by
  obtain ⟨front, c, hfront, hc⟩ := hd.exists_last
  have hsome : (d.toList ++ ['/']).all (· = '/') = false := by
    rw [List.all_eq_false]
    exact ⟨c, by simp [hfront], by simpa using hc⟩
  rw [directory, throughLastSlash_append_slash d h, hsome, hfront]
  apply String.toList_inj.mp
  simp [hc, hfront]

/-- A path without slashes is a name. -/
theorem name_of_notMem {path : String} (h : '/' ∉ path.toList) : name path = path := by
  rw [name, Text.afterLast, List.takeWhile_eq_self_iff.mpr (ne_slash_of_mem_reverse h)]
  simp

/-- A path without slashes has no directory. -/
theorem directory_of_notMem {path : String} (h : '/' ∉ path.toList) : directory path = "" := by
  have hnone : path.toList.reverse.dropWhile (· ≠ '/') = [] :=
    List.dropWhile_eq_nil_iff.mpr (ne_slash_of_mem_reverse h)
  rw [directory, throughLastSlash, hnone]
  rfl

/-- A name is the last piece of its path. -/
theorem getLast?_split (path : String) : (Text.split '/' path).getLast? = some (name path) := by
  rcases Text.exists_last_slash path with h | ⟨dir, last, rfl, h⟩
  · rw [Text.split_of_notMem h, name_of_notMem h]
    rfl
  · rw [Text.split_append_slash, Text.split_of_notMem h, name_append_slash dir h,
      List.getLast?_concat]

theorem name_name (path : String) : name (name path) = name path :=
  name_of_notMem (Text.notMem_of_mem_split (List.mem_of_getLast? (getLast?_split path)))

/-- A path ends like its name. -/
theorem endsWith_of_name {finish path : String} (h : Text.endsWith finish (name path) = true) :
    Text.endsWith finish path = true := by
  rcases Text.exists_last_slash path with hslash | ⟨dir, last, rfl, hslash⟩
  · rwa [name_of_notMem hslash] at h
  · rw [name_append_slash dir hslash, Text.endsWith, List.isSuffixOf_iff_suffix] at h
    rw [Text.endsWith, List.isSuffixOf_iff_suffix, String.toList_append]
    exact h.trans (List.suffix_append _ _)

/-! ### The two sides of the last dot -/

/-- Something stands before an extension. -/
theorem extensionLength_lt {base : List Char} (h : base ≠ []) :
    extensionLength base < base.length := by
  have hpos := List.length_pos_iff.mpr h
  have hlength := congrArg List.length (List.takeWhile_append_dropWhile
    (p := fun c => decide (c ≠ '.')) (l := base.reverse))
  rw [List.length_append, List.length_reverse] at hlength
  unfold extensionLength
  split
  · exact hpos
  · next dot front hfront =>
    rw [hfront, List.length_cons] at hlength
    dsimp only
    split
    · exact hpos
    · next hdots =>
      have hne : front ≠ [] := by
        rintro rfl
        exact hdots rfl
      have hfrontPos := List.length_pos_iff.mpr hne
      omega

/-- An extension is no longer than its name. -/
theorem extensionLength_le (base : List Char) : extensionLength base ≤ base.length := by
  rcases eq_or_ne base [] with rfl | hne
  · exact le_rfl
  · exact (extensionLength_lt hne).le

/-- Without its extension a name is not empty. -/
theorem stem_name_ne_empty {path : String} (h : name path ≠ "") : stem (name path) ≠ "" := by
  have hlt := extensionLength_lt (mt String.toList_eq_nil_iff.mp h)
  intro hempty
  have hlength := congrArg (List.length ∘ String.toList) hempty
  simp only [stem, name_name, Text.dropEnd, Function.comp_apply, String.toList_ofList,
    List.length_take, String.toList_empty, List.length_nil] at hlength
  omega

end Path

end CodeGraph
