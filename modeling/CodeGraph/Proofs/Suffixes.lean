import CodeGraph.Proofs.Path

/-!
# Trailing parts of paths

Files are found by the trailing parts of candidates, with the slashes at either end cut off. If the
last two pieces of a part are not empty, the cut leaves them as they are, so a file that is found
this way ends with both. An empty piece is cut off, and then a name alone may be left.

## Main definitions

* `Path.EndsNamed`: the last two pieces of a path are not empty.
* `Path.SameEnd`: a path ends with the last two named pieces of another one.

## Main results

* `Path.mem_suffixes`: the trailing parts of a path are its last pieces.
* `Path.suffix_split_trimWhile`: what cutting slashes off leaves.
* `Path.EndsNamed.sameEnd`: a file that ends like a part of a candidate.
-/

namespace CodeGraph

namespace Text

/-- A text begins with one code point. -/
theorem startsWith_iff_head? {start : String} {c : Char} (hstart : start.toList = [c])
    (s : String) : startsWith start s = true ↔ s.toList.head? = some c := by
  rw [startsWith, hstart]
  cases s.toList with
  | nil => simp [List.isPrefixOf]
  | cons d ds =>
    simp only [List.isPrefixOf, Bool.and_true, beq_iff_eq, List.head?_cons, Option.some_inj]
    exact eq_comm

/-! ### Cutting slashes off -/

/-- Leading separators of a text are empty pieces, and cutting them off drops those. -/
theorem splitOn_dropWhile {sep : Char} {cs : List Char} (h : ∃ c ∈ cs, c ≠ sep) :
    (cs.dropWhile (· = sep)).splitOn sep = (cs.splitOn sep).dropWhile List.isEmpty := by
  induction cs with
  | nil => simp at h
  | cons c cs ih =>
    rw [List.splitOn_cons_eq_if_modifyHead]
    by_cases hc : c = sep
    · subst hc
      have hrest : ∃ d ∈ cs, d ≠ c := by simpa using h
      rw [List.dropWhile_cons_of_pos (by simp), if_pos BEq.rfl, List.dropWhile_cons_of_pos rfl,
        ih hrest]
    · obtain ⟨first, rest, heq⟩ := List.exists_cons_of_ne_nil (List.splitOn_ne_nil sep cs)
      rw [List.dropWhile_cons_of_neg (by simpa using hc), if_neg (by simpa using hc),
        List.splitOn_cons_eq_if_modifyHead, if_neg (by simpa using hc), heq,
        List.modifyHead_cons, List.dropWhile_cons_of_neg (by simp)]

/-- What begins with something that is kept is a suffix of what is left. -/
theorem suffix_dropWhile {α : Type} {p : α → Bool} {a : α} {xs ys : List α} (ha : p a = false)
    (h : a :: xs <:+ ys) : a :: xs <:+ ys.dropWhile p := by
  obtain ⟨front, rfl⟩ := h
  have hkept : (a :: xs).dropWhile p = a :: xs := List.dropWhile_cons_of_neg (by simp [ha])
  rw [List.dropWhile_append, hkept]
  split
  · exact List.suffix_refl _
  · exact List.suffix_append _ _

/-- The last piece stands at the end. -/
theorem exists_append_of_split {s last : String} (h : [last] <:+ split '/' s) :
    ∃ u, s = u ++ last := by
  obtain ⟨front, hpieces⟩ := h
  rw [← join_split s, ← hpieces]
  by_cases hfront : front = []
  · exact ⟨"", by simp [hfront]⟩
  · exact ⟨join "/" front ++ "/", by rw [join_append hfront (List.cons_ne_nil _ _), join_singleton]⟩

/-- Nothing is cut off the end of a text whose last piece is not empty. -/
theorem trimEndWhile_of_split {s last : String} (h : [last] <:+ split '/' s) (hlast : last ≠ "") :
    trimEndWhile (· = '/') s = s := by
  have hslash : '/' ∉ last.toList := notMem_of_mem_split (h.mem List.mem_cons_self)
  obtain ⟨u, rfl⟩ := exists_append_of_split h
  obtain ⟨cs, c, hcs⟩ := (List.eq_nil_or_concat last.toList).resolve_left
    (mt String.toList_eq_nil_iff.mp hlast)
  have hc : c ≠ '/' := by
    rintro rfl
    exact hslash (by simp [hcs])
  apply String.toList_inj.mp
  simp [trimEndWhile, hcs, hc]

end Text

namespace Path

/-! ### Parts and pieces -/

/-- The trailing parts that start at one of the first pieces are those that are long enough. -/
theorem exists_join_drop_iff {s path : String} {n : Nat}
    (hn : n ≤ (Text.split '/' path).length) :
    (∃ i < n, Text.join "/" ((Text.split '/' path).drop i) = s) ↔
      Text.split '/' s <:+ Text.split '/' path ∧
        (Text.split '/' path).length < n + (Text.split '/' s).length := by
  constructor
  · rintro ⟨i, hi, rfl⟩
    rw [Text.split_join (List.ne_nil_of_length_pos (by rw [List.length_drop]; omega))
      fun p hp => Text.notMem_of_mem_split (List.mem_of_mem_drop hp)]
    exact ⟨List.drop_suffix _ _, by rw [List.length_drop]; omega⟩
  · rintro ⟨h, hlength⟩
    have hle := h.length_le
    refine ⟨(Text.split '/' path).length - (Text.split '/' s).length, by omega, ?_⟩
    rw [← List.suffix_iff_eq_drop.mp h, Text.join_split]

/-- The trailing parts of a path are its last pieces. -/
theorem mem_suffixes {s path : String} :
    s ∈ suffixes path ↔ Text.split '/' s <:+ Text.split '/' path := by
  have hpos := List.length_pos_iff.mpr (Text.split_ne_nil '/' s)
  simp only [suffixes, List.mem_map, List.mem_range]
  rw [exists_join_drop_iff le_rfl]
  exact and_iff_left (by omega)

/-- All trailing parts but the name have more than one piece. -/
theorem mem_dropLast_suffixes {s path : String} :
    s ∈ (suffixes path).dropLast ↔
      Text.split '/' s <:+ Text.split '/' path ∧ 1 < (Text.split '/' s).length := by
  obtain ⟨n, hn⟩ := Nat.exists_eq_add_one_of_ne_zero
    (List.length_pos_iff.mpr (Text.split_ne_nil '/' path)).ne'
  rw [suffixes, hn, List.range_succ, List.map_append, List.map_singleton, List.dropLast_concat]
  simp only [List.mem_map, List.mem_range]
  rw [exists_join_drop_iff (by omega), hn, Nat.add_lt_add_iff_left]

/-- Two last pieces that are not empty stay when slashes are cut off. -/
theorem suffix_split_trimWhile {s a b : String} (h : [a, b] <:+ Text.split '/' s) (ha : a ≠ "")
    (hb : b ≠ "") : [a, b] <:+ Text.split '/' (Text.trimWhile (· = '/') s) := by
  have hsome : ∃ c ∈ s.toList, c ≠ '/' := by
    have hlast := (List.suffix_cons a [b]).trans h
    have hslash : '/' ∉ b.toList := Text.notMem_of_mem_split (hlast.mem List.mem_cons_self)
    obtain ⟨u, rfl⟩ := Text.exists_append_of_split hlast
    obtain ⟨c, hc⟩ := List.exists_mem_of_ne_nil b.toList (mt String.toList_eq_nil_iff.mp hb)
    exact ⟨c, by simp [hc], fun heq => hslash (heq ▸ hc)⟩
  have hstart : [a, b] <:+ Text.split '/' (Text.trimStartWhile (· = '/') s) := by
    have hpieces : Text.split '/' (Text.trimStartWhile (· = '/') s) =
        (Text.split '/' s).dropWhile (· = "") := by
      rw [Text.split, Text.trimStartWhile, String.toList_ofList, Text.splitOn_dropWhile hsome,
        Text.split, List.dropWhile_map]
      refine congrArg (List.map String.ofList <| List.dropWhile · _) (funext fun cs => ?_)
      cases cs <;> simp
    rw [hpieces]
    exact Text.suffix_dropWhile (by simpa using ha) h
  rwa [Text.trimWhile, Text.trimEndWhile_of_split ((List.suffix_cons a [b]).trans hstart) hb]

/-- The name is all that is left of a part with an empty piece before it. -/
theorem trimWhile_slash {name : String} (hname : name ≠ "") (h : '/' ∉ name.toList) :
    Text.trimWhile (· = '/') ("" ++ "/" ++ name) = name := by
  have hstart : Text.trimStartWhile (· = '/') ("" ++ "/" ++ name) = name := by
    obtain ⟨c, cs, hcs⟩ := List.exists_cons_of_ne_nil (mt String.toList_eq_nil_iff.mp hname)
    have hc : c ≠ '/' := by
      rintro rfl
      exact h (by simp [hcs])
    apply String.toList_inj.mp
    simp [Text.trimStartWhile, hcs, hc]
  rw [Text.trimWhile, hstart]
  exact Text.trimEndWhile_of_split (Text.split_of_notMem h ▸ List.suffix_refl _) hname

/-! ### The last two pieces -/

/-- A list of more than one item has two last ones. -/
theorem exists_append_pair {α : Type} {xs : List α} (h : 1 < xs.length) :
    ∃ front a b, xs = front ++ [a, b] := by
  rcases List.eq_nil_or_concat xs with rfl | ⟨front, b, rfl⟩
  · simp at h
  rcases List.eq_nil_or_concat front with rfl | ⟨front, a, rfl⟩
  · simp at h
  · exact ⟨front, a, b, by simp⟩

/-- The last two pieces of a path, or its only one, are not empty. -/
def EndsNamed (path : String) : Prop :=
  ∀ piece ∈ (Text.split '/' path).reverse.take 2, piece ≠ ""

instance (path : String) : Decidable (EndsNamed path) :=
  inferInstanceAs (Decidable (∀ _ ∈ _, _))

/-- A path ends with the last two pieces of a candidate, empty ones of the candidate left out. -/
def SameEnd (path candidate : String) : Prop :=
  ∃ a b, [a, b] <:+ Text.split '/' path ∧ [a, b] <:+ Text.segments '/' candidate

/-- What the last two pieces are. -/
theorem endsNamed_iff_of_split {path last : String} {front : List String}
    (h : Text.split '/' path = front ++ [last]) :
    EndsNamed path ↔ last ≠ "" ∧ front.getLast? ≠ some "" := by
  rw [EndsNamed, h, List.reverse_append]
  rcases List.eq_nil_or_concat front with rfl | ⟨above, x, rfl⟩ <;> simp

/-- A file that ends like a part of a candidate with named pieces ends with both of them. -/
theorem EndsNamed.sameEnd {candidate s path : String} (h : EndsNamed candidate)
    (hs : s ∈ (suffixes candidate).dropLast)
    (hpath : Text.trimWhile (· = '/') s ∈ suffixes path) : SameEnd path candidate := by
  obtain ⟨hsuffix, hlength⟩ := mem_dropLast_suffixes.mp hs
  obtain ⟨front, a, b, hpieces⟩ := exists_append_pair hlength
  have hpair : [a, b] <:+ Text.split '/' candidate :=
    (hpieces ▸ List.suffix_append front [a, b] : [a, b] <:+ Text.split '/' s).trans hsuffix
  obtain ⟨ha, hb⟩ : a ≠ "" ∧ b ≠ "" := by
    obtain ⟨above, habove⟩ := hpair
    simp only [EndsNamed, ← habove, List.reverse_append] at h
    exact ⟨h a (by simp), h b (by simp)⟩
  refine ⟨a, b, ?_, ?_⟩
  · exact (suffix_split_trimWhile (hpieces ▸ List.suffix_append front [a, b]) ha hb).trans
      (mem_suffixes.mp hpath)
  · have hkept := hpair.filter (· ≠ "")
    rwa [List.filter_eq_self.mpr (by simp [ha, hb])] at hkept

/-- A candidate with an empty piece before its name is met by every file of that name. -/
theorem exists_suffix_of_name {candidate name : String} {front : List String} (dir : String)
    (h : Text.split '/' candidate = front ++ ["", name]) (hname : name ≠ "") :
    ∃ s ∈ (suffixes candidate).dropLast,
      Text.trimWhile (· = '/') s ∈ suffixes (dir ++ "/" ++ name) := by
  have hmem : name ∈ Text.split '/' candidate := h ▸ List.mem_append_right front (by simp)
  have hslash := Text.notMem_of_mem_split hmem
  have hpieces : Text.split '/' ("" ++ "/" ++ name) = ["", name] := by
    rw [Text.split_append_slash, Text.split_of_notMem hslash]
    rfl
  refine ⟨"" ++ "/" ++ name, mem_dropLast_suffixes.mpr ⟨?_, ?_⟩, ?_⟩
  · rw [hpieces, h]
    exact List.suffix_append _ _
  · rw [hpieces]
    exact Nat.one_lt_two
  · rw [trimWhile_slash hname hslash, mem_suffixes, Text.split_append_slash,
      Text.split_of_notMem hslash]
    exact List.suffix_append _ _

end Path

end CodeGraph
