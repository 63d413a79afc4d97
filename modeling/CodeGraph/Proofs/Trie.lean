import CodeGraph.Proofs.Fresh
import CodeGraph.Proofs.OrderedMap
import CodeGraph.Registry.Trie
import Mathlib.Data.List.Dedup
import Mathlib.Data.List.Infix

/-!
# Tries as lists of paths

Every node of a trie stands at the end of one path of segments. The links between nodes follow the
paths: a child is where its parent's path goes on by one segment. So a walk down finds the node of a
path, a walk up reads a path backwards, and a walk with a stack visits every node below a path once.

## Main definitions

* `Trie.Shaped`: the paths of the nodes of a trie.
* `Trie.Lists`: a trie has nodes for the leading parts of some paths, with items at their ends.
* `Trie.subtree`: the nodes whose paths go on from a given one.

## Main results

* `Trie.Lists.insert`: insertion adds an item to the list.
* `Trie.Lists.find?_eq_some_iff`: what a walk down finds.
* `Trie.Lists.visits`: a walk with a stack comes to an end, and has seen the subtree.
* `Trie.Lists.itemsAt`, `Trie.Lists.below_perm`, `Trie.Lists.endingWith_perm`: look-ups as filters.
-/

namespace CodeGraph

/-- The place behind a list holds what is appended to it. -/
theorem getElem?_concat {β : Type} (xs : List β) (x : β) (i : Nat) :
    (xs ++ [x])[i]? = if i = xs.length then some x else xs[i]? := by
  grind

/-- What is in a list stays in its place. -/
theorem getElem?_concat_of_some {β : Type} {xs : List β} {y : β} {i : Nat} (h : xs[i]? = some y)
    (x : β) : (xs ++ [x])[i]? = some y := by
  rw [getElem?_concat, if_neg (Nat.ne_of_lt (List.getElem?_eq_some_iff.mp h).1), h]

/-- The last items of lists that end with each other are the same. -/
theorem concat_suffix_concat_iff {β : Type} {xs ys : List β} {x y : β} :
    xs ++ [x] <:+ ys ++ [y] ↔ xs <:+ ys ∧ y = x := by
  have hsplit : xs ++ [x] <:+ ys ++ [y] ↔ xs <:+ ys ∧ [x] = [y] :=
    List.suffix_append_inj_of_length_eq rfl
  rw [hsplit, List.cons.injEq, and_iff_left rfl, @eq_comm _ x]

namespace Trie

variable {α : Type}

/-! ### Nodes after a change -/

/-- A change of a node leaves the others alone. -/
theorem node_modify (t : Trie α) {i : Nat} (hi : i < t.size) (f : TrieNode α → TrieNode α)
    (j : Nat) : (t.modify i f).node j = if j = i then f (t.node i) else t.node j := by
  simp only [node, modify, List.getD_eq_getElem?_getD, List.getElem?_modify]
  by_cases hj : j = i
  · subst hj
    rw [List.getElem?_eq_getElem hi]
    simp
  · simp [hj, Ne.symm hj]

@[simp]
theorem size_modify (t : Trie α) (i : Nat) (f : TrieNode α → TrieNode α) :
    (t.modify i f).size = t.size :=
  List.length_modify f t.nodes i

/-- There is nothing behind the last node. -/
theorem node_of_le (t : Trie α) {i : Nat} (hi : t.size ≤ i) : t.node i = {} := by
  rw [node, List.getD_eq_getElem?_getD, List.getElem?_eq_none hi, Option.getD_none]

@[simp]
theorem size_addChild (t : Trie α) (i : Nat) (s : String) :
    (t.addChild i s).size = t.size + 1 := by
  simp [addChild, size, modify]

/-- A new child stands last, and its parent refers to it. -/
theorem node_addChild (t : Trie α) {i : Nat} (hi : i < t.size) (s : String) (j : Nat) :
    (t.addChild i s).node j =
      if j = t.size then { segment := s, parent := some i }
      else if j = i then { t.node i with children := (t.node i).children.insert s t.size }
      else t.node j := by
  have hlinked := t.node_modify hi (fun n => { n with children := n.children.insert s t.size }) j
  have hsize := t.size_modify i fun n => { n with children := n.children.insert s t.size }
  rw [node, List.getD_eq_getElem?_getD] at hlinked
  rw [node, List.getD_eq_getElem?_getD, addChild, getElem?_concat]
  rw [show (t.modify i fun n => { n with children := n.children.insert s t.size }).nodes.length =
    t.size from hsize]
  split
  · rfl
  · exact hlinked

/-- The new child is found from its parent, and all others as before. -/
theorem child?_addChild (t : Trie α) {i : Nat} (hi : i < t.size) (s : String) (j : Nat)
    (s' : String) :
    (t.addChild i s).child? j s' =
      if j = t.size then none
      else if j = i ∧ s' = s then some t.size else t.child? j s' := by
  rw [child?, t.node_addChild hi]
  split
  · rfl
  split
  · next heq =>
    subst heq
    rw [OrderedMap.get?_insert]
    simp only [true_and]
    rfl
  · next hne =>
    rw [if_neg fun hboth => hne hboth.1]
    rfl

/-! ### Paths of nodes -/

/-- The paths of the nodes of a trie, in order of creation. -/
structure Shaped (t : Trie α) (ps : List (List String)) : Prop where
  size : t.size = ps.length
  root : ps[0]? = some []
  nodup : ps.Nodup
  children : ∀ {i p}, ps[i]? = some p → ∀ s c, t.child? i s = some c ↔ ps[c]? = some (p ++ [s])
  keys : ∀ i, (t.node i).children.keys.Nodup
  parent : ∀ {i p}, ps[i]? = some p → p ≠ [] →
    ∃ j q, (t.node i).parent = some j ∧ ps[j]? = some q ∧ p = q ++ [(t.node i).segment]
  bySegment : ∀ s, t.bySegment.getD s [] =
    (List.range ps.length).filter fun i => ps[i]?.bind List.getLast? = some s

namespace Shaped

variable {t : Trie α} {ps : List (List String)}

/-- The trie without items has a root. -/
protected theorem empty : (empty : Trie α).Shaped [[]] where
  size := rfl
  root := rfl
  nodup := List.nodup_singleton _
  children := by
    intro i p hi s c
    refine ⟨fun h => ?_, fun h => ?_⟩
    · cases i <;> cases h
    · have hmem := List.mem_of_getElem? h
      simp at hmem
  keys i := by cases i <;> exact List.nodup_nil
  parent := by
    intro i p hi hp
    exact absurd (List.mem_singleton.mp (List.mem_of_getElem? hi)) hp
  bySegment s := by simp [Trie.empty, OrderedMap.getD]

/-- A place with a path is a place of a node. -/
theorem lt_size (h : t.Shaped ps) {i : Nat} {p : List String} (hi : ps[i]? = some p) :
    i < t.size :=
  h.size ▸ (List.getElem?_eq_some_iff.mp hi).1

/-- Nodes at the end of the same path are the same. -/
theorem place_inj (h : t.Shaped ps) {i j : Nat} {p : List String} (hi : ps[i]? = some p)
    (hj : ps[j]? = some p) : i = j :=
  (List.getElem?_inj (List.getElem?_eq_some_iff.mp hi).1 h.nodup).mp (hi.trans hj.symm)

/-- Where a path leads to a node, its leading parts do. -/
theorem mem_of_append (h : t.Shaped ps) {p rest : List String} (hmem : p ++ rest ∈ ps) :
    p ∈ ps := by
  induction rest using List.reverseRecOn with
  | nil => simpa using hmem
  | append_singleton rest s ih =>
    obtain ⟨i, hi⟩ := List.mem_iff_getElem?.mp hmem
    obtain ⟨j, q, -, hj, heq⟩ := h.parent hi (by simp)
    rw [← List.append_assoc] at heq
    rw [← (List.append_inj' heq rfl).1] at hj
    exact ih (List.mem_of_getElem? hj)

/-- A walk down ends at the node of its path. -/
theorem foldlM_child? (h : t.Shaped ps) {i : Nat} {p : List String} (hi : ps[i]? = some p)
    (path : List String) (c : Nat) :
    path.foldlM t.child? i = some c ↔ ps[c]? = some (p ++ path) := by
  induction path generalizing i p with
  | nil =>
    rw [List.append_nil]
    refine ⟨fun hc => Option.some.inj hc ▸ hi, fun hc => congrArg some (h.place_inj hi hc)⟩
  | cons s path ih =>
    rw [List.foldlM_cons, List.append_cons]
    constructor
    · intro hc
      obtain ⟨d, hd, hc⟩ := Option.bind_eq_some_iff.mp hc
      exact (ih ((h.children hi s d).mp hd)).mp hc
    · intro hc
      obtain ⟨d, hd⟩ := List.mem_iff_getElem?.mp (h.mem_of_append (List.mem_of_getElem? hc))
      exact Option.bind_eq_some_iff.mpr ⟨d, (h.children hi s d).mpr hd, (ih hd).mpr hc⟩

/-- What a walk from the root finds. -/
theorem find?_eq_some_iff (h : t.Shaped ps) (path : List String) (c : Nat) :
    t.find? path = some c ↔ ps[c]? = some path :=
  h.foldlM_child? h.root path c

/-- A walk up reads a path backwards. -/
theorem climbs_iff (h : t.Shaped ps) {i : Nat} {p : List String} (hi : ps[i]? = some p)
    (above : List String) : t.climbs (some i) above = true ↔ above.reverse <:+ p := by
  induction above generalizing i p with
  | nil => simp [climbs]
  | cons s above ih =>
    rw [climbs, List.reverse_cons]
    by_cases hp : p = []
    · subst hp
      obtain rfl := h.place_inj hi h.root
      simp
    · obtain ⟨j, q, hparent, hj, heq⟩ := h.parent hi hp
      have hroot : i ≠ 0 := by
        rintro rfl
        exact hp (Option.some.inj (hi.symm.trans h.root))
      rw [hparent, Bool.and_eq_true, Bool.and_eq_true, ih hj, heq, concat_suffix_concat_iff,
        decide_eq_true_iff, decide_eq_true_iff, and_iff_right hroot, and_comm]

/-- A walk up from a node reads its path backwards, from the last but one segment on. -/
theorem climbs_parent_iff (h : t.Shaped ps) {i : Nat} {p : List String} (hi : ps[i]? = some p)
    (last : String) (above : List String) :
    p.getLast? = some last ∧ t.climbs (t.node i).parent above = true ↔
      above.reverse ++ [last] <:+ p := by
  by_cases hp : p = []
  · simp [hp]
  · obtain ⟨j, q, hparent, hj, heq⟩ := h.parent hi hp
    rw [hparent, h.climbs_iff hj, heq, concat_suffix_concat_iff, List.getLast?_append,
      List.getLast?_singleton, Option.some_or, Option.some.injEq, and_comm]

/-- A trie with the same links has the same paths. -/
theorem congr (h : t.Shaped ps) {t' : Trie α} (hsize : t'.size = t.size)
    (hnode : ∀ i, (t'.node i).segment = (t.node i).segment ∧
      (t'.node i).parent = (t.node i).parent ∧ (t'.node i).children = (t.node i).children)
    (hindex : t'.bySegment = t.bySegment) : t'.Shaped ps where
  size := hsize.trans h.size
  root := h.root
  nodup := h.nodup
  children := by
    intro i p hi s c
    rw [child?, (hnode i).2.2]
    exact h.children hi s c
  keys i := (hnode i).2.2 ▸ h.keys i
  parent := by
    intro i p hi hp
    rw [(hnode i).1, (hnode i).2.1]
    exact h.parent hi hp
  bySegment s := by rw [hindex, h.bySegment]

/-! ### New nodes -/

/-- From the nodes as they are with a new child, segments lead on as before or to the new child. -/
theorem children_addChild (h : t.Shaped ps) {i : Nat} {p : List String} (hi : ps[i]? = some p)
    {s : String} (hnew : p ++ [s] ∉ ps) {j : Nat} {q : List String}
    (hj : (ps ++ [p ++ [s]])[j]? = some q) (s' : String) (c : Nat) :
    (t.addChild i s).child? j s' = some c ↔ (ps ++ [p ++ [s]])[c]? = some (q ++ [s']) := by
  rw [getElem?_concat] at hj
  rw [t.child?_addChild (h.lt_size hi), getElem?_concat, h.size]
  split at hj
  · next hlast =>
    -- the new node has no children, and no node stands below its path
    obtain rfl := Option.some.inj hj
    rw [if_pos hlast]
    refine ⟨fun hc => absurd hc (by simp), fun hc => ?_⟩
    split at hc
    · simp at hc
    · exact absurd (h.mem_of_append (List.mem_of_getElem? hc)) hnew
  · next hlast =>
    rw [if_neg hlast]
    have hpath : p ++ [s] = q ++ [s'] ↔ j = i ∧ s' = s := by
      constructor
      · intro heq
        obtain ⟨rfl, hs⟩ := List.append_inj' heq rfl
        exact ⟨h.place_inj hj hi, (List.cons.inj hs).1.symm⟩
      · rintro ⟨rfl, rfl⟩
        rw [Option.some.inj (hi.symm.trans hj)]
    by_cases hnode : j = i ∧ s' = s
    · have hnone : ps[c]? ≠ some (q ++ [s']) := fun hc =>
        hnew (hpath.mpr hnode ▸ List.mem_of_getElem? hc)
      rw [if_pos hnode, hpath.mpr hnode]
      split
      · next hc => simp [hc]
      · next hc => simp [hnone, Ne.symm hc]
    · rw [if_neg hnode, h.children hj s' c]
      split
      · next hc =>
        have hnone : ps[c]? = none := List.getElem?_eq_none (Nat.le_of_eq hc.symm)
        simp only [hnone, reduceCtorEq, Option.some.injEq, hpath, hnode]
      · rfl

/-- The parents of the nodes as they are with a new child. -/
theorem parent_addChild (h : t.Shaped ps) {i : Nat} {p : List String} (hi : ps[i]? = some p)
    (s : String) {j : Nat} {q : List String} (hj : (ps ++ [p ++ [s]])[j]? = some q) (hq : q ≠ []) :
    ∃ k q', ((t.addChild i s).node j).parent = some k ∧ (ps ++ [p ++ [s]])[k]? = some q' ∧
      q = q' ++ [((t.addChild i s).node j).segment] := by
  rw [getElem?_concat, ← h.size] at hj
  rw [t.node_addChild (h.lt_size hi)]
  split at hj
  · next hlast =>
    rw [if_pos hlast]
    exact ⟨i, p, rfl, getElem?_concat_of_some hi _, (Option.some.inj hj).symm⟩
  · next hlast =>
    rw [if_neg hlast]
    obtain ⟨k, q', hparent, hk, heq⟩ := h.parent hj hq
    refine ⟨k, q', ?_, getElem?_concat_of_some hk _, ?_⟩
    · split
      · next hji => rw [← hji, hparent]
      · exact hparent
    · split
      · next hji => rw [← hji, heq]
      · exact heq

/-- A new child is listed last under its segment. -/
theorem bySegment_addChild (h : t.Shaped ps) (i : Nat) (p : List String) (s s' : String) :
    (t.addChild i s).bySegment.getD s' [] = (List.range (ps ++ [p ++ [s]]).length).filter
      fun j => (ps ++ [p ++ [s]])[j]?.bind List.getLast? = some s' := by
  have hfilter : (List.range ps.length).filter
      (fun j => (ps ++ [p ++ [s]])[j]?.bind List.getLast? = some s') =
      (List.range ps.length).filter fun j => ps[j]?.bind List.getLast? = some s' := by
    refine List.filter_congr fun j hj => ?_
    rw [getElem?_concat, if_neg (Nat.ne_of_lt (List.mem_range.mp hj))]
  rw [Trie.addChild, OrderedMap.getD_alter, List.length_append, List.length_singleton,
    List.range_succ, List.filter_append, hfilter, h.bySegment, h.bySegment, h.size]
  by_cases hs : s' = s
  · subst hs
    simp
  · simp [hs, Ne.symm hs]

/-- A new child stands at the end of its parent's path and its own segment. -/
theorem addChild (h : t.Shaped ps) {i : Nat} {p : List String} (hi : ps[i]? = some p) {s : String}
    (hnew : p ++ [s] ∉ ps) : (t.addChild i s).Shaped (ps ++ [p ++ [s]]) where
  size := by rw [size_addChild, h.size, List.length_append, List.length_singleton]
  root := getElem?_concat_of_some h.root _
  nodup := List.nodup_append.mpr ⟨h.nodup, List.nodup_singleton _, fun q hq q' hq' heq =>
    hnew (List.mem_singleton.mp hq' ▸ heq ▸ hq)⟩
  children hj := h.children_addChild hi hnew hj
  keys j := by
    rw [t.node_addChild (h.lt_size hi)]
    split
    · exact List.nodup_nil
    split
    · exact OrderedMap.nodup_keys_insert (h.keys i) s _
    · exact h.keys j
  parent hj := h.parent_addChild hi s hj
  bySegment := h.bySegment_addChild i p s

/-- What going down a path leaves behind: nodes for its leading parts, and no other change. -/
structure Grown (t t' : Trie α) (ps ps' : List (List String)) (p path : List String) : Prop where
  shaped : t'.Shaped ps'
  kept : ∀ {i : Nat} {q : List String}, ps[i]? = some q → ps'[i]? = some q
  mem : ∀ q, q ∈ ps' ↔ q ∈ ps ∨ ∃ r, r <+: path ∧ q = p ++ r
  items : ∀ i, (t'.node i).items = (t.node i).items

/-- Going down by a segment arrives at the end of the path that is longer by it. -/
theorem descend (h : t.Shaped ps) {i : Nat} {p : List String} (hi : ps[i]? = some p) (s : String) :
    ∃ t' c ps', Trie.descend (t, i) s = (t', c) ∧ ps'[c]? = some (p ++ [s]) ∧
      Grown t t' ps ps' p [s] := by
  have hmem : ∀ q, (∃ r, r <+: [s] ∧ q = p ++ r) ↔ q = p ∨ q = p ++ [s] := by
    intro q
    constructor
    · rintro ⟨r, hr, rfl⟩
      rcases List.prefix_cons_iff.mp hr with rfl | ⟨r', rfl, hr'⟩
      · exact .inl (List.append_nil p)
      · rw [List.prefix_nil.mp hr']
        exact .inr rfl
    · rintro (rfl | rfl)
      · exact ⟨[], List.nil_prefix, (List.append_nil q).symm⟩
      · exact ⟨[s], List.prefix_refl _, rfl⟩
  have hp := List.mem_of_getElem? hi
  cases hchild : t.child? i s with
  | some c =>
    have hc := (h.children hi s c).mp hchild
    refine ⟨t, c, ps, by simp only [Trie.descend, hchild], hc, h, id, fun q => ?_, fun _ => rfl⟩
    rw [hmem]
    refine ⟨.inl, ?_⟩
    rintro (hq | rfl | rfl)
    · exact hq
    · exact hp
    · exact List.mem_of_getElem? hc
  | none =>
    have hnew : p ++ [s] ∉ ps := by
      intro hmem
      obtain ⟨c, hc⟩ := List.mem_iff_getElem?.mp hmem
      rw [(h.children hi s c).mpr hc] at hchild
      cases hchild
    refine ⟨t.addChild i s, t.size, ps ++ [p ++ [s]], by simp only [Trie.descend, hchild], ?_,
      h.addChild hi hnew, fun hj => getElem?_concat_of_some hj _, fun q => ?_, fun j => ?_⟩
    · rw [getElem?_concat, if_pos h.size]
    · rw [List.mem_append, List.mem_singleton, hmem]
      refine or_congr_right' fun hq => ?_
      rw [or_iff_right (fun heq : q = p => hq (heq ▸ hp))]
    · rw [t.node_addChild (h.lt_size hi)]
      split
      · next hlast => rw [t.node_of_le (Nat.le_of_eq hlast.symm)]
      split
      · next heq => rw [heq]
      · rfl

/-- Going down a path arrives at its end. -/
theorem foldl_descend (h : t.Shaped ps) {i : Nat} {p : List String} (hi : ps[i]? = some p)
    (path : List String) :
    ∃ t' c ps', path.foldl Trie.descend (t, i) = (t', c) ∧ ps'[c]? = some (p ++ path) ∧
      Grown t t' ps ps' p path := by
  induction path generalizing t ps i p with
  | nil =>
    refine ⟨t, i, ps, rfl, by rw [List.append_nil, hi], h, id, fun q => ?_,
      fun _ => rfl⟩
    refine ⟨.inl, ?_⟩
    rintro (hq | ⟨r, hr, rfl⟩)
    · exact hq
    · rw [List.prefix_nil.mp hr, List.append_nil]
      exact List.mem_of_getElem? hi
  | cons s path ih =>
    obtain ⟨t₁, c₁, ps₁, hstep, hc₁, hfirst⟩ := h.descend hi s
    obtain ⟨t₂, c₂, ps₂, hrest, hc₂, hsecond⟩ := ih hfirst.shaped hc₁
    refine ⟨t₂, c₂, ps₂, by rw [List.foldl_cons, hstep, hrest],
      by rw [hc₂, ← List.append_cons], hsecond.shaped, fun hj => hsecond.kept (hfirst.kept hj),
      fun q => ?_, fun j => ?_⟩
    · rw [hsecond.mem, hfirst.mem, or_assoc]
      refine or_congr_right ⟨?_, ?_⟩
      · rintro (⟨r, hr, rfl⟩ | ⟨r, hr, rfl⟩)
        · exact ⟨r, hr.trans (List.prefix_append [s] path), rfl⟩
        · exact ⟨s :: r, List.cons_prefix_cons.mpr ⟨rfl, hr⟩, (List.append_cons _ _ _).symm⟩
      · rintro ⟨r, hr, rfl⟩
        rcases List.prefix_cons_iff.mp hr with rfl | ⟨r', rfl, hr'⟩
        · exact .inl ⟨[], List.nil_prefix, rfl⟩
        · exact .inr ⟨r', hr', List.append_cons _ _ _⟩
    · rw [hsecond.items, hfirst.items]

end Shaped

/-! ### Subtrees -/

/-- The nodes at the end of a path and below. -/
def subtree (ps : List (List String)) (p : List String) : List Nat :=
  (List.range ps.length).filter fun i => ps[i]?.any p.isPrefixOf

/-- A node belongs to the subtree of a path exactly if its own path goes on from there. -/
theorem mem_subtree {ps : List (List String)} {p : List String} {i : Nat} :
    i ∈ subtree ps p ↔ ∃ q, ps[i]? = some q ∧ p <+: q := by
  rw [subtree, List.mem_filter, List.mem_range]
  constructor
  · rintro ⟨hlt, hany⟩
    rw [List.getElem?_eq_getElem hlt] at hany ⊢
    exact ⟨_, rfl, List.isPrefixOf_iff_prefix.mp hany⟩
  · rintro ⟨q, hi, hpre⟩
    refine ⟨(List.getElem?_eq_some_iff.mp hi).1, ?_⟩
    rw [hi]
    exact List.isPrefixOf_iff_prefix.mpr hpre

theorem nodup_subtree (ps : List (List String)) (p : List String) : (subtree ps p).Nodup :=
  List.nodup_range.filter _

/-- The nodes on a stack, with all that stands below them. -/
def pending (ps : List (List String)) (stack : List Nat) : List Nat :=
  stack.flatMap fun i => subtree ps (ps.getD i [])

namespace Shaped

variable {t : Trie α} {ps : List (List String)}

/-- The listed children of a node stand where its path goes on by their segments. -/
theorem getElem?_of_mem_children (h : t.Shaped ps) {i : Nat} {p : List String}
    (hi : ps[i]? = some p) {e : String × Nat} (he : e ∈ (t.node i).children.toList) :
    ps[e.2]? = some (p ++ [e.1]) :=
  (h.children hi e.1 e.2).mp (OrderedMap.get?_of_mem_toList (h.keys i) he)

/-- The children of a node, on top of a stack, stand for the subtrees below it. -/
theorem pending_children (h : t.Shaped ps) {i : Nat} {p : List String} (hi : ps[i]? = some p) :
    pending ps (t.node i).children.values.reverse =
      (t.node i).children.toList.reverse.flatMap fun e => subtree ps (p ++ [e.1]) := by
  rw [pending, OrderedMap.values, ← List.map_reverse, List.flatMap_map]
  refine List.flatMap_congr fun e he => ?_
  rw [List.getD_eq_getElem?_getD, h.getElem?_of_mem_children hi (List.mem_reverse.mp he),
    Option.getD_some]

/-- A subtree is its topmost node with the subtrees of the children. -/
theorem subtree_perm (h : t.Shaped ps) {i : Nat} {p : List String} (hi : ps[i]? = some p) :
    (subtree ps p).Perm (i :: pending ps (t.node i).children.values.reverse) := by
  rw [h.pending_children hi]
  refine (List.perm_ext_iff_of_nodup (nodup_subtree ps p) ?_).mpr fun c => ?_
  · refine List.nodup_cons.mpr ⟨fun hmem => ?_, List.nodup_flatMap.mpr ⟨fun _ _ =>
      nodup_subtree _ _, ?_⟩⟩
    · obtain ⟨e, -, hmem⟩ := List.mem_flatMap.mp hmem
      obtain ⟨q, hq, hpre⟩ := mem_subtree.mp hmem
      obtain rfl := Option.some.inj (hi.symm.trans hq)
      exact absurd hpre.length_le (by simp)
    · -- a path goes on from a node by one segment only
      have hkeys := h.keys i
      rw [OrderedMap.keys, List.Nodup, List.pairwise_map] at hkeys
      refine List.pairwise_reverse.mpr (hkeys.imp fun {e e'} hne => ?_)
      intro c hc hc'
      obtain ⟨q, hq, hpre⟩ := mem_subtree.mp hc
      obtain ⟨q', hq', hpre'⟩ := mem_subtree.mp hc'
      obtain rfl := Option.some.inj (hq.symm.trans hq')
      have hlast := List.prefix_of_prefix_length_le hpre hpre' (by simp)
      rw [List.prefix_append_right_inj, List.cons_prefix_cons] at hlast
      exact hne hlast.1.symm
  · rw [mem_subtree, List.mem_cons, List.mem_flatMap]
    constructor
    · rintro ⟨q, hq, ⟨rest, rfl⟩⟩
      cases rest with
      | nil =>
        rw [List.append_nil] at hq
        exact .inl (h.place_inj hq hi)
      | cons s rest =>
        rw [List.append_cons] at hq
        obtain ⟨d, hd⟩ := List.mem_iff_getElem?.mp (h.mem_of_append (List.mem_of_getElem? hq))
        have hchild := OrderedMap.mem_toList_of_get? ((h.children hi s d).mpr hd)
        exact .inr ⟨(s, d), List.mem_reverse.mpr hchild,
          mem_subtree.mpr ⟨_, hq, List.prefix_append _ _⟩⟩
    · rintro (rfl | ⟨e, -, hmem⟩)
      · exact ⟨p, hi, List.prefix_refl p⟩
      · obtain ⟨q, hq, hpre⟩ := mem_subtree.mp hmem
        exact ⟨q, hq, (List.prefix_append _ _).trans hpre⟩

/-- An empty stack stays empty. -/
theorem visits_nil (t : Trie α) (n : Nat) (found : List α) :
    t.visits n ([], found) = ([], found) := by
  induction n with
  | zero => rfl
  | succ n ih => exact ih

/--
A walk with a stack comes to an end after as many visits as there are nodes on the stack and below,
and has then found the items of all of them.
-/
theorem visits (h : t.Shaped ps) {stack : List Nat} (hstack : ∀ i ∈ stack, i < ps.length) {n : Nat}
    (hn : (pending ps stack).length ≤ n) (found : List α) :
    (t.visits n (stack, found)).1 = [] ∧
      (t.visits n (stack, found)).2.Perm
        (found ++ (pending ps stack).flatMap fun i => (t.node i).items) := by
  induction n generalizing stack found with
  | zero =>
    cases stack with
    | nil => exact ⟨rfl, by simp [pending, Trie.visits]⟩
    | cons i stack =>
      have hi := List.getElem?_eq_getElem (hstack i List.mem_cons_self)
      have hmem : i ∈ pending ps (i :: stack) := by
        rw [pending, List.flatMap_cons, List.getD_eq_getElem?_getD, hi, Option.getD_some]
        exact List.mem_append_left _ (mem_subtree.mpr ⟨_, hi, List.prefix_refl _⟩)
      exact absurd (List.length_pos_of_mem hmem) (Nat.not_lt.mpr hn)
  | succ n ih =>
    cases stack with
    | nil =>
      rw [visits_nil]
      exact ⟨rfl, by simp [pending]⟩
    | cons i stack =>
      have hi := List.getElem?_eq_getElem (hstack i List.mem_cons_self)
      have hperm : (pending ps (i :: stack)).Perm
          (i :: pending ps ((t.node i).children.values.reverse ++ stack)) := by
        rw [pending, List.flatMap_cons, List.getD_eq_getElem?_getD, hi, Option.getD_some, pending,
          List.flatMap_append, ← List.cons_append]
        exact (h.subtree_perm hi).append_right _
      have hnext : ∀ j ∈ (t.node i).children.values.reverse ++ stack, j < ps.length := by
        intro j hj
        rcases List.mem_append.mp hj with hj | hj
        · obtain ⟨e, he, rfl⟩ := List.mem_map.mp (List.mem_reverse.mp hj)
          exact (List.getElem?_eq_some_iff.mp (h.getElem?_of_mem_children hi he)).1
        · exact hstack j (List.mem_cons_of_mem i hj)
      have hlength := hperm.length_eq
      rw [List.length_cons] at hlength
      obtain ⟨hend, hfound⟩ := ih hnext (by omega) (found ++ (t.node i).items)
      refine ⟨hend, hfound.trans ?_⟩
      rw [List.append_assoc]
      exact (hperm.flatMap_right fun j => (t.node j).items).symm.append_left found

end Shaped

/-! ### Items by path -/

/-- A trie has nodes for all leading parts of some paths, and the items at the ends of the paths. -/
structure Lists (t : Trie α) (ps : List (List String)) (xs : List (List String × α)) : Prop where
  shaped : t.Shaped ps
  mem : ∀ q, q ∈ ps ↔ q = [] ∨ ∃ x ∈ xs, q <+: x.1
  items : ∀ {i q}, ps[i]? = some q → (t.node i).items = (xs.filter (·.1 = q)).map Prod.snd

namespace Lists

variable {t : Trie α} {ps : List (List String)} {xs : List (List String × α)}

/-- The trie without items. -/
protected theorem empty : (empty : Trie α).Lists [[]] [] where
  shaped := .empty
  mem q := by simp
  items := by
    intro i q hi
    cases i <;> rfl

/-- Insertion adds an item at the end of its path. -/
theorem insert (h : t.Lists ps xs) (path : List String) (a : α) :
    ∃ ps', (t.insert path a).Lists ps' (xs ++ [(path, a)]) := by
  obtain ⟨t', c, ps', hfold, hc, hgrown⟩ := h.shaped.foldl_descend h.shaped.root path
  have hlt := hgrown.shaped.lt_size hc
  have hinsert : t.insert path a = t'.modify c fun n => { n with items := n.items ++ [a] } := by
    simp only [Trie.insert, hfold]
  have hnode := t'.node_modify hlt fun n => { n with items := n.items ++ [a] }
  refine ⟨ps', hinsert ▸ hgrown.shaped.congr (t'.size_modify c _) (fun i => ?_) rfl,
    fun q => ?_, ?_⟩
  · rw [hnode]
    split
    · next heq => simp [heq]
    · exact ⟨rfl, rfl, rfl⟩
  · rw [hgrown.mem, h.mem, or_assoc]
    refine or_congr_right ?_
    simp [or_and_right, exists_or]
  · intro i q hi
    have hold : (t'.node i).items = (xs.filter (·.1 = q)).map Prod.snd := by
      rw [hgrown.items]
      by_cases hlt : i < ps.length
      · have hi' := List.getElem?_eq_getElem hlt
        rw [Option.some.inj (hi.symm.trans (hgrown.kept hi'))]
        exact h.items hi'
      · -- a new node had no items, and no item was there for its path
        have hnew : q ∉ ps := by
          intro hmem
          obtain ⟨j, hj⟩ := List.mem_iff_getElem?.mp hmem
          rw [← hgrown.shaped.place_inj (hgrown.kept hj) hi] at hlt
          exact hlt (List.getElem?_eq_some_iff.mp hj).1
        have hnone : xs.filter (·.1 = q) = [] := by
          refine List.filter_eq_nil_iff.mpr fun x hx heq => hnew ((h.mem q).mpr (.inr ⟨x, hx, ?_⟩))
          rw [of_decide_eq_true heq]
        rw [t.node_of_le (h.shaped.size ▸ Nat.le_of_not_lt hlt), hnone]
        rfl
    rw [hinsert, hnode, List.filter_append, List.map_append]
    by_cases hic : i = c
    · subst hic
      obtain rfl := Option.some.inj (hi.symm.trans hc)
      simp [hold]
    · have hne : path ≠ q := fun heq => hic (hgrown.shaped.place_inj hi (heq ▸ hc))
      simp [hic, hold, hne]

/-! ### Look-up -/

/-- The items at some nodes are those whose paths lead to one of these nodes. -/
theorem items_perm (h : t.Lists ps xs) {is : List Nat} (hnodup : is.Nodup)
    {P : List String → Prop} [DecidablePred P] (his : ∀ i, i ∈ is ↔ ∃ q, ps[i]? = some q ∧ P q) :
    (is.flatMap fun i => (t.node i).items).Perm ((xs.filter fun x => P x.1).map Prod.snd) := by
  have hpath : ∀ i ∈ is, ps[i]? = some (ps.getD i []) ∧ P (ps.getD i []) := by
    intro i hi
    obtain ⟨q, hq, hP⟩ := (his i).mp hi
    rw [List.getD_eq_getElem?_getD, hq, Option.getD_some]
    exact ⟨rfl, hP⟩
  have hitems : is.flatMap (fun i => (t.node i).items) =
      ((is.map (ps.getD · [])).flatMap fun q =>
        (xs.filter fun x => P x.1).filter (·.1 = q)).map Prod.snd := by
    rw [List.map_flatMap, List.flatMap_map]
    refine List.flatMap_congr fun i hi => ?_
    rw [h.items (hpath i hi).1, List.filter_filter]
    refine congrArg _ (List.filter_congr fun x _ => ?_)
    by_cases heq : x.1 = ps.getD i []
    · rw [heq, decide_eq_true rfl, decide_eq_true (hpath i hi).2]
      rfl
    · rw [decide_eq_false heq]
      rfl
  have hpaths : (is.map (ps.getD · [])).Nodup := by
    refine hnodup.map_on fun i hi j hj heq => ?_
    have hj' := (hpath j hj).1
    rw [← heq] at hj'
    exact h.shaped.place_inj (hpath i hi).1 hj'
  rw [hitems]
  refine (flatMap_filter_perm hpaths fun x hx => ?_).map _
  obtain ⟨hmem, hP⟩ := List.mem_filter.mp hx
  obtain ⟨i, hi⟩ := List.mem_iff_getElem?.mp ((h.mem x.1).mpr (.inr ⟨x, hmem, List.prefix_refl _⟩))
  refine List.mem_map.mpr ⟨i, (his i).mpr ⟨x.1, hi, of_decide_eq_true hP⟩, ?_⟩
  rw [List.getD_eq_getElem?_getD, hi, Option.getD_some]

/-- The items at the end of a path are those that were put there, in order. -/
theorem itemsAt (h : t.Lists ps xs) (path : List String) :
    t.itemsAt path = (xs.filter (·.1 = path)).map Prod.snd := by
  rw [Trie.itemsAt]
  cases hfind : t.find? path with
  | some i => exact h.items ((h.shaped.find?_eq_some_iff path i).mp hfind)
  | none =>
    have hnone : xs.filter (·.1 = path) = [] := by
      refine List.filter_eq_nil_iff.mpr fun x hx heq => ?_
      obtain ⟨i, hi⟩ := List.mem_iff_getElem?.mp
        ((h.mem x.1).mpr (.inr ⟨x, hx, List.prefix_refl _⟩))
      rw [of_decide_eq_true heq] at hi
      rw [(h.shaped.find?_eq_some_iff path i).mpr hi] at hfind
      cases hfind
    rw [hnone]
    rfl

/-- The walk below a path comes to an end. -/
theorem visits_size (h : t.Lists ps xs) {path : List String} {i : Nat}
    (hi : t.find? path = some i) :
    (t.visits t.size ([i], [])).1 = [] ∧
      (t.visits t.size ([i], [])).2.Perm
        ((subtree ps path).flatMap fun i => (t.node i).items) := by
  have hplace := (h.shaped.find?_eq_some_iff path i).mp hi
  have hpending : pending ps [i] = subtree ps path := by
    rw [pending, List.flatMap_singleton, List.getD_eq_getElem?_getD, hplace, Option.getD_some]
  have hlength : (pending ps [i]).length ≤ t.size := by
    rw [hpending, h.shaped.size]
    exact (List.length_filter_le _ _).trans (Nat.le_of_eq List.length_range)
  have hwalk := h.shaped.visits (fun j hj => List.mem_singleton.mp hj ▸
    (List.getElem?_eq_some_iff.mp hplace).1) hlength []
  rwa [hpending] at hwalk

/-- The items below a path are those whose paths go on from there. -/
theorem below_perm (h : t.Lists ps xs) (path : List String) :
    (t.below path).Perm ((xs.filter fun x => path <+: x.1).map Prod.snd) := by
  rw [below]
  cases hfind : t.find? path with
  | some i =>
    exact (h.visits_size hfind).2.trans (h.items_perm (nodup_subtree ps path) fun _ => mem_subtree)
  | none =>
    have hnone : xs.filter (fun x => path <+: x.1) = [] := by
      refine List.filter_eq_nil_iff.mpr fun x hx hpre => ?_
      obtain ⟨i, hi⟩ := List.mem_iff_getElem?.mp
        ((h.mem path).mpr (.inr ⟨x, hx, of_decide_eq_true hpre⟩))
      rw [(h.shaped.find?_eq_some_iff path i).mpr hi] at hfind
      cases hfind
    rw [hnone]
    exact .refl _

/-- The items found by trailing segments are those whose paths end with them. -/
theorem endingWith_perm (h : t.Lists ps xs) {segments : List String} (hne : segments ≠ []) :
    (t.endingWith segments).Perm ((xs.filter fun x => segments <:+ x.1).map Prod.snd) := by
  obtain ⟨last, above, hreverse⟩ :=
    List.exists_cons_of_ne_nil fun hnil => hne (List.reverse_eq_nil_iff.mp hnil)
  have hsegments : segments = above.reverse ++ [last] := by
    rw [← List.reverse_reverse segments, hreverse, List.reverse_cons]
  simp only [endingWith, hreverse]
  rw [h.shaped.bySegment]
  refine h.items_perm ((List.nodup_range.filter _).filter _) fun i => ?_
  rw [List.mem_filter, List.mem_filter, List.mem_range, decide_eq_true_iff, hsegments]
  constructor
  · rintro ⟨⟨-, hlast⟩, hclimbs⟩
    obtain ⟨q, hq, hlast⟩ := Option.bind_eq_some_iff.mp hlast
    exact ⟨q, hq, (h.shaped.climbs_parent_iff hq last above).mp ⟨hlast, hclimbs⟩⟩
  · rintro ⟨q, hq, hsuffix⟩
    obtain ⟨hlast, hclimbs⟩ := (h.shaped.climbs_parent_iff hq last above).mpr hsuffix
    refine ⟨⟨(List.getElem?_eq_some_iff.mp hq).1, ?_⟩, hclimbs⟩
    rw [hq, Option.bind_some, hlast]

/-- There is one node for the root, and one for every non-empty leading part of a path. -/
theorem size_eq (h : t.Lists ps xs) :
    t.size = 1 + ((xs.flatMap fun x => x.1.inits).filter (· ≠ [])).dedup.length := by
  have hperm : ps.Perm ([] :: ((xs.flatMap fun x => x.1.inits).filter (· ≠ [])).dedup) := by
    refine (List.perm_ext_iff_of_nodup h.shaped.nodup (List.nodup_cons.mpr
      ⟨by simp, List.nodup_dedup _⟩)).mpr fun q => ?_
    rw [h.mem, List.mem_cons, List.mem_dedup, List.mem_filter, List.mem_flatMap]
    by_cases hq : q = []
    · simp [hq]
    · simp [hq, List.mem_inits]
  rw [h.shaped.size, hperm.length_eq, List.length_cons, Nat.add_comm]

end Lists

end Trie

end CodeGraph
