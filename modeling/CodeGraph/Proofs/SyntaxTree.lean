import CodeGraph.Tree.Basic
import Mathlib.Data.List.Basic
import Mathlib.Data.List.Pairwise

/-!
# Ranges in a syntax tree

In a syntax tree the range of a child lies inside that of its parent, and siblings follow each other
without overlap. So of two nodes either one is an ancestor of the other, or their ranges are apart:
what covers the first byte of a node that is not empty is the node itself, an ancestor of it, or a
node below it that starts with it.

The table of a tree is read from rows in preorder. Each row names its parent, which stands before
it, and only the first row has none; the lists of children follow from this.

## Main definitions

* `SyntaxTree.Nested`: the table is a tree, and its ranges are nested and ordered.
* `SyntaxTree.Covers`: a byte lies in the range of a node.

## Main results

* `SyntaxTree.Nested.ancestors_eq_cons`: the ancestors of a node are its parent and those of that.
* `SyntaxTree.Nested.ancestors_of_append`: those behind an ancestor are its own.
* `SyntaxTree.Nested.comparable_or_apart`: two nodes are related, or their ranges are apart.
* `SyntaxTree.Nested.of_covers_start`: the nodes around the first byte of a node.
-/

namespace CodeGraph.SyntaxTree

variable (t : SyntaxTree)

/--
A table is a tree with nested and ordered ranges: parents stand before their children, only the
first node has no parent, all nodes are listed by their parents, the ranges of children lie inside
those of their parents, and each child ends before the next one starts.
-/
structure Nested : Prop where
  before : ∀ i < t.nodes.size, ∀ p ∈ t.parent? i, p < i
  rooted : ∀ i < t.nodes.size, t.parent? i = none → i = 0
  listed : ∀ i < t.nodes.size, ∀ p ∈ t.parent? i, i ∈ t.children p
  inside : ∀ i < t.nodes.size, ∀ p ∈ t.parent? i,
    (t.node p).start ≤ (t.node i).start ∧ (t.node i).stop ≤ (t.node p).stop
  ordered : ∀ p < t.nodes.size,
    (t.children p).Pairwise fun a b => (t.node a).stop ≤ (t.node b).start

/-- A byte lies in the range of a node. -/
def Covers (i byte : Nat) : Prop :=
  (t.node i).start ≤ byte ∧ byte < (t.node i).stop

/-- The ranges of two nodes are apart: one ends before the other starts. -/
def Apart (i j : Nat) : Prop :=
  (t.node i).stop ≤ (t.node j).start ∨ (t.node j).stop ≤ (t.node i).start

instance : Decidable t.Nested :=
  decidable_of_iff
    ((∀ i < t.nodes.size, ∀ p ∈ t.parent? i, p < i) ∧
      (∀ i < t.nodes.size, t.parent? i = none → i = 0) ∧
      (∀ i < t.nodes.size, ∀ p ∈ t.parent? i, i ∈ t.children p) ∧
      (∀ i < t.nodes.size, ∀ p ∈ t.parent? i,
        (t.node p).start ≤ (t.node i).start ∧ (t.node i).stop ≤ (t.node p).stop) ∧
      ∀ p < t.nodes.size,
        (t.children p).Pairwise fun a b => (t.node a).stop ≤ (t.node b).start)
    ⟨fun ⟨h₁, h₂, h₃, h₄, h₅⟩ => ⟨h₁, h₂, h₃, h₄, h₅⟩,
      fun ⟨h₁, h₂, h₃, h₄, h₅⟩ => ⟨h₁, h₂, h₃, h₄, h₅⟩⟩

variable {t}

theorem Apart.symm {i j : Nat} (h : t.Apart i j) : t.Apart j i :=
  Or.symm h

instance : Std.Symm t.Apart :=
  ⟨fun _ _ => Apart.symm⟩

/-- What has a parent is in the table. -/
theorem lt_size_of_parent? {i p : Nat} (h : t.parent? i = some p) : i < t.nodes.size := by
  by_contra hi
  have hnode : t.node i = default := by
    rw [node, Array.getD_eq_getD_getElem?, Array.getElem?_eq_none (by omega)]
    rfl
  rw [parent?, hnode] at h
  cases h

/-! ### Tables of rows -/

/-- Attaching nodes to their parents in a table lists them there, and changes nothing else. -/
theorem getElem?_foldr_attach (nodes : Array SyntaxNode) (is : List Nat) (k : Nat) :
    (is.foldr (fun i nodes => attach nodes i) nodes)[k]? = nodes[k]?.map fun n =>
      { n with children :=
          is.filter (fun i => nodes[i]?.bind SyntaxNode.parent = some k) ++ n.children } := by
  induction is generalizing k with
  | nil => simp
  | cons i is ih =>
    have hparent : (is.foldr (fun i nodes => attach nodes i) nodes)[i]?.bind SyntaxNode.parent =
        nodes[i]?.bind SyntaxNode.parent := by
      rw [ih i]
      cases nodes[i]? with
      | none => rfl
      | some n => rfl
    rw [List.foldr_cons, attach, hparent, List.filter_cons]
    cases nodes[i]?.bind SyntaxNode.parent with
    | none => simp [ih]
    | some p =>
      dsimp only
      rw [Array.getElem?_modify, ih k]
      by_cases hpk : p = k
      · cases nodes[k]? with
        | none => simp
        | some n => simp [hpk]
      · simp [hpk]

section Rows

variable {rows : List SyntaxNode} {hasError : Bool}

theorem size_ofRows : (ofRows rows hasError).nodes.size = rows.length := by
  have hsize : ∀ is : List Nat,
      (is.foldr (fun i nodes => attach nodes i) rows.toArray).size = rows.length := by
    intro is
    induction is with
    | nil => rfl
    | cons i is ih =>
      rw [List.foldr_cons, attach]
      split
      · rw [Array.size_modify, ih]
      · exact ih
  exact hsize (List.range rows.length)

/-- The nodes of a table of rows are the rows, each with the rows that name it for children. -/
theorem node_ofRows (h : ∀ row ∈ rows, row.children = []) {i : Nat} (hi : i < rows.length) :
    (ofRows rows hasError).node i =
      { rows[i] with children :=
          (List.range rows.length).filter fun c => rows[c]?.bind SyntaxNode.parent = some i } := by
  have hrow : rows[i].children = [] := h rows[i] (List.getElem_mem hi)
  rw [node, ofRows, Array.getD_eq_getD_getElem?, getElem?_foldr_attach]
  simp [hi, hrow]

end Rows

namespace Nested

variable (h : t.Nested)

include h

theorem lt_of_parent? {i p : Nat} (hp : t.parent? i = some p) : p < i :=
  h.before i (lt_size_of_parent? hp) p hp

/-! ### Ancestors -/

/-- Any bound that is not below a node leads to all its ancestors. -/
theorem ancestorsWithin_eq {fuel i : Nat} (hi : i ≤ fuel) :
    t.ancestorsWithin fuel i = t.ancestors i := by
  induction i using Nat.strongRecOn generalizing fuel with
  | ind i ih =>
    cases hp : t.parent? i with
    | none =>
      have hnone : ∀ fuel, t.ancestorsWithin fuel i = [] := by
        intro fuel
        cases fuel with
        | zero => rfl
        | succ fuel => rw [ancestorsWithin, hp]
      rw [ancestors, hnone, hnone]
    | some p =>
      have hlt := h.lt_of_parent? hp
      obtain ⟨n, rfl⟩ := Nat.exists_eq_succ_of_ne_zero (Nat.ne_of_gt (Nat.zero_lt_of_lt hlt))
      obtain ⟨m, rfl⟩ := Nat.exists_eq_succ_of_ne_zero
        (Nat.ne_of_gt (Nat.lt_of_lt_of_le n.succ_pos hi))
      rw [ancestors, ancestorsWithin, ancestorsWithin, hp]
      dsimp only
      rw [ih p hlt (by omega), ih p hlt (by omega)]

/-- The ancestors of a node are its parent and the ancestors of that. -/
theorem ancestors_eq_cons {i p : Nat} (hp : t.parent? i = some p) :
    t.ancestors i = p :: t.ancestors p := by
  have hlt := h.lt_of_parent? hp
  rw [← h.ancestorsWithin_eq (Nat.le_succ i), ancestorsWithin, hp]
  dsimp only
  rw [h.ancestorsWithin_eq (Nat.le_of_lt hlt)]

omit h in
/-- Without a parent there are no ancestors. -/
theorem ancestors_eq_nil {i : Nat} (hp : t.parent? i = none) : t.ancestors i = [] := by
  rw [ancestors]
  cases i with
  | zero => rfl
  | succ n => rw [ancestorsWithin, hp]

/-- The ancestors of a node are its parent and the ancestors of its parent. -/
theorem mem_ancestors_iff {a i : Nat} :
    a ∈ t.ancestors i ↔ ∃ p, t.parent? i = some p ∧ (a = p ∨ a ∈ t.ancestors p) := by
  cases hp : t.parent? i with
  | none =>
    rw [ancestors_eq_nil hp]
    simp
  | some p =>
    rw [h.ancestors_eq_cons hp, List.mem_cons]
    simp

/-- An ancestor stands before the node. -/
theorem lt_of_mem_ancestors {a i : Nat} (ha : a ∈ t.ancestors i) : a < i := by
  induction i using Nat.strongRecOn with
  | ind i ih =>
    obtain ⟨p, hp, hap⟩ := h.mem_ancestors_iff.mp ha
    have hlt := h.lt_of_parent? hp
    rcases hap with rfl | hap
    · exact hlt
    · exact Nat.lt_trans (ih p hlt hap) hlt

/-- The range of a node lies inside that of each ancestor. -/
theorem inside_of_mem_ancestors {a i : Nat} (ha : a ∈ t.ancestors i) :
    (t.node a).start ≤ (t.node i).start ∧ (t.node i).stop ≤ (t.node a).stop := by
  induction i using Nat.strongRecOn with
  | ind i ih =>
    obtain ⟨p, hp, hap⟩ := h.mem_ancestors_iff.mp ha
    obtain ⟨hstart, hstop⟩ := h.inside i (lt_size_of_parent? hp) p hp
    rcases hap with rfl | hap
    · exact ⟨hstart, hstop⟩
    · obtain ⟨hstart', hstop'⟩ := ih p (h.lt_of_parent? hp) hap
      exact ⟨Nat.le_trans hstart' hstart, Nat.le_trans hstop hstop'⟩

omit h in
/-- A node with ancestors has a parent. -/
theorem exists_parent?_of_ancestors_eq_cons {i a : Nat} {far : List Nat}
    (hi : t.ancestors i = a :: far) : ∃ p, t.parent? i = some p := by
  rw [← Option.ne_none_iff_exists']
  intro hp
  rw [ancestors_eq_nil hp] at hi
  cases hi

/-- What is listed behind an ancestor are the ancestors of it. -/
theorem ancestors_of_append {i a : Nat} {near far : List Nat}
    (hi : t.ancestors i = near ++ a :: far) : t.ancestors a = far := by
  induction near generalizing i with
  | nil =>
    rw [List.nil_append] at hi
    obtain ⟨p, hp⟩ := exists_parent?_of_ancestors_eq_cons hi
    rw [h.ancestors_eq_cons hp] at hi
    obtain ⟨rfl, hfar⟩ := List.cons.inj hi
    exact hfar
  | cons b near ih =>
    rw [List.cons_append] at hi
    obtain ⟨p, hp⟩ := exists_parent?_of_ancestors_eq_cons hi
    rw [h.ancestors_eq_cons hp] at hi
    exact ih (List.cons.inj hi).2

/-- An ancestor of a node is the parent of the node or of another ancestor. -/
theorem exists_child_of_mem_ancestors {a i : Nat} (ha : a ∈ t.ancestors i) :
    ∃ c, t.parent? c = some a ∧ (c = i ∨ c ∈ t.ancestors i) := by
  induction i using Nat.strongRecOn with
  | ind i ih =>
    obtain ⟨p, hp, hap⟩ := h.mem_ancestors_iff.mp ha
    rcases hap with rfl | hap
    · exact ⟨i, hp, .inl rfl⟩
    · obtain ⟨c, hc, hcp⟩ := ih p (h.lt_of_parent? hp) hap
      exact ⟨c, hc, .inr (h.mem_ancestors_iff.mpr ⟨p, hp, hcp⟩)⟩

/-! ### Ranges -/

/-- Two children of one node are apart. -/
theorem apart_of_parent?_eq {i j p : Nat} (hi : t.parent? i = some p) (hj : t.parent? j = some p)
    (hne : i ≠ j) : t.Apart i j := by
  have hp : p < t.nodes.size := Nat.lt_trans (h.lt_of_parent? hi) (lt_size_of_parent? hi)
  have hapart : (t.children p).Pairwise t.Apart := (h.ordered p hp).imp .inl
  exact hapart.forall (h.listed i (lt_size_of_parent? hi) p hi)
    (h.listed j (lt_size_of_parent? hj) p hj) hne

/-- What lies inside a range is apart from whatever the range is apart from. -/
theorem apart_of_inside {i j a : Nat} (hij : t.Apart i j) (ha : a = i ∨ i ∈ t.ancestors a) :
    t.Apart a j := by
  rcases ha with rfl | ha
  · exact hij
  · obtain ⟨hstart, hstop⟩ := h.inside_of_mem_ancestors ha
    unfold Apart at hij ⊢
    omega

/-- A node is an ancestor of a node behind it, or their ranges are apart. -/
theorem ancestor_or_apart {i j : Nat} (hj : j < t.nodes.size) (hij : i < j) :
    i ∈ t.ancestors j ∨ t.Apart i j := by
  -- The parent of the later node stands on one side of the other node or is that node.
  induction hn : i + j using Nat.strongRecOn generalizing i j with
  | ind n ih =>
    subst hn
    obtain ⟨p, hp⟩ : ∃ p, t.parent? j = some p := by
      rw [← Option.ne_none_iff_exists']
      intro hnone
      have := h.rooted j hj hnone
      omega
    have hpj := h.lt_of_parent? hp
    rcases Nat.lt_trichotomy i p with hlt | rfl | hgt
    · rcases ih (i + p) (by omega) (Nat.lt_trans hpj hj) hlt rfl with hmem | hapart
      · exact .inl (h.mem_ancestors_iff.mpr ⟨p, hp, .inr hmem⟩)
      · have hjp : p ∈ t.ancestors j := h.mem_ancestors_iff.mpr ⟨p, hp, .inl rfl⟩
        exact .inr (h.apart_of_inside hapart.symm (.inr hjp)).symm
    · exact .inl (h.mem_ancestors_iff.mpr ⟨i, hp, .inl rfl⟩)
    · have hi : i < t.nodes.size := Nat.lt_trans hij hj
      rcases ih (p + i) (by omega) hi hgt rfl with hmem | hapart
      · -- The earlier node is under another child of that parent, or is one.
        obtain ⟨q, hq, hqi⟩ := h.exists_child_of_mem_ancestors hmem
        have hqj : q ≠ j := by
          rintro rfl
          rcases hqi with rfl | hqi
          · omega
          · have := h.lt_of_mem_ancestors hqi
            omega
        exact .inr (h.apart_of_inside (h.apart_of_parent?_eq hq hp hqj) (hqi.imp_left Eq.symm))
      · have hjp : p ∈ t.ancestors j := h.mem_ancestors_iff.mpr ⟨p, hp, .inl rfl⟩
        exact .inr (h.apart_of_inside hapart (.inr hjp)).symm

/-- Two nodes of a tree are related, or their ranges are apart. -/
theorem comparable_or_apart {i j : Nat} (hi : i < t.nodes.size) (hj : j < t.nodes.size) :
    i = j ∨ i ∈ t.ancestors j ∨ j ∈ t.ancestors i ∨ t.Apart i j := by
  rcases Nat.lt_trichotomy i j with hij | heq | hji
  · rcases h.ancestor_or_apart hj hij with hmem | hapart
    · exact .inr (.inl hmem)
    · exact .inr (.inr (.inr hapart))
  · exact .inl heq
  · rcases h.ancestor_or_apart hi hji with hmem | hapart
    · exact .inr (.inr (.inl hmem))
    · exact .inr (.inr (.inr hapart.symm))

/-- What covers the first byte of a node that is not empty is the node, an ancestor, or below it. -/
theorem of_covers_start {i c : Nat} (hi : i < t.nodes.size) (hc : c < t.nodes.size)
    (hne : (t.node c).start < (t.node c).stop) (hcovers : t.Covers i (t.node c).start) :
    i = c ∨ i ∈ t.ancestors c ∨ c ∈ t.ancestors i ∧ (t.node i).start = (t.node c).start := by
  obtain ⟨hstart, hstop⟩ := hcovers
  rcases h.comparable_or_apart hi hc with heq | hmem | hmem | hapart
  · exact .inl heq
  · exact .inr (.inl hmem)
  · have hinside := (h.inside_of_mem_ancestors hmem).1
    exact .inr (.inr ⟨hmem, Nat.le_antisymm hstart hinside⟩)
  · unfold Apart at hapart
    omega

end Nested

end CodeGraph.SyntaxTree
