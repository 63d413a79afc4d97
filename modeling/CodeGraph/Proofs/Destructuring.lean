import CodeGraph.Extract.Naming
import CodeGraph.Proofs.Grammar
import Mathlib.Data.List.Nodup
import Mathlib.Logic.Relation

/-!
# Names that a pattern binds

A pattern binds names through its parts: a sequence or a rest element through all of them, a pair
through its value, a pattern with a default through its left side. What stands in the place of a
name may also be an expression, an attribute or an item that is assigned to. Such a place binds no
name, yet the identifiers in it are read like names. So the names that are read are those that the
pattern binds, in the order of the source, exactly if no expression in it shows an identifier.

## Main definitions

* `SourceTree.Opens`, `SourceTree.Reaches`: the parts through which a pattern binds names.
* `SourceTree.BindsIdentifier`: a pattern binds the identifier at a node.
* `SourceTree.Assigns`: a pattern assigns to an expression.
* `SourceTree.Exposes`: an identifier of an expression is read like a name.
* `SyntaxTree.Aside`: expressions, keys and default values.

## Main results

* `SourceTree.reaches_of_around`: what stands between a pattern and a place belongs to the pattern.
* `SourceTree.mem_patternNodes_iff`: which nodes are read as names.
* `SourceTree.pairwise_patternNodes`: names are read in the order of the source, each once.
* `SourceTree.patternNames_exact`: the names that are read against those that are bound.
-/

namespace CodeGraph

/-! ### Above and below -/

namespace SyntaxTree

variable {t : SyntaxTree} {i j a b c : Nat}

/-- A node stands above another one, or is that node. -/
def Around (t : SyntaxTree) (a j : Nat) : Prop :=
  a = j ∨ a ∈ t.ancestors j

/-- The number of nodes above a node. -/
def depth (t : SyntaxTree) (i : Nat) : Nat :=
  (t.ancestors i).length

/-- No node lists a child twice. -/
def ListedOnce (t : SyntaxTree) : Prop :=
  ∀ p < t.nodes.size, (t.children p).Nodup

/-- In a table of rows no child is listed twice. -/
theorem listedOnce_ofRows {rows : List SyntaxNode} {hasError : Bool}
    (h : ∀ row ∈ rows, row.children = []) : (ofRows rows hasError).ListedOnce := by
  intro p hp
  rw [size_ofRows] at hp
  rw [children, node_ofRows h hp]
  exact List.nodup_range.filter _

/-- What lists a child is in the table. -/
theorem lt_size_of_mem_children (h : c ∈ t.children i) : i < t.nodes.size := by
  by_contra hi
  rw [children, node, Array.getD_eq_getD_getElem?, Array.getElem?_eq_none (by omega)] at h
  cases h

theorem Linked.parent?_eq (h : t.Linked) (hc : c ∈ t.children i) : t.parent? c = some i :=
  h i (lt_size_of_mem_children hc) c hc

namespace Nested

variable (h : t.Nested)

include h

theorem depth_eq (hp : t.parent? c = some i) : t.depth c = t.depth i + 1 := by
  rw [depth, h.ancestors_eq_cons hp, List.length_cons, depth]

/-- What stands around a child is the child or stands around its parent. -/
theorem around_iff (hp : t.parent? c = some i) : t.Around a c ↔ a = c ∨ t.Around a i := by
  rw [Around, h.ancestors_eq_cons hp, List.mem_cons, Around]

theorem le_of_around (ha : t.Around a j) : a ≤ j := by
  rcases ha with rfl | ha
  · exact Nat.le_refl a
  · exact Nat.le_of_lt (h.lt_of_mem_ancestors ha)

/-- Of two nodes around a third one, one stands around the other. -/
theorem around_total (ha : t.Around a j) (hb : t.Around b j) : t.Around a b ∨ t.Around b a := by
  induction j using Nat.strongRecOn with
  | ind j ih =>
    rcases ha with rfl | ha
    · exact .inr hb
    rcases hb with rfl | hb
    · exact .inl (.inr ha)
    obtain ⟨p, hp, hap⟩ := h.mem_ancestors_iff.mp ha
    obtain ⟨p', hp', hbp⟩ := h.mem_ancestors_iff.mp hb
    obtain rfl : p = p' := Option.some.inj (hp.symm.trans hp')
    exact ih p (h.lt_of_parent? hp) hap hbp

/-- Nothing stands below two children of one node. -/
theorem not_around_of_parent?_eq (ha : t.parent? a = some i) (hb : t.parent? b = some i)
    (hne : a ≠ b) (haj : t.Around a j) : ¬t.Around b j := by
  have hnot : ∀ {x y : Nat}, t.parent? x = some i → t.parent? y = some i → x ≠ y →
      ¬t.Around x y := by
    intro x y hx hy hxy hxy'
    rcases (h.around_iff hy).mp hxy' with rfl | hxi
    · exact hxy rfl
    · have hlt := h.lt_of_parent? hx
      have hle := h.le_of_around hxi
      omega
  intro hbj
  rcases h.around_total haj hbj with hab | hba
  · exact hnot ha hb hne hab
  · exact hnot hb ha hne.symm hba

/-- The range of a node lies inside that of whatever stands around it. -/
theorem inside_of_around (ha : t.Around a j) :
    (t.node a).start ≤ (t.node j).start ∧ (t.node j).stop ≤ (t.node a).stop := by
  rcases ha with rfl | ha
  · exact ⟨Nat.le_refl _, Nat.le_refl _⟩
  · exact h.inside_of_mem_ancestors ha

end Nested

/-! ### Kinds of patterns -/

/-- Kinds of patterns that bind what all of their parts bind: sequences and rest elements. -/
def groupKinds : List String :=
  patternKinds ++ ["list_splat_pattern", "rest_pattern"]

/-- Kinds of patterns with a default value. -/
def defaultKinds : List String :=
  ["assignment_pattern", "object_assignment_pattern"]

/-- Kinds of expressions that can be assigned to, and of calls. -/
def placeKinds : List String :=
  ["attribute", "subscript", "call", "member_expression", "subscript_expression",
   "call_expression"]

/-- A node is such an expression, the key of a pair or a default value. -/
def Aside (t : SyntaxTree) (a : Nat) : Prop :=
  t.kind a ∈ placeKinds ∨ ∃ p, t.parent? a = some p ∧
    (t.kind p = "pair_pattern" ∧ (t.node a).field = some "key" ∨
      t.kind p ∈ defaultKinds ∧ (t.node a).field = some "right")

/-- A node is a pattern with parts. -/
def IsPattern (t : SyntaxTree) (i : Nat) : Prop :=
  t.kind i ∈ groupKinds ∨ t.kind i = "pair_pattern" ∨ t.kind i ∈ defaultKinds

instance (t : SyntaxTree) (i : Nat) : Decidable (t.IsPattern i) :=
  inferInstanceAs (Decidable (_ ∨ _ ∨ _))

end SyntaxTree

namespace SourceTree

open Relation (ReflTransGen)

variable {src : SourceTree} {fuel i j a c e : Nat}

/-! ### Parts of a pattern -/

/-- A pattern binds what a part of it binds. -/
inductive Opens (src : SourceTree) (i c : Nat) : Prop where
  | element (kind : src.tree.kind i ∈ SyntaxTree.groupKinds) (child : c ∈ src.tree.namedChildren i)
  | value (kind : src.tree.kind i = "pair_pattern")
      (child : src.tree.childByField? i "value" = some c)
  | left (kind : src.tree.kind i ∈ SyntaxTree.defaultKinds)
      (child : src.tree.childByField? i "left" = some c)

/-- A place of a pattern: the pattern itself, a part of it, a part of a part, and so on. -/
def Reaches (src : SourceTree) : Nat → Nat → Prop :=
  ReflTransGen src.Opens

/-- A pattern binds the identifier at a node. -/
def BindsIdentifier (src : SourceTree) (i j : Nat) : Prop :=
  src.Reaches i j ∧ src.isPatternName j = true

/-- A pattern assigns to what is neither an identifier nor a pattern. -/
def Assigns (src : SourceTree) (i e : Nat) : Prop :=
  src.Reaches i e ∧ src.isPatternName e = false ∧ ¬src.tree.IsPattern e

/-- Names are also looked for in a child, of pairs and defaults only in those that bind names. -/
def Descends (src : SourceTree) (i c : Nat) : Prop :=
  src.isPatternName i = false ∧ c ∈ src.patternParts i

/-- Where names are looked for. -/
def Visits (src : SourceTree) : Nat → Nat → Prop :=
  ReflTransGen src.Descends

/-- At a place where names are looked for, at a node or below it, there is an identifier. -/
def Exposes (src : SourceTree) (e j : Nat) : Prop :=
  src.Visits e j ∧ src.isPatternName j = true

/-- The parts that are looked at are children, in their order. -/
theorem patternParts_sublist (src : SourceTree) (i : Nat) :
    (src.patternParts i).Sublist (src.tree.children i) := by
  have hfield : ∀ field, (src.tree.childByField? i field).toList.Sublist (src.tree.children i) := by
    intro field
    refine List.Sublist.trans ?_ (List.filter_sublist (l := src.tree.children i)
      (p := fun c => (src.tree.node c).field = some field))
    rw [SyntaxTree.childByField?, SyntaxTree.childrenByField]
    cases (src.tree.children i).filter fun c => (src.tree.node c).field = some field with
    | nil => exact List.Sublist.refl _
    | cons c rest => exact List.singleton_sublist.mpr List.mem_cons_self
  unfold patternParts
  dsimp only
  split
  · exact hfield "value"
  · split
    · exact hfield "left"
    · exact List.filter_sublist

/-- A pattern is no identifier. -/
theorem isPatternName_eq_false (h : src.tree.IsPattern i) : src.isPatternName i = false := by
  rw [isPatternName, decide_eq_false_iff_not]
  intro hname
  simp only [List.mem_cons, List.not_mem_nil, or_false] at hname
  unfold SyntaxTree.IsPattern at h
  rcases hname with hname | hname <;> rw [hname] at h <;> revert h <;> decide

/-- The parts through which a pattern binds names are those that are looked at. -/
theorem opens_iff : src.Opens i c ↔ src.tree.IsPattern i ∧ c ∈ src.patternParts i := by
  -- the three sorts of patterns exclude each other
  have hgroup : src.tree.kind i ∈ SyntaxTree.groupKinds →
      src.patternParts i = src.tree.namedChildren i := by
    intro hkind
    have hother : ∀ kind ∈ SyntaxTree.groupKinds,
        kind ≠ "pair_pattern" ∧ kind ∉ SyntaxTree.defaultKinds := by decide
    obtain ⟨hpair, hdefault⟩ := hother _ hkind
    rw [patternParts, if_neg hpair]
    exact if_neg hdefault
  have hpair : src.tree.kind i = "pair_pattern" →
      src.patternParts i = (src.tree.childByField? i "value").toList := fun hkind => if_pos hkind
  have hdefault : src.tree.kind i ∈ SyntaxTree.defaultKinds →
      src.patternParts i = (src.tree.childByField? i "left").toList := by
    intro hkind
    have hother : ∀ kind ∈ SyntaxTree.defaultKinds, kind ≠ "pair_pattern" := by decide
    rw [patternParts, if_neg (hother _ hkind)]
    exact if_pos hkind
  constructor
  · rintro (⟨hkind, hchild⟩ | ⟨hkind, hchild⟩ | ⟨hkind, hchild⟩)
    · exact ⟨.inl hkind, hgroup hkind ▸ hchild⟩
    · exact ⟨.inr (.inl hkind), hpair hkind ▸ Option.mem_toList.mpr hchild⟩
    · exact ⟨.inr (.inr hkind), hdefault hkind ▸ Option.mem_toList.mpr hchild⟩
  · rintro ⟨hkind | hkind | hkind, hc⟩
    · exact .element hkind (hgroup hkind ▸ hc)
    · exact .value hkind (Option.mem_toList.mp (hpair hkind ▸ hc))
    · exact .left hkind (Option.mem_toList.mp (hdefault hkind ▸ hc))

theorem Opens.isPattern (h : src.Opens i c) : src.tree.IsPattern i :=
  (opens_iff.mp h).1

theorem Opens.descends (h : src.Opens i c) : src.Descends i c :=
  ⟨isPatternName_eq_false h.isPattern, (opens_iff.mp h).2⟩

/-- Names are looked for at a node itself, and in the children that it leads to. -/
theorem visits_iff : src.Visits i j ↔ i = j ∨ ∃ c, src.Descends i c ∧ src.Visits c j :=
  ReflTransGen.cases_head_iff

/-- What a pattern binds or assigns to is found by looking. -/
theorem Reaches.visits (h : src.Reaches i j) : src.Visits i j :=
  ReflTransGen.mono (fun _ _ hopens => Opens.descends hopens) _ _ h

/-- No pattern leads out of a set of places that holds the parts of all patterns in it. -/
theorem Reaches.mem_of_closed {places : List Nat} (h : src.Reaches i j) (hi : i ∈ places)
    (hclosed : ∀ x ∈ places, src.tree.IsPattern x → ∀ c ∈ src.patternParts x, c ∈ places) :
    j ∈ places := by
  induction h with
  | refl => exact hi
  | tail _ hopens ih => exact hclosed _ ih hopens.isPattern _ (opens_iff.mp hopens).2

/--
The identifiers that are found by looking are those that the pattern binds and those that the
expressions which it assigns to expose.
-/
theorem exposes_iff : src.Exposes i j ↔
    src.BindsIdentifier i j ∨ ∃ e, src.Assigns i e ∧ src.Exposes e j := by
  constructor
  · rintro ⟨hvisits, hname⟩
    induction hvisits using ReflTransGen.head_induction_on with
    | refl => exact .inl ⟨.refl, hname⟩
    | head hstep hrest ih =>
      next x c =>
      by_cases hpattern : src.tree.IsPattern x
      · have hopens : src.Opens x c := opens_iff.mpr ⟨hpattern, hstep.2⟩
        rcases ih with ⟨hreaches, -⟩ | ⟨e, ⟨hreaches, hplace⟩, hexposes⟩
        · exact .inl ⟨hreaches.head hopens, hname⟩
        · exact .inr ⟨e, ⟨hreaches.head hopens, hplace⟩, hexposes⟩
      · exact .inr ⟨x, ⟨.refl, hstep.1, hpattern⟩, hrest.head hstep, hname⟩
  · rintro (⟨hreaches, hname⟩ | ⟨e, ⟨hreaches, -⟩, hvisits, hname⟩)
    · exact ⟨hreaches.visits, hname⟩
    · exact ⟨hreaches.visits.trans hvisits, hname⟩

/-! ### Nodes that are read as names -/

/-- The nodes behind the names that are read within a depth. -/
def patternNodesWithin (src : SourceTree) : (fuel : Nat) → Nat → List Nat
  | 0, _ => []
  | fuel + 1, i =>
    if src.isPatternName i then [i] else (src.patternParts i).flatMap (patternNodesWithin src fuel)

/-- The nodes behind the names that are read. -/
def patternNodes (src : SourceTree) (i : Nat) : List Nat :=
  src.patternNodesWithin src.tree.nodes.size i

theorem patternNamesWithin_eq (src : SourceTree) (fuel i : Nat) :
    src.patternNamesWithin fuel i = (src.patternNodesWithin fuel i).map src.text := by
  induction fuel generalizing i with
  | zero => rfl
  | succ fuel ih =>
    rw [patternNamesWithin, patternNodesWithin]
    split
    · rfl
    · rw [List.map_flatMap]
      exact List.flatMap_congr fun c _ => ih c

/-- A part that is looked at is a child. -/
theorem parent?_of_mem_patternParts (hlinked : src.tree.Linked) (hc : c ∈ src.patternParts i) :
    src.tree.parent? c = some i :=
  hlinked.parent?_eq ((src.patternParts_sublist i).mem hc)

theorem Opens.parent? (hlinked : src.tree.Linked) (h : src.Opens i c) :
    src.tree.parent? c = some i :=
  parent?_of_mem_patternParts hlinked h.descends.2

section Tree

variable (ht : src.tree.Nested) (hlinked : src.tree.Linked)

include ht hlinked

/-- Looking for names leads downwards. -/
theorem Visits.around (h : src.Visits i j) : src.tree.Around i j := by
  induction h with
  | refl => exact .inl rfl
  | tail _ hstep ih =>
    exact (ht.around_iff (parent?_of_mem_patternParts hlinked hstep.2)).mpr (.inr ih)

/-- Enough fuel finds the identifiers that are found by looking. -/
theorem mem_patternNodesWithin_iff (hi : i < src.tree.nodes.size)
    (hfuel : src.tree.nodes.size ≤ fuel + i) :
    j ∈ src.patternNodesWithin fuel i ↔ src.Exposes i j := by
  induction fuel generalizing i with
  | zero => omega
  | succ fuel ih =>
    rw [patternNodesWithin, Exposes, visits_iff]
    by_cases hname : src.isPatternName i = true
    · rw [if_pos hname, List.mem_singleton]
      constructor
      · rintro rfl
        exact ⟨.inl rfl, hname⟩
      · rintro ⟨rfl | ⟨c, hstep, -⟩, -⟩
        · rfl
        · exact absurd (hstep.1.symm.trans hname) Bool.false_ne_true
    · rw [if_neg hname, List.mem_flatMap]
      have hpart : ∀ c ∈ src.patternParts i,
          (j ∈ src.patternNodesWithin fuel c ↔ src.Exposes c j) := by
        intro c hc
        have hparent := parent?_of_mem_patternParts hlinked hc
        have hlt := ht.lt_of_parent? hparent
        exact ih (SyntaxTree.lt_size_of_parent? hparent) (by omega)
      constructor
      · rintro ⟨c, hc, hj⟩
        obtain ⟨hvisits, hjname⟩ := (hpart c hc).mp hj
        exact ⟨.inr ⟨c, ⟨Bool.eq_false_iff.mpr hname, hc⟩, hvisits⟩, hjname⟩
      · rintro ⟨rfl | ⟨c, hstep, hvisits⟩, hjname⟩
        · exact absurd hjname hname
        · exact ⟨c, hstep.2, (hpart c hstep.2).mpr ⟨hvisits, hjname⟩⟩

/-- The nodes that are read as names are the identifiers that are found by looking. -/
theorem mem_patternNodes_iff (hi : i < src.tree.nodes.size) :
    j ∈ src.patternNodes i ↔ src.Exposes i j :=
  mem_patternNodesWithin_iff ht hlinked hi (Nat.le_add_right _ i)

/-- Names are read in the order of the source, and each node once. -/
theorem pairwise_patternNodesWithin (honce : src.tree.ListedOnce) (hi : i < src.tree.nodes.size)
    (hfuel : src.tree.nodes.size ≤ fuel + i) :
    (src.patternNodesWithin fuel i).Pairwise fun a b =>
      (src.tree.node a).stop ≤ (src.tree.node b).start ∧ a ≠ b := by
  induction fuel generalizing i with
  | zero => omega
  | succ fuel ih =>
    rw [patternNodesWithin]
    split
    · exact List.pairwise_singleton _ i
    have hparent : ∀ c ∈ src.patternParts i, src.tree.parent? c = some i ∧
        c < src.tree.nodes.size ∧ src.tree.nodes.size ≤ fuel + c := by
      intro c hc
      have hparent := parent?_of_mem_patternParts hlinked hc
      have hlt := ht.lt_of_parent? hparent
      exact ⟨hparent, SyntaxTree.lt_size_of_parent? hparent, by omega⟩
    have hchildren : (src.patternParts i).Pairwise fun c d =>
        (src.tree.node c).stop ≤ (src.tree.node d).start ∧ c ≠ d :=
      ((ht.ordered i hi).and (honce i hi)).sublist (src.patternParts_sublist i)
    refine List.pairwise_flatMap.mpr ⟨fun c hc => ?_, hchildren.imp_of_mem ?_⟩
    · obtain ⟨-, hsize, hmore⟩ := hparent c hc
      exact ih hsize hmore
    · -- what is read in two parts stands in these parts
      intro c d hc hd hcd a ha b hb
      obtain ⟨hpc, hsizec, hmorec⟩ := hparent c hc
      obtain ⟨hpd, hsized, hmored⟩ := hparent d hd
      have hca : src.tree.Around c a := Visits.around ht hlinked
        ((mem_patternNodesWithin_iff ht hlinked hsizec hmorec).mp ha).1
      have hdb : src.tree.Around d b := Visits.around ht hlinked
        ((mem_patternNodesWithin_iff ht hlinked hsized hmored).mp hb).1
      constructor
      · exact Nat.le_trans (ht.inside_of_around hca).2
          (Nat.le_trans hcd.1 (ht.inside_of_around hdb).1)
      · rintro rfl
        exact ht.not_around_of_parent?_eq hpc hpd hcd.2 hca hdb

theorem pairwise_patternNodes (honce : src.tree.ListedOnce) (hi : i < src.tree.nodes.size) :
    (src.patternNodes i).Pairwise fun a b =>
      (src.tree.node a).stop ≤ (src.tree.node b).start ∧ a ≠ b :=
  pairwise_patternNodesWithin ht hlinked honce hi (Nat.le_add_right _ i)

/-! ### Between a pattern and a place -/

/-- What stands between a pattern and a place of it belongs to the pattern. -/
theorem reaches_of_around (h : src.Reaches i j) (hia : src.tree.Around i a)
    (haj : src.tree.Around a j) : src.Reaches a j := by
  induction h with
  | refl =>
    obtain rfl : a = i := Nat.le_antisymm (ht.le_of_around haj) (ht.le_of_around hia)
    exact .refl
  | tail _ hopens ih =>
    rcases (ht.around_iff (hopens.parent? hlinked)).mp haj with rfl | hab
    · exact .refl
    · exact (ih hab).tail hopens

/-- What stands below a pattern and around a place of it is a part of a pattern. -/
theorem exists_opens_of_around (h : src.Reaches i j) (hia : i ∈ src.tree.ancestors a)
    (haj : src.tree.Around a j) : ∃ p, src.Opens p a := by
  induction h with
  | refl =>
    have hlt := ht.lt_of_mem_ancestors hia
    have hle := ht.le_of_around haj
    omega
  | tail _ hopens ih =>
    rcases (ht.around_iff (hopens.parent? hlinked)).mp haj with rfl | hab
    · exact ⟨_, hopens⟩
    · exact ih hab

omit ht hlinked in
/-- An expression that can be assigned to is neither an identifier nor a pattern. -/
theorem not_isPattern_of_mem_placeKinds (h : src.tree.kind a ∈ SyntaxTree.placeKinds) :
    src.isPatternName a = false ∧ ¬src.tree.IsPattern a := by
  have hkinds : ∀ kind ∈ SyntaxTree.placeKinds,
      kind ∉ ["identifier", "shorthand_property_identifier_pattern"] ∧
      ¬(kind ∈ SyntaxTree.groupKinds ∨ kind = "pair_pattern" ∨
        kind ∈ SyntaxTree.defaultKinds) := by
    decide
  obtain ⟨hname, hpattern⟩ := hkinds _ h
  exact ⟨decide_eq_false hname, hpattern⟩

omit ht hlinked in
/-- The part through which a pattern binds names is neither a key nor a default value. -/
theorem Opens.field_ne (h : src.Opens i c) :
    ¬(src.tree.kind i = "pair_pattern" ∧ (src.tree.node c).field = some "key" ∨
      src.tree.kind i ∈ SyntaxTree.defaultKinds ∧ (src.tree.node c).field = some "right") := by
  have hgroup : ∀ kind ∈ SyntaxTree.groupKinds,
      kind ≠ "pair_pattern" ∧ kind ∉ SyntaxTree.defaultKinds := by decide
  have hpair : "pair_pattern" ∉ SyntaxTree.defaultKinds := by decide
  rcases h with ⟨hkind, -⟩ | ⟨hkind, hchild⟩ | ⟨hkind, hchild⟩
  · obtain ⟨hne, hnotMem⟩ := hgroup _ hkind
    rintro (⟨heq, -⟩ | ⟨hmem, -⟩)
    · exact hne heq
    · exact hnotMem hmem
  · have hfield := (SyntaxTree.mem_of_childByField? hchild).2
    rintro (⟨-, hkey⟩ | ⟨hmem, -⟩)
    · exact absurd (hfield.symm.trans hkey) (by decide)
    · exact hpair (hkind ▸ hmem)
  · have hfield := (SyntaxTree.mem_of_childByField? hchild).2
    rintro (⟨heq, -⟩ | ⟨-, hright⟩)
    · exact hpair (heq ▸ hkind)
    · exact absurd (hfield.symm.trans hright) (by decide)

omit ht hlinked in
/-- A place of a pattern that is no pattern itself is the last one. -/
theorem Reaches.eq_of_not_isPattern (h : src.Reaches a j) (ha : ¬src.tree.IsPattern a) :
    a = j := by
  rcases ReflTransGen.cases_head_iff.mp h with heq | ⟨c, hopens, -⟩
  · exact heq
  · exact absurd hopens.isPattern ha

/-- An identifier that a pattern binds stands in no expression, key or default value of it. -/
theorem BindsIdentifier.not_around_aside (h : src.BindsIdentifier i j)
    (hia : i ∈ src.tree.ancestors a) (haside : src.tree.Aside a) : ¬src.tree.Around a j := by
  intro haj
  rcases haside with hplace | ⟨p, hp, hrole⟩
  · obtain ⟨hname, hpattern⟩ := not_isPattern_of_mem_placeKinds hplace
    obtain rfl := (reaches_of_around ht hlinked h.1 (.inr hia) haj).eq_of_not_isPattern hpattern
    exact Bool.false_ne_true (hname.symm.trans h.2)
  · obtain ⟨p', hopens⟩ := exists_opens_of_around ht hlinked h.1 hia haj
    obtain rfl : p = p' := Option.some.inj (hp.symm.trans (hopens.parent? hlinked))
    exact hopens.field_ne hrole

/-- What an expression exposes is not bound. -/
theorem Assigns.not_binds (h : src.Assigns i e) (hexposes : src.Exposes e j) :
    ¬src.BindsIdentifier i j := by
  intro hbinds
  obtain ⟨hreaches, hname, hpattern⟩ := h
  have hie := Visits.around ht hlinked hreaches.visits
  have hej := Visits.around ht hlinked hexposes.1
  obtain rfl := (reaches_of_around ht hlinked hbinds.1 hie hej).eq_of_not_isPattern hpattern
  exact Bool.false_ne_true (hname.symm.trans hbinds.2)

/-- Names are looked for within a depth exactly if all looking stays above it. -/
theorem patternFits_iff {limit : Nat} : src.patternFits limit i = true ↔
    ∀ j, src.Visits i j → src.tree.depth j < src.tree.depth i + limit := by
  induction limit generalizing i with
  | zero =>
    refine ⟨fun h => (Bool.false_ne_true h).elim, fun h => ?_⟩
    exact absurd (h i .refl) (Nat.lt_irrefl _)
  | succ limit ih =>
    rw [patternFits, Bool.or_eq_true, List.all_eq_true]
    by_cases hname : src.isPatternName i = true
    · refine ⟨fun _ j hj => ?_, fun _ => .inl hname⟩
      rcases visits_iff.mp hj with rfl | ⟨c, hstep, -⟩
      · omega
      · exact absurd (hstep.1.symm.trans hname) Bool.false_ne_true
    · have hdepth : ∀ c ∈ src.patternParts i, src.tree.depth c = src.tree.depth i + 1 :=
        fun c hc => ht.depth_eq (parent?_of_mem_patternParts hlinked hc)
      constructor
      · rintro (h | h) j hj
        · exact absurd h hname
        · rcases visits_iff.mp hj with rfl | ⟨c, hstep, hcj⟩
          · omega
          · have hlt := ih.mp (h c hstep.2) j hcj
            rw [hdepth c hstep.2] at hlt
            omega
      · intro h
        refine .inr fun c hc => ih.mpr fun j hj => ?_
        have hlt := h j (visits_iff.mpr (.inr ⟨c, ⟨Bool.eq_false_iff.mpr hname, hc⟩, hj⟩))
        rw [hdepth c hc]
        omega

end Tree

/--
Take a node of a tree with nested ranges and linked children, each listed once. The identifiers that
it binds as a pattern stand in none of its expressions, keys and default values. The names that are
read are their texts, in the order of the source, among the texts of the identifiers that its
expressions expose; so they are the bound names exactly if no expression exposes one. They can be
read if no place that is looked at is too deep below the pattern.
-/
theorem patternNames_exact (ht : src.tree.Nested) (hlinked : src.tree.Linked)
    (honce : src.tree.ListedOnce) (hi : i < src.tree.nodes.size) :
    (∃ bound read : List Nat,
      src.patternNames i = read.map src.text ∧
      read.Pairwise (fun a b => (src.tree.node a).stop ≤ (src.tree.node b).start ∧ a ≠ b) ∧
      bound.Sublist read ∧
      (∀ j, j ∈ bound ↔ src.BindsIdentifier i j) ∧
      (∀ j, j ∈ read ↔ src.BindsIdentifier i j ∨ ∃ e, src.Assigns i e ∧ src.Exposes e j) ∧
      (∀ j ∈ bound, ∀ a, i ∈ src.tree.ancestors a → src.tree.Aside a →
        ¬src.tree.Around a j) ∧
      (src.patternNames i = bound.map src.text ↔
        ∀ e, src.Assigns i e → ∀ j, ¬src.Exposes e j)) ∧
    (src.patternFits maxPatternDepth i = true ↔
      ∀ j, src.Visits i j → src.tree.depth j < src.tree.depth i + maxPatternDepth) := by
  classical
  refine ⟨?_, patternFits_iff ht hlinked⟩
  have hread : ∀ j, j ∈ src.patternNodes i ↔
      src.BindsIdentifier i j ∨ ∃ e, src.Assigns i e ∧ src.Exposes e j := fun j =>
    (mem_patternNodes_iff ht hlinked hi).trans exposes_iff
  have hbound : ∀ j, j ∈ (src.patternNodes i).filter (src.BindsIdentifier i ·) ↔
      src.BindsIdentifier i j := by
    intro j
    rw [List.mem_filter, decide_eq_true_eq, hread]
    exact ⟨And.right, fun h => ⟨.inl h, h⟩⟩
  have hsublist := List.filter_sublist (l := src.patternNodes i)
    (p := fun j => src.BindsIdentifier i j)
  have hnames : src.patternNames i = (src.patternNodes i).map src.text :=
    src.patternNamesWithin_eq src.tree.nodes.size i
  refine ⟨_, _, hnames, pairwise_patternNodes ht hlinked honce hi, hsublist, hbound, hread,
    fun j hj a hia haside => ((hbound j).mp hj).not_around_aside ht hlinked hia haside, ?_⟩
  constructor
  · intro hsame e hassigns j hexposes
    have hlength := congrArg List.length (hnames.symm.trans hsame)
    rw [List.length_map, List.length_map] at hlength
    have hall := hsublist.eq_of_length hlength.symm
    have hj : j ∈ src.patternNodes i := (hread j).mpr (.inr ⟨e, hassigns, hexposes⟩)
    rw [← hall] at hj
    exact hassigns.not_binds ht hlinked hexposes ((hbound j).mp hj)
  · intro hnone
    rw [hnames, List.filter_eq_self.mpr]
    intro j hj
    rcases (hread j).mp hj with hbinds | ⟨e, hassigns, hexposes⟩
    · exact decide_eq_true hbinds
    · exact absurd hexposes (hnone e hassigns j)

end SourceTree

/-! ### A pair with a computed key and a default, and a rest element -/

namespace ComputedKey

/-- Three identifiers stand in a key, in a default value and behind the pattern. -/
def source : String :=
  "const \x7b [k]: x = f, ...d \x7d = e;"

/-- Its syntax tree. -/
def tree : SyntaxTree := .ofRows
  [⟨"program", true, none, 0, 31, none, []⟩,
   ⟨"lexical_declaration", true, none, 0, 31, some 0, []⟩,
   ⟨"const", false, some "kind", 0, 5, some 1, []⟩,
   ⟨"variable_declarator", true, none, 6, 30, some 1, []⟩,
   ⟨"object_pattern", true, some "name", 6, 26, some 3, []⟩,
   ⟨"\x7b", false, none, 6, 7, some 4, []⟩,
   ⟨"pair_pattern", true, none, 8, 18, some 4, []⟩,
   ⟨"computed_property_name", true, some "key", 8, 11, some 6, []⟩,
   ⟨"[", false, none, 8, 9, some 7, []⟩,
   ⟨"identifier", true, none, 9, 10, some 7, []⟩,
   ⟨"]", false, none, 10, 11, some 7, []⟩,
   ⟨":", false, none, 11, 12, some 6, []⟩,
   ⟨"assignment_pattern", true, some "value", 13, 18, some 6, []⟩,
   ⟨"identifier", true, some "left", 13, 14, some 12, []⟩,
   ⟨"=", false, none, 15, 16, some 12, []⟩,
   ⟨"identifier", true, some "right", 17, 18, some 12, []⟩,
   ⟨",", false, none, 18, 19, some 4, []⟩,
   ⟨"rest_pattern", true, none, 20, 24, some 4, []⟩,
   ⟨"...", false, none, 20, 23, some 17, []⟩,
   ⟨"identifier", true, none, 23, 24, some 17, []⟩,
   ⟨"\x7d", false, none, 25, 26, some 4, []⟩,
   ⟨"=", false, none, 27, 28, some 3, []⟩,
   ⟨"identifier", true, some "value", 29, 30, some 3, []⟩,
   ⟨";", false, none, 30, 31, some 1, []⟩] false

/-- The tree with its text. -/
def src : SourceTree :=
  ⟨tree, source.toUTF8⟩

/-- The places of the pattern. -/
def places : List Nat :=
  [4, 6, 12, 13, 17, 19]

set_option maxRecDepth 2000 in
/-- The ranges are nested, the places are patterns and identifiers, and two names are read. -/
theorem facts :
    (src.tree.Nested ∧ 4 < src.tree.nodes.size) ∧
    (∀ x ∈ places, src.tree.IsPattern x → ∀ c ∈ src.patternParts x, c ∈ places) ∧
    (∀ x ∈ places, src.isPatternName x = true ∨ src.tree.IsPattern x) ∧
    (4 ∈ src.tree.ancestors 7 ∧ src.tree.parent? 7 = some 6 ∧
      src.tree.kind 6 = "pair_pattern" ∧ (src.tree.node 7).field = some "key" ∧
      7 ∈ src.tree.ancestors 9) ∧
    (4 ∈ src.tree.ancestors 15 ∧ src.tree.parent? 15 = some 12 ∧
      src.tree.kind 12 ∈ SyntaxTree.defaultKinds ∧ (src.tree.node 15).field = some "right") ∧
    src.patternNames 4 = ["x", "d"] := by
  decide

end ComputedKey

/-- The two names that the pattern binds are read, and neither the key nor the default is bound. -/
theorem SourceTree.patternNames_exact_computedKey :
    ∃ bound : List Nat, bound.map ComputedKey.src.text = ["x", "d"] ∧
      (∀ j, j ∈ bound ↔ ComputedKey.src.BindsIdentifier 4 j) ∧ 9 ∉ bound ∧ 15 ∉ bound := by
  obtain ⟨⟨hnested, hsize⟩, hclosed, hplaces, ⟨hkey, hkeyParent, hpair, hkeyField, hbelow⟩,
    ⟨hright, hrightParent, hdefault, hrightField⟩, hnames⟩ := ComputedKey.facts
  have hlinked : ComputedKey.src.tree.Linked := SyntaxTree.linked_ofRows (by decide)
  have honce : ComputedKey.src.tree.ListedOnce := SyntaxTree.listedOnce_ofRows (by decide)
  obtain ⟨⟨bound, read, -, -, -, hbound, -, haside, hexact⟩, -⟩ :=
    patternNames_exact hnested hlinked honce hsize
  have hnone : ∀ e, ComputedKey.src.Assigns 4 e → ∀ j, ¬ComputedKey.src.Exposes e j := by
    rintro e ⟨hreaches, hname, hpattern⟩
    rcases hplaces e (hreaches.mem_of_closed (by decide) hclosed) with h | h
    · exact absurd (hname.symm.trans h) Bool.false_ne_true
    · exact absurd h hpattern
  refine ⟨bound, (hexact.mpr hnone).symm.trans hnames, hbound, fun h => ?_, fun h => ?_⟩
  · exact haside 9 h 7 hkey (.inr ⟨6, hkeyParent, .inl ⟨hpair, hkeyField⟩⟩) (.inr hbelow)
  · exact haside 15 h 15 hright (.inr ⟨12, hrightParent, .inr ⟨hdefault, hrightField⟩⟩) (.inl rfl)

/-! ### An assignment to an attribute and a name -/

namespace AttributeTarget

/-- An attribute is assigned to, and a name is bound. -/
def source : String :=
  "a.b, c = 1, 2"

/-- Its syntax tree. -/
def tree : SyntaxTree := .ofRows
  [⟨"module", true, none, 0, 13, none, []⟩,
   ⟨"expression_statement", true, none, 0, 13, some 0, []⟩,
   ⟨"assignment", true, none, 0, 13, some 1, []⟩,
   ⟨"pattern_list", true, some "left", 0, 6, some 2, []⟩,
   ⟨"attribute", true, none, 0, 3, some 3, []⟩,
   ⟨"identifier", true, some "object", 0, 1, some 4, []⟩,
   ⟨".", false, none, 1, 2, some 4, []⟩,
   ⟨"identifier", true, some "attribute", 2, 3, some 4, []⟩,
   ⟨",", false, none, 3, 4, some 3, []⟩,
   ⟨"identifier", true, none, 5, 6, some 3, []⟩,
   ⟨"=", false, none, 7, 8, some 2, []⟩,
   ⟨"expression_list", true, some "right", 9, 13, some 2, []⟩,
   ⟨"integer", true, none, 9, 10, some 11, []⟩,
   ⟨",", false, none, 10, 11, some 11, []⟩,
   ⟨"integer", true, none, 12, 13, some 11, []⟩] false

/-- The tree with its text. -/
def src : SourceTree :=
  ⟨tree, source.toUTF8⟩

end AttributeTarget

/-- One name is bound and three are read: those in the attribute are read as well. -/
theorem SourceTree.attribute_read_as_names :
    AttributeTarget.src.patternNames 3 = ["a", "b", "c"] ∧
      (∀ j, AttributeTarget.src.BindsIdentifier 3 j ↔ j = 9) ∧
      AttributeTarget.src.text 9 = "c" := by
  refine ⟨by decide, fun j => ⟨fun ⟨hreaches, hname⟩ => ?_, ?_⟩, by decide⟩
  · have hclosed : ∀ x ∈ [3, 4, 9], AttributeTarget.src.tree.IsPattern x →
        ∀ c ∈ AttributeTarget.src.patternParts x, c ∈ [3, 4, 9] := by decide
    have hnames : ∀ x ∈ [3, 4, 9], AttributeTarget.src.isPatternName x = true → x = 9 := by
      decide
    exact hnames j (hreaches.mem_of_closed List.mem_cons_self hclosed) hname
  · rintro rfl
    have hopens : AttributeTarget.src.Opens 3 9 := .element (by decide) (by decide)
    exact ⟨.single hopens, by decide⟩

end CodeGraph
