import CodeGraph.Language.Queries
import CodeGraph.Proofs.Sorting
import Mathlib.Data.List.Basic
import Mathlib.Data.List.Infix
import Mathlib.Data.List.TakeWhile

/-!
# What a pattern captures

A pattern fits a node that it admits if its child patterns can be assigned to children of the node,
in order. Here this is turned into facts about the tree: which nodes are captured, of which kinds
they are, and in which fields they stand. The other way round, a pattern fits wherever the tree has
the nodes that it describes.

## Main definitions

* `SyntaxTree.Admits`: what a pattern asks of a node itself.
* `Pattern.Captures`: a pattern fits a node and captures some nodes there.
* `Pattern.nodeKinds`, `Query.nodeKinds`: the kinds of the nodes that are captured as entities.

## Main results

* `Pattern.captures_leaf_iff`, `Pattern.captures_one_iff`, `Pattern.captures_two_iff`: what is
  captured by a pattern with up to two child patterns.
* `Pattern.of_captures_ifPresent`: the same if the first of the two may be missing.
* `Query.exists_captures_of_mem_run`, `Query.exists_mem_run`: matches are what patterns capture.
* `Query.isEntity_of_mem_run`: captured entities are of the kinds of their query.
-/

namespace CodeGraph

/-- A node is named, and has the kind and the field that are asked for, if any. -/
structure SyntaxTree.Admits (t : SyntaxTree) (kind field : Option String) (i : Nat) : Prop where
  named : (t.node i).named = true
  kind : ∀ k ∈ kind, t.kind i = k
  field : ∀ f ∈ field, (t.node i).field = some f

namespace SyntaxTree

variable {t : SyntaxTree} {i : Nat} {kind field : String}

/-- A pattern may ask for a kind only. -/
theorem admits_kind_iff : t.Admits (some kind) none i ↔
    (t.node i).named = true ∧ t.kind i = kind := by
  refine ⟨fun h => ⟨h.named, h.kind kind rfl⟩, fun ⟨hnamed, hkind⟩ => ⟨hnamed, ?_, ?_⟩⟩
  · rintro k ⟨⟩
    exact hkind
  · rintro f ⟨⟩

/-- A pattern may ask for a field only. -/
theorem admits_field_iff : t.Admits none (some field) i ↔
    (t.node i).named = true ∧ (t.node i).field = some field := by
  refine ⟨fun h => ⟨h.named, h.field field rfl⟩, fun ⟨hnamed, hfield⟩ => ⟨hnamed, ?_, ?_⟩⟩
  · rintro k ⟨⟩
  · rintro f ⟨⟩
    exact hfield

/-- A pattern may ask for a kind and a field. -/
theorem admits_iff : t.Admits (some kind) (some field) i ↔
    (t.node i).named = true ∧ t.kind i = kind ∧ (t.node i).field = some field := by
  refine ⟨fun h => ⟨h.named, h.kind kind rfl, h.field field rfl⟩,
    fun ⟨hnamed, hkind, hfield⟩ => ⟨hnamed, ?_, ?_⟩⟩
  · rintro k ⟨⟩
    exact hkind
  · rintro f ⟨⟩
    exact hfield

end SyntaxTree

/-- A node of some kind is in the table. -/
theorem SyntaxTree.lt_size_of_named {t : SyntaxTree} {i : Nat} (h : (t.node i).named = true) :
    i < t.nodes.size := by
  by_contra hi
  have hnode : t.node i = default := by
    rw [node, Array.getD_eq_getD_getElem?, Array.getElem?_eq_none (by omega)]
    rfl
  rw [hnode] at h
  cases h

/-! ### Assignments -/

theorem mem_joinFits_iff {heads rest : List Fit} {f : Fit} :
    f ∈ joinFits heads rest ↔ ∃ h ∈ heads, ∃ g ∈ rest, h.merge g = f := by
  simp only [joinFits, List.mem_flatMap, List.mem_map]

/-- A child and what follows it. -/
theorem mem_tails_iff {c : Nat} {rest cs : List Nat} :
    (c, rest) ∈ tails cs ↔ c :: rest <:+ cs := by
  induction cs with
  | nil => simp [tails]
  | cons d cs ih =>
    rw [tails, List.mem_cons, ih, List.suffix_cons_iff, Prod.mk.injEq, List.cons.injEq]

/-- A matcher that must fit takes a child, and the others take children behind it. -/
theorem mem_assign_required {m : ChildMatcher} (hm : m.optional = false) {ms : List ChildMatcher}
    {cs : List Nat} {f : Fit} :
    f ∈ assign (m :: ms) cs ↔ ∃ c rest, c :: rest <:+ cs ∧
      ∃ h ∈ m.fits c, ∃ g ∈ assign ms rest, h.merge g = f := by
  rw [assign, hm, if_neg Bool.false_ne_true]
  simp only [List.mem_flatMap, Prod.exists, mem_tails_iff, mem_joinFits_iff]

/-- The last matcher that must fit takes any child. -/
theorem mem_assign_last {m : ChildMatcher} (hm : m.optional = false) {cs : List Nat} {f : Fit} :
    f ∈ assign [m] cs ↔ ∃ c ∈ cs, ∃ h ∈ m.fits c, h.merge { last := 0 } = f := by
  rw [mem_assign_required hm]
  constructor
  · rintro ⟨c, rest, hsuffix, h, hh, g, hg, rfl⟩
    obtain rfl := List.mem_singleton.mp hg
    exact ⟨c, hsuffix.mem List.mem_cons_self, h, hh, rfl⟩
  · rintro ⟨c, hc, h, hh, rfl⟩
    obtain ⟨before, rest, rfl⟩ := List.append_of_mem hc
    exact ⟨c, rest, List.suffix_append before _, h, hh, _, List.mem_singleton_self _, rfl⟩

/-- A matcher takes a child, and the others take children behind it, or it may be left out. -/
theorem mem_assign_cases {m : ChildMatcher} {ms : List ChildMatcher} {cs : List Nat} {f : Fit}
    (hf : f ∈ assign (m :: ms) cs) :
    (∃ c rest, c :: rest <:+ cs ∧ ∃ h ∈ m.fits c, ∃ g ∈ assign ms rest, h.merge g = f) ∨
      (m.optional = true ∧ (∀ c ∈ cs, m.fits c = []) ∧ f ∈ assign ms cs) := by
  cases hm : m.optional with
  | false => exact .inl ((mem_assign_required hm).mp hf)
  | true =>
    rw [assign, if_pos hm] at hf
    have hsuffix := List.dropWhile_suffix (l := cs) fun c => (m.fits c).isEmpty
    split at hf
    · next c rest hdrop =>
      obtain ⟨h, hh, g, hg, rfl⟩ := mem_joinFits_iff.mp hf
      exact .inl ⟨c, rest, hdrop ▸ hsuffix, h, hh, g, hg, rfl⟩
    · next hdrop =>
      refine .inr ⟨rfl, fun c hc => ?_, hf⟩
      simpa using List.dropWhile_eq_nil_iff.mp hdrop c hc

namespace Pattern

variable {t : SyntaxTree}

/-- A pattern fits a node that it admits, in each way to assign the patterns of its children. -/
theorem mem_fits_iff {kind field capture : Option String} {optional : Bool}
    {children : List Pattern} {i : Nat} {f : Fit} :
    f ∈ fits t (mk kind field optional capture children) i ↔
      t.Admits kind field i ∧ ∃ g ∈ assign (matchers t children) (t.children i),
        (⟨i, (capture.map fun name => (name, i)).toList⟩ : Fit).merge g = f := by
  have hadmits : ((t.node i).named && (kind.isNone || kind = some (t.node i).kind) &&
      (field.isNone || field = (t.node i).field) : Bool) = true ↔ t.Admits kind field i := by
    simp only [Bool.and_eq_true, Bool.or_eq_true, Option.isNone_iff_eq_none, decide_eq_true_eq]
    constructor
    · rintro ⟨⟨hnamed, hkind⟩, hfield⟩
      refine ⟨hnamed, fun k hk => ?_, fun name hname => ?_⟩
      · rcases hkind with rfl | rfl
        · cases hk
        · exact Option.some.inj hk
      · rcases hfield with rfl | rfl
        · cases hname
        · exact hname
    · rintro ⟨hnamed, hkind, hfield⟩
      refine ⟨⟨hnamed, ?_⟩, ?_⟩
      · cases kind with
        | none => exact .inl rfl
        | some k => exact .inr (congrArg some (hkind k rfl).symm)
      · cases field with
        | none => exact .inl rfl
        | some name => exact .inr (hfield name rfl).symm
  simp only [fits]
  by_cases h : t.Admits kind field i
  · rw [if_pos (hadmits.mpr h), List.mem_map]
    exact (and_iff_right h).symm
  · rw [if_neg (mt hadmits.mp h)]
    exact iff_of_false List.not_mem_nil fun hf => h hf.1

/-! ### Kinds of captured entities -/

mutual

/-- The kinds of the nodes that a pattern captures as entities. -/
def nodeKinds : Pattern → List (Option String)
  | mk kind _ _ capture children =>
    (if capture = some "node" then [kind] else []) ++ nodeKindsOf children

/-- The kinds of the nodes that some patterns capture as entities. -/
def nodeKindsOf : List Pattern → List (Option String)
  | [] => []
  | mk kind field optional capture children :: rest =>
    nodeKinds (mk kind field optional capture children) ++ nodeKindsOf rest

end

/-- A captured entity is named and of one of the kinds, unless a pattern asks for no kind. -/
def IsEntity (t : SyntaxTree) (kinds : List (Option String)) (j : Nat) : Prop :=
  (t.node j).named = true ∧ (some (t.kind j) ∈ kinds ∨ none ∈ kinds)

theorem IsEntity.mono {kinds kinds' : List (Option String)} {j : Nat} (h : IsEntity t kinds j)
    (hsub : ∀ k ∈ kinds, k ∈ kinds') : IsEntity t kinds' j :=
  ⟨h.1, h.2.imp (hsub _) (hsub _)⟩

mutual

/-- What a pattern captures as entity is of one of its kinds. -/
theorem kind_mem_nodeKinds : ∀ (p : Pattern) {i j : Nat} {f : Fit}, f ∈ p.fits t i →
    ("node", j) ∈ f.captures → IsEntity t p.nodeKinds j
  | mk kind field optional capture children, i, j, f, hf, hj => by
    obtain ⟨hadmits, g, hg, rfl⟩ := mem_fits_iff.mp hf
    rw [nodeKinds]
    rcases List.mem_append.mp hj with hown | hbelow
    · obtain ⟨name, hcapture, hpair⟩ := Option.map_eq_some_iff.mp (Option.mem_toList.mp hown)
      obtain ⟨rfl, rfl⟩ := Prod.mk.inj hpair
      rw [if_pos hcapture]
      refine ⟨hadmits.named, ?_⟩
      cases kind with
      | none => exact .inr List.mem_cons_self
      | some k =>
        rw [hadmits.kind k rfl]
        exact .inl (List.mem_append_left _ List.mem_cons_self)
    · exact (kind_mem_nodeKindsOf children hg hbelow).mono fun k hk => List.mem_append_right _ hk

/-- What some patterns capture as entity is of one of their kinds. -/
theorem kind_mem_nodeKindsOf : ∀ (ps : List Pattern) {cs : List Nat} {j : Nat} {f : Fit},
    f ∈ assign (matchers t ps) cs → ("node", j) ∈ f.captures → IsEntity t (nodeKindsOf ps) j
  | [], cs, j, f, hf, hj => by
    rw [matchers, assign, List.mem_singleton] at hf
    rw [hf] at hj
    cases hj
  | mk kind field optional capture children :: rest, cs, j, f, hf, hj => by
    rw [matchers] at hf
    rw [nodeKindsOf]
    rcases mem_assign_cases hf with ⟨c, cs', -, h, hh, g, hg, rfl⟩ | ⟨-, -, hf⟩
    · rcases List.mem_append.mp hj with hfirst | hrest
      · exact (kind_mem_nodeKinds _ hh hfirst).mono fun k hk => List.mem_append_left _ hk
      · exact (kind_mem_nodeKindsOf rest hg hrest).mono fun k hk => List.mem_append_right _ hk
    · exact (kind_mem_nodeKindsOf rest hf hj).mono fun k hk => List.mem_append_right _ hk

end

/-! ### Captures -/

/-- A pattern fits a node, and some nodes are captured. -/
def Captures (t : SyntaxTree) (p : Pattern) (i : Nat) (captures : List (String × Nat)) : Prop :=
  ∃ f ∈ p.fits t i, f.captures = captures

section Shapes

variable {kind field capture : Option String} {optional : Bool} {i : Nat}
  {captures : List (String × Nat)}

/-- A node without required children is captured by itself. -/
theorem captures_leaf_iff : (mk kind field optional capture []).Captures t i captures ↔
    t.Admits kind field i ∧ (capture.map fun name => (name, i)).toList = captures := by
  simp only [Captures, mem_fits_iff, matchers, assign, List.mem_singleton]
  constructor
  · rintro ⟨_, ⟨hadmits, _, rfl, rfl⟩, rfl⟩
    exact ⟨hadmits, (List.append_nil _).symm⟩
  · rintro ⟨hadmits, rfl⟩
    exact ⟨_, ⟨hadmits, _, rfl, rfl⟩, List.append_nil _⟩

/-- A node with one required child is captured with what any child gives. -/
theorem captures_one_iff {kind' field' capture' : Option String} {children : List Pattern} :
    (mk kind field optional capture [mk kind' field' false capture' children]).Captures t i
        captures ↔
      t.Admits kind field i ∧ ∃ c ∈ t.children i, ∃ below,
        (mk kind' field' false capture' children).Captures t c below ∧
        (capture.map fun name => (name, i)).toList ++ below = captures := by
  constructor
  · rintro ⟨f, hf, rfl⟩
    obtain ⟨hadmits, g, hg, rfl⟩ := mem_fits_iff.mp hf
    obtain ⟨c, hc, h, hh, rfl⟩ := (mem_assign_last rfl).mp hg
    exact ⟨hadmits, c, hc, _, ⟨h, hh, rfl⟩, by simp [Fit.merge]⟩
  · rintro ⟨hadmits, c, hc, _, ⟨h, hh, rfl⟩, rfl⟩
    have hassign : h.merge { last := 0 } ∈
        assign (matchers t [mk kind' field' false capture' children]) (t.children i) :=
      (mem_assign_last rfl).mpr ⟨c, hc, h, hh, rfl⟩
    exact ⟨_, mem_fits_iff.mpr ⟨hadmits, _, hassign, rfl⟩, by simp [Fit.merge]⟩

/-- A node with two required children is captured with what two children in order give. -/
theorem captures_two_iff {kind' field' capture' : Option String} {children' : List Pattern}
    {kind'' field'' capture'' : Option String} {children'' : List Pattern} :
    (mk kind field optional capture [mk kind' field' false capture' children',
        mk kind'' field'' false capture'' children'']).Captures t i captures ↔
      t.Admits kind field i ∧ ∃ c rest, c :: rest <:+ t.children i ∧ ∃ d ∈ rest, ∃ below below',
        (mk kind' field' false capture' children').Captures t c below ∧
        (mk kind'' field'' false capture'' children'').Captures t d below' ∧
        (capture.map fun name => (name, i)).toList ++ (below ++ below') = captures := by
  constructor
  · rintro ⟨f, hf, rfl⟩
    obtain ⟨hadmits, g, hg, rfl⟩ := mem_fits_iff.mp hf
    obtain ⟨c, rest, hsuffix, h, hh, g', hg', rfl⟩ := (mem_assign_required rfl).mp hg
    obtain ⟨d, hd, h', hh', rfl⟩ := (mem_assign_last rfl).mp hg'
    exact ⟨hadmits, c, rest, hsuffix, d, hd, _, _, ⟨h, hh, rfl⟩, ⟨h', hh', rfl⟩,
      by simp [Fit.merge]⟩
  · rintro ⟨hadmits, c, rest, hsuffix, d, hd, _, _, ⟨h, hh, rfl⟩, ⟨h', hh', rfl⟩, rfl⟩
    have hlast : h'.merge { last := 0 } ∈
        assign (matchers t [mk kind'' field'' false capture'' children'']) rest :=
      (mem_assign_last rfl).mpr ⟨d, hd, h', hh', rfl⟩
    have hassign : h.merge (h'.merge { last := 0 }) ∈
        assign (matchers t [mk kind' field' false capture' children',
          mk kind'' field'' false capture'' children'']) (t.children i) :=
      (mem_assign_required rfl).mpr ⟨c, rest, hsuffix, h, hh, _, hlast, rfl⟩
    exact ⟨_, mem_fits_iff.mpr ⟨hadmits, _, hassign, rfl⟩, by simp [Fit.merge]⟩

/--
A node with an optional child and a required one is captured with what two children in order give,
or with what the required one gives if nothing is captured at the other.
-/
theorem of_captures_ifPresent {kind' field' capture' : Option String} {children' : List Pattern}
    {kind'' field'' capture'' : Option String} {children'' : List Pattern}
    (h : (mk kind field optional capture [mk kind' field' true capture' children',
        mk kind'' field'' false capture'' children'']).Captures t i captures) :
    t.Admits kind field i ∧ ∃ d ∈ t.children i, ∃ below,
      (mk kind'' field'' false capture'' children'').Captures t d below ∧
      ((∃ c ∈ t.children i, ∃ before,
          (mk kind' field' true capture' children').Captures t c before ∧
          (capture.map fun name => (name, i)).toList ++ (before ++ below) = captures) ∨
        (∀ c ∈ t.children i, ∀ before,
          ¬(mk kind' field' true capture' children').Captures t c before) ∧
          (capture.map fun name => (name, i)).toList ++ below = captures) := by
  obtain ⟨f, hf, rfl⟩ := h
  obtain ⟨hadmits, g, hg, rfl⟩ := mem_fits_iff.mp hf
  refine ⟨hadmits, ?_⟩
  rcases mem_assign_cases hg with ⟨c, rest, hsuffix, h, hh, g', hg', rfl⟩ | ⟨-, hnone, hg⟩
  · obtain ⟨d, hd, h', hh', rfl⟩ := (mem_assign_last rfl).mp hg'
    exact ⟨d, hsuffix.mem (List.mem_cons_of_mem c hd), _, ⟨h', hh', rfl⟩,
      .inl ⟨c, hsuffix.mem List.mem_cons_self, _, ⟨h, hh, rfl⟩, by simp [Fit.merge]⟩⟩
  · obtain ⟨d, hd, h', hh', rfl⟩ := (mem_assign_last rfl).mp hg
    refine ⟨d, hd, _, ⟨h', hh', rfl⟩, .inr ⟨?_, by simp [Fit.merge]⟩⟩
    rintro c hc before ⟨f, hf, -⟩
    have hempty := hnone c hc
    dsimp only at hempty
    rw [hempty] at hf
    cases hf

end Shapes

end Pattern

/-! ### Matches of a query -/

namespace Query

variable {q : Query} {src : SourceTree}

/-- The kinds of the nodes that a query captures as entities. -/
def nodeKinds (q : Query) : List (Option String) :=
  q.patterns.flatMap Pattern.nodeKinds

/-- What a match captures is captured by one of the patterns at some node. -/
theorem exists_captures_of_mem_run {m : Match} (h : m ∈ q.run src) :
    ∃ p ∈ q.patterns, ∃ i < src.tree.nodes.size, p.Captures src.tree i m.captures := by
  have hfound := (List.mem_filter.mp (Sorting.mem_sort.mp h)).1
  obtain ⟨⟨p, position⟩, hp, hfound⟩ := List.mem_flatMap.mp hfound
  obtain ⟨i, hi, hfound⟩ := List.mem_flatMap.mp hfound
  obtain ⟨f, hf, rfl⟩ := List.mem_map.mp hfound
  exact ⟨p, List.fst_mem_of_mem_zipIdx hp, i, List.mem_range.mp hi, f, hf, rfl⟩

/-- Without a condition on texts, there is a match for whatever a pattern captures. -/
theorem exists_mem_run (hq : q.condition = none) {p : Pattern} (hp : p ∈ q.patterns) {i : Nat}
    {captures : List (String × Nat)} (h : p.Captures src.tree i captures) :
    ∃ m ∈ q.run src, m.captures = captures := by
  obtain ⟨f, hf, rfl⟩ := h
  obtain ⟨position, hposition⟩ := List.mem_iff_getElem?.mp hp
  have hi : i < src.tree.nodes.size := by
    obtain ⟨kind, field, optional, capture, children⟩ := p
    exact SyntaxTree.lt_size_of_named (Pattern.mem_fits_iff.mp hf).1.named
  refine ⟨⟨position, i, f.last, f.captures⟩, ?_, rfl⟩
  refine Sorting.mem_sort.mpr (List.mem_filter.mpr ⟨?_, by simp [holds, hq]⟩)
  refine List.mem_flatMap.mpr ⟨(p, position), ?_, ?_⟩
  · rw [List.mk_mem_zipIdx_iff_getElem?]
    exact hposition
  · exact List.mem_flatMap.mpr ⟨i, List.mem_range.mpr hi, List.mem_map_of_mem hf⟩

/-- The entity of a match is of one of the kinds of the query. -/
theorem isEntity_of_mem_run {m : Match} {j : Nat} (h : m ∈ q.run src)
    (hj : m.node? "node" = some j) : Pattern.IsEntity src.tree q.nodeKinds j := by
  obtain ⟨p, hp, i, -, f, hf, hcaptures⟩ := exists_captures_of_mem_run h
  obtain ⟨before, after, hsplit, -⟩ := List.lookup_eq_some_iff.mp hj
  have hmem : ("node", j) ∈ f.captures := by
    rw [hcaptures, hsplit]
    exact List.mem_append_right before List.mem_cons_self
  exact (p.kind_mem_nodeKinds hf hmem).mono fun k hk => List.mem_flatMap.mpr ⟨p, hp, hk⟩

end Query

/-- All captured entities are of some kind. -/
theorem Language.none_notMem_nodeKinds (l : Language) : ∀ x ∈ l.queries, none ∉ x.2.nodeKinds := by
  cases l <;> decide

end CodeGraph
