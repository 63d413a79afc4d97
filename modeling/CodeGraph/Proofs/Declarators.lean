import CodeGraph.Proofs.Callers
import CodeGraph.Proofs.Grammar

/-!
# Variables of script files

A declarator at program level is looked for by three queries: two take those whose value is an arrow
function or a function expression, and the third one takes all others. What the third one leaves to
the first two is decided by a list of kinds of values that is longer than what these look for, and
its patterns for exported declarations know one of the two kinds of declarations. The declarators
that fall between are recorded nowhere; all others have one definition of their range and name.

No other entity shares its range with a declarator. Around it stand a declaration, the export and
the program, and below it the name starts and ends with the declarator only if it is all of it.

## Main definitions

* `SyntaxTree.Declarator`: a declarator of an identifier, with its parts as the grammar orders them.
* `SyntaxTree.TopLevel`: a declaration at program level, directly or under an export.
* `SourceTree.Unmatched`: the forms that no query records.

## Main results

* `SyntaxTree.Nested.of_range_eq`: which nodes share their range with a node around a leaf.
* `SourceTree.exists_node_of_mem_finds`: everything that is found is read off a captured node.
* `SourceTree.exists_mem_finds_of_not_unmatched`: a declarator that is not unmatched is found.
* `ParsedFile.declarator_recorded`: a declarator is recorded once, or it is unmatched.
-/

namespace CodeGraph

/-! ### Ranges -/

namespace SyntaxTree

variable {t : SyntaxTree}

/--
Around a node with a leaf that is not empty, only its ancestors have its range, and below it only
that leaf.
-/
theorem Nested.of_range_eq (ht : t.Nested) {i n j : Nat} (hn : t.parent? n = some i)
    (hleaf : t.children n = []) (hne : (t.node n).start < (t.node n).stop)
    (hj : j < t.nodes.size) (hstart : (t.node j).start = (t.node i).start)
    (hstop : (t.node j).stop = (t.node i).stop) : j = i ∨ j = n ∨ j ∈ t.ancestors i := by
  have hsize : n < t.nodes.size := lt_size_of_parent? hn
  have hi : i < t.nodes.size := Nat.lt_trans (ht.lt_of_parent? hn) hsize
  have hinside := ht.inside n hsize i hn
  rcases ht.comparable_or_apart hj hi with rfl | hmem | hmem | hapart
  · exact .inl rfl
  · exact .inr (.inr hmem)
  · refine .inr (.inl ?_)
    obtain ⟨c, hc, hcj⟩ := ht.exists_child_of_mem_ancestors hmem
    by_cases hcn : c = n
    · subst hcn
      rcases hcj with rfl | hcj
      · rfl
      · obtain ⟨d, hd, -⟩ := ht.exists_child_of_mem_ancestors hcj
        have hlisted := ht.listed d (lt_size_of_parent? hd) c hd
        rw [hleaf] at hlisted
        cases hlisted
    · have hapart := ht.apart_of_inside (ht.apart_of_parent?_eq hc hn hcn) (hcj.imp_left Eq.symm)
      unfold Apart at hapart
      omega
  · unfold Apart at hapart
    omega

/-! ### Declarators -/

/-- A declaration is the one that an export statement at program level exports. -/
def Exported (t : SyntaxTree) (p : Nat) : Prop :=
  ∃ e, t.parent? p = some e ∧ (t.node e).named = true ∧ t.kind e = "export_statement" ∧
    (t.node p).field = some "declaration" ∧ t.parent? e = some 0

/-- A declaration of variables stands at program level, directly or under an export. -/
structure TopLevel (t : SyntaxTree) (p : Nat) : Prop where
  root : (t.node 0).named = true ∧ t.kind 0 = "program"
  named : (t.node p).named = true
  kind : t.kind p = "lexical_declaration" ∨ t.kind p = "variable_declaration"
  place : t.parent? p = some 0 ∨ t.Exported p

/-- A declarator names an identifier, before its value. -/
structure Declarator (t : SyntaxTree) (i n : Nat) : Prop where
  named : (t.node i).named = true
  kind : t.kind i = "variable_declarator"
  name : t.childByField? i "name" = some n
  nameNamed : (t.node n).named = true
  nameKind : t.kind n = "identifier"
  leaf : t.children n = []
  value : ∀ v ∈ t.childByField? i "value", (t.node v).named = true ∧ [n, v].Sublist (t.children i)

/-- Around a declaration at program level there are the program and the export, if there is one. -/
theorem TopLevel.mem_ancestors_cases (ht : t.Nested) {p j : Nat} (h : t.TopLevel p)
    (hj : j ∈ t.ancestors p) :
    t.kind j = "program" ∨ t.parent? p = some j ∧ t.kind j = "export_statement" ∧
      (t.node p).field = some "declaration" := by
  have hroot : ∀ {q : Nat}, t.parent? q = some 0 → t.ancestors q = [0] := ht.ancestors_eq_cons
  rcases h.place with hplace | ⟨e, he, -, hexport, hfield, he0⟩
  · rw [hroot hplace, List.mem_singleton] at hj
    exact .inl (hj ▸ h.root.2)
  · rw [ht.ancestors_eq_cons he, hroot he0, List.mem_pair] at hj
    rcases hj with rfl | rfl
    · exact .inr ⟨he, hexport, hfield⟩
    · exact .inl h.root.2

instance (t : SyntaxTree) (p : Nat) : Decidable (t.Exported p) :=
  decidable_of_iff
    (∃ e ∈ t.parent? p, (t.node e).named = true ∧ t.kind e = "export_statement" ∧
      (t.node p).field = some "declaration" ∧ t.parent? e = some 0)
    Iff.rfl

instance (t : SyntaxTree) (p : Nat) : Decidable (t.TopLevel p) :=
  decidable_of_iff
    (((t.node 0).named = true ∧ t.kind 0 = "program") ∧ (t.node p).named = true ∧
      (t.kind p = "lexical_declaration" ∨ t.kind p = "variable_declaration") ∧
      (t.parent? p = some 0 ∨ t.Exported p))
    ⟨fun ⟨h₁, h₂, h₃, h₄⟩ => ⟨h₁, h₂, h₃, h₄⟩, fun ⟨h₁, h₂, h₃, h₄⟩ => ⟨h₁, h₂, h₃, h₄⟩⟩

instance (t : SyntaxTree) (i n : Nat) : Decidable (t.Declarator i n) :=
  decidable_of_iff
    ((t.node i).named = true ∧ t.kind i = "variable_declarator" ∧
      t.childByField? i "name" = some n ∧ (t.node n).named = true ∧ t.kind n = "identifier" ∧
      t.children n = [] ∧
      ∀ v ∈ t.childByField? i "value", (t.node v).named = true ∧ [n, v].Sublist (t.children i))
    ⟨fun ⟨h₁, h₂, h₃, h₄, h₅, h₆, h₇⟩ => ⟨h₁, h₂, h₃, h₄, h₅, h₆, h₇⟩,
      fun ⟨h₁, h₂, h₃, h₄, h₅, h₆, h₇⟩ => ⟨h₁, h₂, h₃, h₄, h₅, h₆, h₇⟩⟩

/-- The kind of the value of a declarator. -/
def valueKind? (t : SyntaxTree) (i : Nat) : Option String :=
  (t.childByField? i "value").map t.kind

/-- The kind of entity that a declarator is: a function if its value is one, else a variable. -/
def declaratorKind (t : SyntaxTree) (i : Nat) : DefinitionKind :=
  if (t.valueKind? i).any (· ∈ functionValueKinds) then .functionDecl else .variableDecl

end SyntaxTree

/-- An empty range has no text. -/
theorem SourceTree.text_eq_empty {src : SourceTree} {i : Nat}
    (h : (src.tree.node i).stop ≤ (src.tree.node i).start) : src.text i = "" := by
  have hbytes : src.bytes.extract (src.tree.node i).start (src.tree.node i).stop =
      ByteArray.empty := by
    simp [h]
  rw [text, rawText, hbytes]
  rfl

/-! ### Patterns of declarators -/

namespace Pattern

variable {t : SyntaxTree} {l : Language} {i : Nat} {captures : List (String × Nat)}

/-- What a pattern for declarators captures: the declarator and its name. -/
def declaratorCaptures (i n : Nat) : List (String × Nat) :=
  [("node", i), ("name", n)]

section Single

variable (honce : t.FieldsOnce l)
  (hl : l.singleFields = Language.scriptFields)

include honce hl

/-- A declarator with a value of a kind. -/
theorem of_captures_declaratorWith {valueKind : String}
    (h : (declaratorWith valueKind).Captures t i captures) :
    ∃ n, t.childByField? i "name" = some n ∧ t.valueKind? i = some valueKind ∧
      captures = declaratorCaptures i n := by
  obtain ⟨hadmits, n, rest, hsuffix, v, hv, _, _, hname, hvalue, rfl⟩ := captures_two_iff.mp h
  obtain ⟨hn, rfl⟩ := captures_leaf_iff.mp hname
  obtain ⟨hv', rfl⟩ := captures_leaf_iff.mp hvalue
  have hkind := hadmits.kind _ rfl
  have hsize := SyntaxTree.lt_size_of_named hadmits.named
  have hfields : (t.kind i, "name") ∈ l.singleFields ∧ (t.kind i, "value") ∈ l.singleFields := by
    rw [hkind, hl]
    decide
  refine ⟨n, honce.childByField?_eq hfields.1 hsize (hsuffix.mem List.mem_cons_self)
    (hn.field "name" rfl), ?_, rfl⟩
  rw [SyntaxTree.valueKind?, honce.childByField?_eq hfields.2 hsize
    (hsuffix.mem (List.mem_cons_of_mem n hv)) (hv'.field "value" rfl), Option.map_some,
    hv'.kind valueKind rfl]

/-- A declarator of any name. -/
theorem of_captures_declarationAny
    (h : (declarationAny "variable_declarator").Captures t i captures) :
    ∃ n, t.childByField? i "name" = some n ∧ captures = declaratorCaptures i n := by
  obtain ⟨hadmits, n, hn, _, hname, rfl⟩ := captures_one_iff.mp h
  obtain ⟨hn', rfl⟩ := captures_leaf_iff.mp hname
  have hfield : (t.kind i, "name") ∈ l.singleFields := by
    rw [hadmits.kind _ rfl, hl]
    decide
  exact ⟨n, honce.childByField?_eq hfield (SyntaxTree.lt_size_of_named hadmits.named) hn
    (hn'.field "name" rfl), rfl⟩

end Single

/-- A declarator is matched by the pattern for its value. -/
theorem captures_declaratorWith {n : Nat} (h : t.Declarator i n) {valueKind : String}
    (hvalue : t.valueKind? i = some valueKind) :
    (declaratorWith valueKind).Captures t i (declaratorCaptures i n) := by
  obtain ⟨v, hv, rfl⟩ := Option.map_eq_some_iff.mp hvalue
  obtain ⟨hnamed, hbefore⟩ := h.value v hv
  -- the value is one of the children behind the name
  obtain ⟨near, far, hchildren, hn, hfar⟩ := List.cons_sublist_iff.mp hbefore
  obtain ⟨before, behind, rfl⟩ := List.append_of_mem hn
  have hsuffix : n :: (behind ++ far) <:+ t.children i := by
    rw [hchildren, List.append_assoc]
    exact List.suffix_append before _
  have hrest : v ∈ behind ++ far := List.mem_append_right _ (List.singleton_sublist.mp hfar)
  have hname : t.Admits (some "identifier") (some "name") n :=
    SyntaxTree.admits_iff.mpr
      ⟨h.nameNamed, h.nameKind, (SyntaxTree.mem_of_childByField? h.name).2⟩
  have hvalue : t.Admits (some (t.kind v)) (some "value") v :=
    SyntaxTree.admits_iff.mpr ⟨hnamed, rfl, (SyntaxTree.mem_of_childByField? hv).2⟩
  exact captures_two_iff.mpr ⟨SyntaxTree.admits_kind_iff.mpr ⟨h.named, h.kind⟩, n, _, hsuffix, v,
    hrest, _, _, captures_leaf_iff.mpr ⟨hname, rfl⟩, captures_leaf_iff.mpr ⟨hvalue, rfl⟩, rfl⟩

/-- A declarator is matched by the pattern for any name. -/
theorem captures_declarationAny {n : Nat} (h : t.Declarator i n) :
    (declarationAny "variable_declarator").Captures t i (declaratorCaptures i n) := by
  obtain ⟨hchild, hfield⟩ := SyntaxTree.mem_of_childByField? h.name
  exact captures_one_iff.mpr ⟨SyntaxTree.admits_kind_iff.mpr ⟨h.named, h.kind⟩, n, hchild, _,
    captures_leaf_iff.mpr ⟨SyntaxTree.admits_field_iff.mpr ⟨h.nameNamed, hfield⟩, rfl⟩, rfl⟩

/-- What captures a declarator as a part of a declaration stands at its own declaration. -/
theorem of_captures_declaration (hlinked : t.Linked) (honce : t.FieldsOnce l)
    (hl : l.singleFields = Language.scriptFields) {n p q : Nat} (h : t.Declarator i n)
    (hp : t.parent? i = some p) {kind : String} {field : Option String}
    (hq : (mk (some kind) field false none [declarationAny "variable_declarator"]).Captures t q
      captures) (hi : captures.lookup "node" = some i) :
    q = p ∧ t.kind p = kind ∧ captures = declaratorCaptures i n := by
  obtain ⟨hadmits, c, hc, below, hbelow, rfl⟩ := captures_one_iff.mp hq
  obtain ⟨n', hn', hcaptures⟩ := of_captures_declarationAny honce hl hbelow
  rw [Option.map_none, Option.toList_none, List.nil_append, hcaptures] at hi ⊢
  obtain rfl : c = i := Option.some.inj hi
  have hparent := hlinked _ (SyntaxTree.lt_size_of_named hadmits.named) _ hc
  obtain rfl : q = p := Option.some.inj (hparent.symm.trans hp)
  obtain rfl : n' = n := Option.some.inj (hn'.symm.trans h.name)
  exact ⟨rfl, hadmits.kind kind rfl, rfl⟩

/-- A declaration is captured with each of its declarators. -/
theorem captures_declaration (ht : t.Nested) {n p : Nat} (h : t.Declarator i n)
    (hp : t.parent? i = some p) {kind : String} {field : Option String}
    (hadmits : t.Admits (some kind) field p) :
    (mk (some kind) field false none [declarationAny "variable_declarator"]).Captures t p
      (declaratorCaptures i n) :=
  captures_one_iff.mpr ⟨hadmits, i, ht.listed i (SyntaxTree.lt_size_of_parent? hp) p hp, _,
    captures_declarationAny h, rfl⟩

/-- The patterns for variables at program level. -/
def variablePatterns : List Pattern :=
  [node "program" [node "lexical_declaration" [declarationAny "variable_declarator"]],
   node "program" [node "variable_declaration" [declarationAny "variable_declarator"]],
   node "program" [
     node "export_statement" [
       (node "lexical_declaration" [declarationAny "variable_declarator"]).inField "declaration"]]]

/-- Which declarators the patterns for variables match, and what they capture. -/
theorem exists_mem_variablePatterns_iff (ht : t.Nested) (hlinked : t.Linked)
    (honce : t.FieldsOnce l) (hl : l.singleFields = Language.scriptFields) {n p : Nat}
    (h : t.Declarator i n) (hp : t.parent? i = some p) (htop : t.TopLevel p) :
    (∃ pattern ∈ variablePatterns, ∃ r, pattern.Captures t r captures ∧
        captures.lookup "node" = some i) ↔
      captures = declaratorCaptures i n ∧
        ¬(t.kind p = "variable_declaration" ∧ t.Exported p) := by
  constructor
  · rintro ⟨pattern, hpattern, r, hcaptures, hi⟩
    simp only [variablePatterns, List.mem_cons, List.not_mem_nil, or_false] at hpattern
    rcases hpattern with rfl | rfl | rfl
    · obtain ⟨-, q, -, below, hbelow, rfl⟩ := captures_one_iff.mp hcaptures
      obtain ⟨rfl, hkind, rfl⟩ := of_captures_declaration hlinked honce hl h hp hbelow hi
      exact ⟨rfl, fun hvar => absurd (hkind.symm.trans hvar.1) (by decide)⟩
    · obtain ⟨hroot, q, hq, below, hbelow, rfl⟩ := captures_one_iff.mp hcaptures
      obtain ⟨rfl, -, rfl⟩ := of_captures_declaration hlinked honce hl h hp hbelow hi
      refine ⟨rfl, ?_⟩
      rintro ⟨-, e, he, -, hexport, -⟩
      have hparent := hlinked _ (SyntaxTree.lt_size_of_named hroot.named) _ hq
      obtain rfl := Option.some.inj (hparent.symm.trans he)
      exact absurd ((hroot.kind _ rfl).symm.trans hexport) (by decide)
    · obtain ⟨-, e, -, _, hexport, rfl⟩ := captures_one_iff.mp hcaptures
      obtain ⟨-, q, -, below, hbelow, rfl⟩ := captures_one_iff.mp hexport
      obtain ⟨rfl, hkind, rfl⟩ := of_captures_declaration hlinked honce hl h hp hbelow hi
      exact ⟨rfl, fun hvar => absurd (hkind.symm.trans hvar.1) (by decide)⟩
  · rintro ⟨rfl, hmatched⟩
    have hlisted : ∀ {c q : Nat}, t.parent? c = some q → c ∈ t.children q := fun hq =>
      ht.listed _ (SyntaxTree.lt_size_of_parent? hq) _ hq
    have hroot : t.Admits (some "program") none 0 := SyntaxTree.admits_kind_iff.mpr htop.root
    have hdirect : ∀ kind, t.kind p = kind → t.parent? p = some 0 →
        (node "program" [node kind [declarationAny "variable_declarator"]]).Captures t 0
          (declaratorCaptures i n) := fun kind hkind hplace =>
      captures_one_iff.mpr ⟨hroot, p, hlisted hplace, _, captures_declaration ht h hp
        (SyntaxTree.admits_kind_iff.mpr ⟨htop.named, hkind⟩), rfl⟩
    rcases htop.place with hplace | hexported
    · rcases htop.kind with hkind | hkind
      · exact ⟨_, List.mem_cons_self, 0, hdirect _ hkind hplace, rfl⟩
      · exact ⟨_, List.mem_cons_of_mem _ List.mem_cons_self, 0, hdirect _ hkind hplace, rfl⟩
    · have hkind := htop.kind.resolve_right fun hvar => hmatched ⟨hvar, hexported⟩
      obtain ⟨e, he, hnamed, hexport, hfield, he0⟩ := hexported
      refine ⟨_, List.mem_cons_of_mem _ (List.mem_cons_of_mem _ List.mem_cons_self), 0, ?_, rfl⟩
      have hdeclaration := captures_declaration ht h hp
        (SyntaxTree.admits_iff.mpr ⟨htop.named, hkind, hfield⟩)
      exact captures_one_iff.mpr ⟨hroot, e, hlisted he0, _, captures_one_iff.mpr
        ⟨SyntaxTree.admits_kind_iff.mpr ⟨hnamed, hexport⟩, p, hlisted he, _, hdeclaration, rfl⟩,
        rfl⟩

end Pattern

/-! ### Queries of the script languages -/

namespace Language

/-- The languages whose declarators are looked for. -/
def scripts : List Language :=
  [javascript, typescript, tsx]

/-- A query of a table is the one under its name. -/
theorem query?_of_mem {l : Language} {name : QueryName} {q : Query} (h : (name, q) ∈ l.queries) :
    l.query? name = some q := by
  have hnodup : (l.queries.map Prod.fst).Nodup := by cases l <;> decide
  obtain ⟨before, after, hsplit⟩ := List.append_of_mem h
  rw [hsplit, List.map_append, List.map_cons, List.nodup_append] at hnodup
  refine List.lookup_eq_some_iff.mpr ⟨before, after, hsplit, fun x hx => ?_⟩
  have hne := hnodup.2.2 x.1 (List.mem_map_of_mem hx) name List.mem_cons_self
  exact (bne_iff_ne.mpr hne.symm)

/-- The script languages share a part of their tables. -/
theorem queries_of_mem_scripts {l : Language} (hl : l ∈ scripts) :
    ∃ more, l.queries = scriptQueries ++ more := by
  simp only [scripts, List.mem_cons, List.not_mem_nil, or_false] at hl
  rcases hl with rfl | rfl | rfl <;> exact ⟨_, rfl⟩

/-- A query under a name that the script languages share is the shared one. -/
theorem eq_of_mem_scripts {l : Language} (hl : l ∈ scripts) {name : QueryName} {q q' : Query}
    (h : (name, q) ∈ l.queries) (h' : scriptQueries.lookup name = some q') : q = q' := by
  obtain ⟨more, hmore⟩ := queries_of_mem_scripts hl
  have hquery := query?_of_mem h
  rw [query?, hmore, List.lookup_append, h'] at hquery
  exact (Option.some.inj hquery).symm

theorem singleFields_of_mem_scripts : ∀ l ∈ scripts, l.singleFields = scriptFields := by
  decide

/-- No entity is a name, a declaration of variables or the program. -/
theorem notMem_nodeKinds_of_mem_scripts : ∀ l ∈ scripts, ∀ x ∈ l.queries,
    ∀ k ∈ ["identifier", "lexical_declaration", "variable_declaration", "program"],
      some k ∉ x.2.nodeKinds := by
  decide

/-- Export statements are captured as entities of one query only. -/
theorem eq_reexports_of_mem_scripts : ∀ l ∈ scripts, ∀ x ∈ l.queries,
    some "export_statement" ∈ x.2.nodeKinds → x.1 = .reexports := by
  decide

/-- Declarators are captured as entities of three queries. -/
theorem mem_of_mem_scripts : ∀ l ∈ scripts, ∀ x ∈ l.queries,
    some "variable_declarator" ∈ x.2.nodeKinds →
      x.1 ∈ [.arrowFunctions, .functionExpressions, .variableDecls] := by
  decide

end Language

/-! ### What is found -/

namespace SourceTree

variable {src : SourceTree} {l : Language} {broken : List BrokenQuery} {path : String}

/-- Everything that is found is read off the node that a match captures, and has its range. -/
theorem exists_node_of_mem_finds {e : Definition} (h : e ∈ src.finds l broken path) :
    ∃ name q m j, (name, q) ∈ l.queries ∧ m ∈ q.run src ∧ m.node? "node" = some j ∧
      e.startByte = (src.tree.node j).start ∧ e.endByte = (src.tree.node j).stop ∧
      ((∃ kind, name.definitionKind? = some kind ∧ src.declaration? l path kind m = some e) ∨
        name.definitionKind? = none ∧ src.imports l name m j ≠ []) := by
  obtain ⟨⟨name, q⟩, hq, hfound⟩ := List.mem_flatMap.mp h
  obtain ⟨hq, -⟩ := List.mem_filter.mp hq
  cases definedBy_of_mem_definitionsOf hfound with
  | @declared kind m _ hkind hm hdecl =>
    obtain ⟨j, hj, -, -, -, -, hstart, hstop⟩ := exists_of_declaration? hdecl
    exact ⟨name, q, m, j, hq, hm, hj, hstart, hstop, .inl ⟨kind, hkind, hdecl⟩⟩
  | @imported m j spec _ hkind hm hj hspec =>
    exact ⟨name, q, m, j, hq, hm, hj, rfl, rfl, .inr ⟨hkind, List.ne_nil_of_mem hspec⟩⟩

section Declared

variable (hl : l ∈ Language.scripts) (ht : src.tree.Nested) (hlinked : src.tree.Linked)
  {i n p : Nat} (h : src.tree.Declarator i n) (hp : src.tree.parent? i = some p)
  (htop : src.tree.TopLevel p) (htext : src.text n ≠ "")

include hl ht hlinked h hp htop htext

omit h htop htext in
/-- A re-export has a source beside its declaration, so its range is larger than a declarator's. -/
theorem not_reexport {q : Query} {m : Match} {e : Nat} (hq : (QueryName.reexports, q) ∈ l.queries)
    (hm : m ∈ q.run src) (hnode : m.node? "node" = some e)
    (himports : src.imports l .reexports m e ≠ []) (he : src.tree.parent? p = some e)
    (hfield : (src.tree.node p).field = some "declaration")
    (hstart : (src.tree.node e).start = (src.tree.node i).start) :
    (src.tree.node e).stop ≠ (src.tree.node i).stop := by
  intro hstop
  obtain rfl : q = { patterns := [sourced "export_statement"] } :=
    Language.eq_of_mem_scripts hl hq rfl
  obtain ⟨pattern, hpattern, e', -, hcaptures⟩ := Query.exists_captures_of_mem_run hm
  obtain rfl := List.mem_singleton.mp hpattern
  obtain ⟨hadmits, s, hs, _, hleaf, hcaptures⟩ := Pattern.captures_one_iff.mp hcaptures
  obtain ⟨hsource, rfl⟩ := Pattern.captures_leaf_iff.mp hleaf
  rw [Match.node?, ← hcaptures] at hnode
  obtain rfl : e' = e := Option.some.inj hnode
  have hsourceNode : m.node? "source" = some s := by
    rw [Match.node?, ← hcaptures]
    rfl
  -- the text of the source is not empty, so it stands beside the declaration
  have hne : (src.tree.node s).start < (src.tree.node s).stop := by
    by_contra hempty
    have hname : unquoted (src.optionalText (m.node? "source")) = "" := by
      rw [hsourceNode, optionalText, Option.map_some, Option.getD_some,
        text_eq_empty (Nat.le_of_not_lt hempty)]
      rfl
    have hnone : src.scriptImports .reexports e' (m.node? "source") = [] := by
      rw [scriptImports]
      exact if_pos hname
    simp only [Language.scripts, List.mem_cons, List.not_mem_nil, or_false] at hl
    rcases hl with rfl | rfl | rfl <;> exact himports hnone
  have hsparent : src.tree.parent? s = some e' :=
    hlinked _ (SyntaxTree.lt_size_of_named hadmits.named) _ hs
  have hsp : s ≠ p := by
    rintro rfl
    have hboth := (hsource.field "source" rfl).symm.trans hfield
    exact absurd hboth (by decide)
  have hapart := ht.apart_of_parent?_eq hsparent he hsp
  have hsinside := ht.inside s (SyntaxTree.lt_size_of_parent? hsparent) e' hsparent
  have hiinside := ht.inside i (SyntaxTree.lt_size_of_parent? hp) p hp
  unfold SyntaxTree.Apart at hapart
  omega

/-- No other entity has the range of a declarator at program level. -/
theorem node_eq_of_range_eq {e : Definition} (he : e ∈ src.finds l broken path)
    (hstart : e.startByte = (src.tree.node i).start) (hstop : e.endByte = (src.tree.node i).stop) :
    ∃ name q m kind, (name, q) ∈ l.queries ∧ m ∈ q.run src ∧ m.node? "node" = some i ∧
      name ∈ [.arrowFunctions, .functionExpressions, .variableDecls] ∧
      name.definitionKind? = some kind ∧ src.declaration? l path kind m = some e := by
  obtain ⟨name, q, m, j, hq, hm, hj, hjstart, hjstop, hfrom⟩ := exists_node_of_mem_finds he
  have hentity := Query.isEntity_of_mem_run hm hj
  have hkind : some (src.tree.kind j) ∈ q.nodeKinds :=
    hentity.2.resolve_right (l.none_notMem_nodeKinds _ hq)
  have hother := Language.notMem_nodeKinds_of_mem_scripts l hl _ hq
  have hn : src.tree.parent? n = some i :=
    hlinked _ (SyntaxTree.lt_size_of_named h.named) _ (SyntaxTree.mem_of_childByField? h.name).1
  have hne : (src.tree.node n).start < (src.tree.node n).stop := by
    by_contra hempty
    exact htext (text_eq_empty (Nat.le_of_not_lt hempty))
  have hstart' : (src.tree.node j).start = (src.tree.node i).start :=
    Int.ofNat_inj.mp (hjstart.symm.trans hstart)
  have hstop' : (src.tree.node j).stop = (src.tree.node i).stop :=
    Int.ofNat_inj.mp (hjstop.symm.trans hstop)
  have hji : j = i := by
    rcases ht.of_range_eq hn h.leaf hne (SyntaxTree.lt_size_of_named hentity.1) hstart' hstop' with
      rfl | rfl | hmem
    · rfl
    · exact absurd (h.nameKind ▸ hkind) (hother _ (by decide))
    · rw [ht.ancestors_eq_cons hp, List.mem_cons] at hmem
      rcases hmem with rfl | hmem
      · rcases htop.kind with hvar | hvar <;> exact absurd (hvar ▸ hkind) (hother _ (by decide))
      · rcases htop.mem_ancestors_cases ht hmem with hroot | ⟨hparent, hexport, hfield⟩
        · exact absurd (hroot ▸ hkind) (hother _ (by decide))
        · obtain rfl := Language.eq_reexports_of_mem_scripts l hl _ hq (hexport ▸ hkind)
          rcases hfrom with ⟨kind, hnone, -⟩ | ⟨-, himports⟩
          · cases hnone
          · exact absurd hstop'
              (not_reexport hl ht hlinked hp hq hm hj himports hparent hfield hstart')
  subst hji
  have hname := Language.mem_of_mem_scripts l hl _ hq (h.kind ▸ hkind)
  rcases hfrom with ⟨kind, hdefined, hdecl⟩ | ⟨hnone, -⟩
  · exact ⟨name, q, m, kind, hq, hm, hj, hname, hdefined, hdecl⟩
  · simp only [List.mem_cons, List.not_mem_nil, or_false] at hname
    rcases hname with rfl | rfl | rfl <;> cases hnone

/-- What each of the three queries asks of a declarator. -/
def Takes (src : SourceTree) (i p : Nat) : QueryName → Prop
  | .arrowFunctions => src.tree.valueKind? i = some "arrow_function"
  | .functionExpressions => src.tree.valueKind? i = some "function_expression"
  | .variableDecls => ¬(src.tree.kind p = "variable_declaration" ∧ src.tree.Exported p)
  | _ => False

omit htext in
/-- The matches of a declarator capture the declarator and its name. -/
theorem exists_mem_run_iff (honce : src.tree.FieldsOnce l) {name : QueryName} {q : Query}
    (hq : (name, q) ∈ l.queries)
    (hname : name ∈ [.arrowFunctions, .functionExpressions, .variableDecls])
    {captures : List (String × Nat)} :
    (∃ m ∈ q.run src, m.node? "node" = some i ∧ m.captures = captures) ↔
      captures = Pattern.declaratorCaptures i n ∧ src.Takes i p name := by
  have hfields := Language.singleFields_of_mem_scripts l hl
  -- all three queries search without a condition
  have hmatches : q.condition = none →
      ((∃ m ∈ q.run src, m.node? "node" = some i ∧ m.captures = captures) ↔
        ∃ pattern ∈ q.patterns, ∃ r, pattern.Captures src.tree r captures ∧
          captures.lookup "node" = some i) := by
    intro hq
    constructor
    · rintro ⟨m, hm, hnode, rfl⟩
      obtain ⟨pattern, hpattern, r, -, hcaptures⟩ := Query.exists_captures_of_mem_run hm
      exact ⟨pattern, hpattern, r, hcaptures, hnode⟩
    · rintro ⟨pattern, hpattern, r, hcaptures, hnode⟩
      obtain ⟨m, hm, rfl⟩ := Query.exists_mem_run hq hpattern hcaptures
      exact ⟨m, hm, hnode, rfl⟩
  have hvalue : ∀ valueKind, (∃ pattern ∈ [declaratorWith valueKind], ∃ r,
      pattern.Captures src.tree r captures ∧ captures.lookup "node" = some i) ↔
      captures = Pattern.declaratorCaptures i n ∧ src.tree.valueKind? i = some valueKind := by
    intro valueKind
    constructor
    · rintro ⟨pattern, hpattern, r, hcaptures, hnode⟩
      obtain rfl := List.mem_singleton.mp hpattern
      obtain ⟨n', hn', hv, rfl⟩ := Pattern.of_captures_declaratorWith honce hfields hcaptures
      obtain rfl : r = i := Option.some.inj hnode
      obtain rfl : n' = n := Option.some.inj (hn'.symm.trans h.name)
      exact ⟨rfl, hv⟩
    · rintro ⟨rfl, hv⟩
      exact ⟨_, List.mem_singleton_self _, i, Pattern.captures_declaratorWith h hv, rfl⟩
  simp only [List.mem_cons, List.not_mem_nil, or_false] at hname
  rcases hname with rfl | rfl | rfl
  · obtain rfl : q = { patterns := [declaratorWith "arrow_function"] } :=
      Language.eq_of_mem_scripts hl hq rfl
    exact (hmatches rfl).trans (hvalue _)
  · obtain rfl : q = { patterns := [declaratorWith "function_expression"] } :=
      Language.eq_of_mem_scripts hl hq rfl
    exact (hmatches rfl).trans (hvalue _)
  · obtain rfl : q = { patterns := Pattern.variablePatterns } :=
      Language.eq_of_mem_scripts hl hq rfl
    exact (hmatches rfl).trans
      (Pattern.exists_mem_variablePatterns_iff ht hlinked honce hfields h hp htop)

end Declared

/-! ### The definition of a declarator -/

section Definition

variable {i n : Nat} (h : src.tree.Declarator i n) (htext : src.text n ≠ "") {m : Match}
  (hcaptures : m.captures = Pattern.declaratorCaptures i n) {kind : DefinitionKind}
  (hkind : kind = .functionDecl ∨ kind = .variableDecl)

include h

/-- The name of a declarator is the text of its identifier, if that holds no blank. -/
theorem declaredName?_eq (htext : src.text n ≠ "") : src.declaredName? n =
    if (src.text n).toList.any Text.isBlank then none else some (src.text n) := by
  have hne : ¬(src.tree.node n).stop ≤ (src.tree.node n).start := mt text_eq_empty htext
  have hkind : (src.tree.node n).kind = "identifier" := h.nameKind
  simp only [declaredName?, hkind, if_neg hne]
  rw [if_neg (by decide), if_pos (by decide)]
  simp [htext]

/-- A variable is left to other queries if its value is of one of the kinds of functions. -/
theorem isFunctionVariable_iff : src.isFunctionVariable .variableDecl i = true ↔
    ∃ k ∈ src.tree.valueKind? i, k ∈ functionValueKinds := by
  rw [isFunctionVariable, h.kind, SyntaxTree.valueKind?]
  cases src.tree.childByField? i "value" with
  | none => simp
  | some v => simp

include htext hcaptures hkind

/-- A match of a declarator names its entity by the identifier. -/
theorem entityName?_eq : src.entityName? kind m i =
    if (src.text n).toList.any Text.isBlank then none else some (src.text n) := by
  have hother : kind ≠ .decorator := by
    rcases hkind with rfl | rfl <;> decide
  have hname : m.node? "name" = some n := by
    rw [Match.node?, hcaptures]
    rfl
  rw [entityName?, if_neg hother, hname, Option.bind_some, declaredName?_eq h htext]

/-- What a match of a declarator gives. -/
theorem of_declaration?_declarator {e : Definition}
    (he : src.declaration? l path kind m = some e) :
    e.kind = kind ∧ e.name = src.text n ∧ (src.text n).toList.any Text.isBlank = false ∧
      src.isFunctionVariable kind i = false := by
  obtain ⟨j, hj, hname, hvariable, hinside, -⟩ := exists_of_declaration? he
  rw [Match.node?, hcaptures] at hj
  obtain rfl : i = j := Option.some.inj hj
  rw [entityName?_eq h htext hcaptures hkind] at hname
  obtain ⟨hblank, hname⟩ := Option.ite_none_left_eq_some.mp hname
  refine ⟨?_, (Option.some.inj hname).symm, Bool.eq_false_iff.mpr hblank, hvariable⟩
  rw [hinside, kindInside, h.kind]
  rcases hkind with rfl | rfl <;> simp

/--
A match of a declarator gives a definition, unless its name holds a blank or it is left to other
queries.
-/
theorem exists_declaration?_eq (hblank : (src.text n).toList.any Text.isBlank = false)
    (hvariable : src.isFunctionVariable kind i = false) :
    ∃ e, src.declaration? l path kind m = some e := by
  have hnode : m.node? "node" = some i := by
    rw [Match.node?, hcaptures]
    rfl
  have hname := entityName?_eq h htext hcaptures hkind
  rw [hblank, if_neg Bool.false_ne_true] at hname
  rw [declaration?, hnode, Option.bind_eq_bind, Option.bind_some, hname, Option.bind_eq_bind,
    Option.bind_some, hvariable, if_neg Bool.false_ne_true]
  exact ⟨_, rfl⟩

end Definition

/-! ### Which declarators are recorded -/

/--
No query records a declarator whose name holds a blank, whose value is a function that none of them
looks for, or that stands in an exported declaration of the other kind.
-/
def Unmatched (src : SourceTree) (i n p : Nat) : Prop :=
  (src.text n).toList.any Text.isBlank = true ∨
  src.tree.valueKind? i = some "function" ∨ src.tree.valueKind? i = some "generator_function" ∨
  src.tree.kind p = "variable_declaration" ∧ src.tree.Exported p ∧
    src.tree.valueKind? i ≠ some "arrow_function" ∧
    src.tree.valueKind? i ≠ some "function_expression"

instance (src : SourceTree) (i n p : Nat) : Decidable (src.Unmatched i n p) :=
  inferInstanceAs (Decidable (_ ∨ _ ∨ _ ∨ _ ∧ _ ∧ _ ∧ _))

section Recorded

variable (hl : l ∈ Language.scripts) (ht : src.tree.Nested) (hlinked : src.tree.Linked)
  (honce : src.tree.FieldsOnce l) {i n p : Nat} (h : src.tree.Declarator i n)
  (hp : src.tree.parent? i = some p) (htop : src.tree.TopLevel p) (htext : src.text n ≠ "")

include hl ht hlinked honce h hp htop htext

/-- What is found in the range of a declarator has its name and its kind, and it is matched. -/
theorem of_mem_finds_of_range_eq {e : Definition} (he : e ∈ src.finds l broken path)
    (hstart : e.startByte = (src.tree.node i).start) (hstop : e.endByte = (src.tree.node i).stop) :
    e.kind = src.tree.declaratorKind i ∧ e.name = src.text n ∧ ¬src.Unmatched i n p := by
  obtain ⟨name, q, m, kind, hq, hm, hi, hname, hdefined, hdecl⟩ :=
    node_eq_of_range_eq hl ht hlinked h hp htop htext he hstart hstop
  obtain ⟨hcaptures, htakes⟩ :=
    (exists_mem_run_iff hl ht hlinked h hp htop honce hq hname).mp ⟨m, hm, hi, rfl⟩
  -- the two queries for functions settle the kind of the value
  have hfunction : ∀ valueKind ∈ ["arrow_function", "function_expression"],
      src.tree.valueKind? i = some valueKind → kind = .functionDecl →
      e.kind = src.tree.declaratorKind i ∧ e.name = src.text n ∧ ¬src.Unmatched i n p := by
    rintro valueKind hmem hvalue rfl
    obtain ⟨hekind, hename, hblank, -⟩ :=
      of_declaration?_declarator h htext hcaptures (.inl rfl) hdecl
    refine ⟨?_, hename, ?_⟩
    · rw [hekind, SyntaxTree.declaratorKind, hvalue]
      rcases List.mem_pair.mp hmem with rfl | rfl <;> rfl
    · rw [Unmatched, hblank, hvalue]
      rcases List.mem_pair.mp hmem with rfl | rfl <;> simp
  simp only [List.mem_cons, List.not_mem_nil, or_false] at hname
  rcases hname with rfl | rfl | rfl
  · exact hfunction _ List.mem_cons_self htakes (Option.some.inj hdefined).symm
  · exact hfunction _ (List.mem_cons_of_mem _ List.mem_cons_self) htakes
      (Option.some.inj hdefined).symm
  · obtain rfl : .variableDecl = kind := Option.some.inj hdefined
    obtain ⟨hekind, hename, hblank, hvariable⟩ :=
      of_declaration?_declarator h htext hcaptures (.inr rfl) hdecl
    have hother : ¬∃ k ∈ src.tree.valueKind? i, k ∈ functionValueKinds := fun hfunction =>
      Bool.eq_false_iff.mp hvariable ((isFunctionVariable_iff h).mpr hfunction)
    refine ⟨?_, hename, ?_⟩
    · rw [hekind, SyntaxTree.declaratorKind, if_neg]
      intro hany
      obtain ⟨k, hk, hmem⟩ := (Option.any_eq_true ..).mp hany
      exact hother ⟨k, hk, of_decide_eq_true hmem⟩
    · rintro (hb | hvalue | hvalue | ⟨hvar, hexported, -⟩)
      · rw [hblank] at hb
        cases hb
      · exact hother ⟨_, hvalue, by decide⟩
      · exact hother ⟨_, hvalue, by decide⟩
      · exact htakes ⟨hvar, hexported⟩

/-- A declarator that is not unmatched is found. -/
theorem exists_mem_finds_of_not_unmatched
    (hq : ∀ name ∈ [QueryName.arrowFunctions, .functionExpressions, .variableDecls],
      l.compiles broken name = true) (hmatched : ¬src.Unmatched i n p) :
    ∃ e ∈ src.finds l broken path,
      e.startByte = (src.tree.node i).start ∧ e.endByte = (src.tree.node i).stop := by
  simp only [Unmatched, not_or, Bool.not_eq_true] at hmatched
  obtain ⟨hblank, hfunction, hgenerator, hexport⟩ := hmatched
  have hfound : ∀ name ∈ [QueryName.arrowFunctions, .functionExpressions, .variableDecls],
      ∀ kind, name.definitionKind? = some kind → (kind = .functionDecl ∨ kind = .variableDecl) →
      src.Takes i p name → src.isFunctionVariable kind i = false →
      ∃ e ∈ src.finds l broken path,
        e.startByte = (src.tree.node i).start ∧ e.endByte = (src.tree.node i).stop := by
    intro name hname kind hdefined hkind htakes hvariable
    obtain ⟨q, hlisted⟩ : ∃ q, (name, q) ∈ l.queries := by
      obtain ⟨more, hmore⟩ := Language.queries_of_mem_scripts hl
      have hshared : name ∈ scriptQueries.map Prod.fst :=
        (by decide : ∀ name ∈ [QueryName.arrowFunctions, .functionExpressions, .variableDecls],
          name ∈ scriptQueries.map Prod.fst) name hname
      obtain ⟨⟨_, q⟩, hmem, rfl⟩ := List.mem_map.mp hshared
      exact ⟨q, hmore ▸ List.mem_append_left more hmem⟩
    obtain ⟨m, hm, hnode, hcaptures⟩ :=
      (exists_mem_run_iff hl ht hlinked h hp htop honce hlisted hname).mpr ⟨rfl, htakes⟩
    obtain ⟨e, he⟩ : ∃ e, src.declaration? l path kind m = some e :=
      exists_declaration?_eq h htext hcaptures hkind hblank hvariable
    have hdeclared : (i, e) ∈ src.declarations l broken path :=
      mem_declarations.mpr ⟨name, q, kind, m, hlisted, hq name hname, hdefined, hm, hnode, he⟩
    exact ⟨e, mem_finds_of_mem_declarations hdeclared, range_of_mem_declarations hdeclared⟩
  by_cases harrow : src.tree.valueKind? i = some "arrow_function"
  · exact hfound .arrowFunctions (by decide) .functionDecl rfl (.inl rfl) harrow rfl
  by_cases hexpression : src.tree.valueKind? i = some "function_expression"
  · exact hfound .functionExpressions (by decide) .functionDecl rfl (.inl rfl) hexpression rfl
  refine hfound .variableDecls (by decide) .variableDecl rfl (.inr rfl) ?_ ?_
  · rintro ⟨hvar, hexported⟩
    exact hexport ⟨hvar, hexported, harrow, hexpression⟩
  · rw [Bool.eq_false_iff, Ne, isFunctionVariable_iff h]
    rintro ⟨k, hk, hmem⟩
    simp only [functionValueKinds, List.mem_cons, List.not_mem_nil, or_false] at hmem
    rcases hmem with rfl | rfl | rfl | rfl
    · exact harrow hk
    · exact hexpression hk
    · exact hfunction hk
    · exact hgenerator hk

end Recorded

end SourceTree

/--
In a file of a script language whose tree has nested ranges, linked children and one child in each
single field, take a declarator of an identifier, in a declaration at program level, directly or
under an export. If it is unmatched, no definition has its range and name. Otherwise exactly one
has, and it is a function if the value of the declarator is one, and else a variable.
-/
theorem ParsedFile.declarator_recorded (l : Language) (hl : l ∈ Language.scripts)
    (broken : List BrokenQuery)
    (hq : ∀ name ∈ [QueryName.arrowFunctions, .functionExpressions, .variableDecls],
      l.compiles broken name = true)
    (path content : String) {tree : SyntaxTree} (ht : tree.Nested) (hlinked : tree.Linked)
    (honce : tree.FieldsOnce l) :
    let src : SourceTree := ⟨tree, content.toUTF8⟩
    let f := extract l broken path content tree
    ∀ i n p, tree.Declarator i n → tree.parent? i = some p → tree.TopLevel p → src.text n ≠ "" →
      let found := f.definitions.filter fun d => d.startByte = ((tree.node i).start : Int) &&
        d.endByte = ((tree.node i).stop : Int) && d.name = src.text n
      (src.Unmatched i n p → found = []) ∧
      (¬src.Unmatched i n p → ∃ d, found = [d] ∧
        d.kind = if (tree.valueKind? i).any (· ∈ functionValueKinds) then .functionDecl
          else .variableDecl) := by
  intro src f i n p h hp htop htext found
  have hfound : ∀ e ∈ f.definitions, e.startByte = (tree.node i).start →
      e.endByte = (tree.node i).stop →
      e.kind = tree.declaratorKind i ∧ e.name = src.text n ∧ ¬src.Unmatched i n p := by
    intro e he
    exact SourceTree.of_mem_finds_of_range_eq hl ht hlinked honce h hp htop htext
      (SourceTree.mem_finds_of_mem_definitions he)
  constructor
  · intro hunmatched
    refine List.filter_eq_nil_iff.mpr fun e he hrange => ?_
    simp only [Bool.and_eq_true, decide_eq_true_eq] at hrange
    exact (hfound e he hrange.1.1 hrange.1.2).2.2 hunmatched
  · intro hmatched
    obtain ⟨e, he, hstart, hstop⟩ : ∃ e ∈ src.finds l broken path,
        e.startByte = (tree.node i).start ∧ e.endByte = (tree.node i).stop :=
      SourceTree.exists_mem_finds_of_not_unmatched hl ht hlinked honce h hp htop htext hq hmatched
    obtain ⟨d, hd, hkey⟩ := SourceTree.exists_mem_definitions he
    obtain ⟨-, hdstart, hdstop, -⟩ := Definition.sameEntity_iff.mp (Definition.key_eq_iff.mp hkey)
    obtain ⟨hkind, hname, -⟩ := hfound d hd (hdstart.trans hstart) (hdstop.trans hstop)
    refine ⟨d, ?_, hkind⟩
    have hnodup : (f.definitions.map Definition.key).Nodup :=
      List.pairwise_map.mpr ((SourceTree.pairwise_key_definitions _ l broken path).imp ne_of_lt)
    -- having the range and the name is having the key of this definition
    refine Eq.trans (List.filter_congr fun x hx => ?_) (filter_key_eq_singleton hnodup hd)
    rw [Bool.eq_iff_iff]
    simp only [Bool.and_eq_true, decide_eq_true_eq]
    rw [Definition.key_eq_iff, Definition.sameEntity_iff, hdstart, hdstop, hstart, hstop, hname]
    constructor
    · rintro ⟨⟨hxstart, hxstop⟩, hxname⟩
      exact ⟨(hfound x hx hxstart hxstop).1.trans hkind.symm, hxstart, hxstop, hxname⟩
    · rintro ⟨-, hxstart, hxstop, hxname⟩
      exact ⟨⟨hxstart, hxstop⟩, hxname⟩

/-! ### A file with three variables -/

namespace ThreeVariables

/-- A variable, an exported variable in a declaration of the other kind, and a generator. -/
def source : String :=
  "let c = 1;\nexport var d = 2;\nconst g = function*() \x7b\x7d;\n"

/-- Its syntax tree. -/
def tree : SyntaxTree := .ofRows
  [⟨"program", true, none, 0, 55, none, []⟩,
   ⟨"lexical_declaration", true, none, 0, 10, some 0, []⟩,
   ⟨"let", false, some "kind", 0, 3, some 1, []⟩,
   ⟨"variable_declarator", true, none, 4, 9, some 1, []⟩,
   ⟨"identifier", true, some "name", 4, 5, some 3, []⟩,
   ⟨"=", false, none, 6, 7, some 3, []⟩,
   ⟨"number", true, some "value", 8, 9, some 3, []⟩,
   ⟨";", false, none, 9, 10, some 1, []⟩,
   ⟨"export_statement", true, none, 11, 28, some 0, []⟩,
   ⟨"export", false, none, 11, 17, some 8, []⟩,
   ⟨"variable_declaration", true, some "declaration", 18, 28, some 8, []⟩,
   ⟨"var", false, none, 18, 21, some 10, []⟩,
   ⟨"variable_declarator", true, none, 22, 27, some 10, []⟩,
   ⟨"identifier", true, some "name", 22, 23, some 12, []⟩,
   ⟨"=", false, none, 24, 25, some 12, []⟩,
   ⟨"number", true, some "value", 26, 27, some 12, []⟩,
   ⟨";", false, none, 27, 28, some 10, []⟩,
   ⟨"lexical_declaration", true, none, 29, 54, some 0, []⟩,
   ⟨"const", false, some "kind", 29, 34, some 17, []⟩,
   ⟨"variable_declarator", true, none, 35, 53, some 17, []⟩,
   ⟨"identifier", true, some "name", 35, 36, some 19, []⟩,
   ⟨"=", false, none, 37, 38, some 19, []⟩,
   ⟨"generator_function", true, some "value", 39, 53, some 19, []⟩,
   ⟨"function", false, none, 39, 47, some 22, []⟩,
   ⟨"*", false, none, 47, 48, some 22, []⟩,
   ⟨"formal_parameters", true, some "parameters", 48, 50, some 22, []⟩,
   ⟨"(", false, none, 48, 49, some 25, []⟩,
   ⟨")", false, none, 49, 50, some 25, []⟩,
   ⟨"statement_block", true, some "body", 51, 53, some 22, []⟩,
   ⟨"\x7b", false, none, 51, 52, some 28, []⟩,
   ⟨"\x7d", false, none, 52, 53, some 28, []⟩,
   ⟨";", false, none, 53, 54, some 17, []⟩] false

/-- The tree with its text. -/
def src : SourceTree :=
  ⟨tree, source.toUTF8⟩

set_option maxRecDepth 2000 in
/-- Its ranges are nested, its children are linked, and its single fields have one child each. -/
theorem wellFormed : tree.Nested ∧ tree.Linked ∧ tree.FieldsOnce .javascript := by
  decide

set_option maxRecDepth 2000 in
/-- The declarators stand at program level, and all but the first one are unmatched. -/
theorem facts :
    (tree.Declarator 3 4 ∧ tree.parent? 3 = some 1 ∧ tree.TopLevel 1 ∧ src.text 4 = "c" ∧
      tree.valueKind? 3 = some "number" ∧ (tree.node 3).start = 4 ∧ (tree.node 3).stop = 9 ∧
      ¬src.Unmatched 3 4 1) ∧
    (tree.Declarator 12 13 ∧ tree.parent? 12 = some 10 ∧ tree.TopLevel 10 ∧ src.text 13 ≠ "" ∧
      (tree.node 12).start = 22 ∧ (tree.node 12).stop = 27 ∧ src.Unmatched 12 13 10) ∧
    tree.Declarator 19 20 ∧ tree.parent? 19 = some 17 ∧ tree.TopLevel 17 ∧ src.text 20 ≠ "" ∧
      (tree.node 19).start = 35 ∧ (tree.node 19).stop = 53 ∧ src.Unmatched 19 20 17 := by
  decide

end ThreeVariables

/-- The first of the three variables is recorded once, as a variable. -/
theorem ParsedFile.declarator_recorded_once :
    let f := extract .javascript [] "a.js" ThreeVariables.source ThreeVariables.tree
    ∃ d, (f.definitions.filter fun d =>
        d.startByte = 4 && d.endByte = 9 && d.name = "c") = [d] ∧ d.kind = .variableDecl := by
  intro f
  obtain ⟨hnested, hlinked, honce⟩ := ThreeVariables.wellFormed
  obtain ⟨⟨h, hp, htop, hc, hvalue, hstart, hstop, hmatched⟩, -⟩ := ThreeVariables.facts
  have hname : SourceTree.text ⟨ThreeVariables.tree, ThreeVariables.source.toUTF8⟩ 4 = "c" := hc
  obtain ⟨-, hrecorded⟩ := declarator_recorded .javascript (by decide) [] (by decide) "a.js"
    ThreeVariables.source hnested hlinked honce 3 4 1 h hp htop (by rw [hname]; decide)
  obtain ⟨d, hfound, hkind⟩ := hrecorded hmatched
  rw [hstart, hstop, hname] at hfound
  rw [hvalue] at hkind
  exact ⟨d, hfound, hkind⟩

/-- The other two declarators stand at program level as well, and no definition has their range. -/
theorem ParsedFile.two_variables_lost :
    let f := extract .javascript [] "a.js" ThreeVariables.source ThreeVariables.tree
    (ThreeVariables.tree.Declarator 12 13 ∧ ThreeVariables.tree.TopLevel 10 ∧
      ∀ d ∈ f.definitions, ¬(d.startByte = 22 ∧ d.endByte = 27)) ∧
    (ThreeVariables.tree.Declarator 19 20 ∧ ThreeVariables.tree.TopLevel 17 ∧
      ∀ d ∈ f.definitions, ¬(d.startByte = 35 ∧ d.endByte = 53)) := by
  intro f
  obtain ⟨hnested, hlinked, honce⟩ := ThreeVariables.wellFormed
  obtain ⟨-, ⟨h, hp, htop, htext, hstart, hstop, hunmatched⟩,
    ⟨h', hp', htop', htext', hstart', hstop', hunmatched'⟩⟩ := ThreeVariables.facts
  have hnone : ∀ {i n p : Nat}, ThreeVariables.tree.Declarator i n →
      ThreeVariables.tree.parent? i = some p → ThreeVariables.tree.TopLevel p →
      ThreeVariables.src.text n ≠ "" → ThreeVariables.src.Unmatched i n p →
      ∀ d ∈ f.definitions, d.startByte = (ThreeVariables.tree.node i).start →
        d.endByte ≠ (ThreeVariables.tree.node i).stop := by
    intro i n p h hp htop htext hunmatched d hd hstart hstop
    have hscript : .javascript ∈ Language.scripts := by decide
    have hnested : ThreeVariables.src.tree.Nested := hnested
    have hmem := SourceTree.mem_finds_of_mem_definitions hd
    exact (SourceTree.of_mem_finds_of_range_eq hscript hnested hlinked honce h hp htop htext hmem
      hstart hstop).2.2 hunmatched
  have hlost := hnone h hp htop htext hunmatched
  have hlost' := hnone h' hp' htop' htext' hunmatched'
  rw [hstart, hstop] at hlost
  rw [hstart', hstop'] at hlost'
  exact ⟨⟨h, htop, fun d hd h => hlost d hd h.1 h.2⟩,
    ⟨h', htop', fun d hd h => hlost' d hd h.1 h.2⟩⟩

end CodeGraph
