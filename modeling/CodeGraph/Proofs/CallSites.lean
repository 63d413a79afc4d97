import CodeGraph.Proofs.Callers
import CodeGraph.Proofs.Grammar
import Mathlib.Data.Finset.Card

/-!
# Which calls have call sites

A call expression names what it calls in one of a few fields of its node, and its receiver stands
beside that name. Where a grammar gives these fields once, a node is matched as one call at most,
however many matches there are.

Call sites are kept by first byte and called name, not by node. Calls that are chained start at the
same byte, since each is part of the receiver of the next one. So of the calls of one name in a
chain only the first one that is matched has a call site, and no other calls are lost.

## Main definitions

* `SyntaxTree.callParts?`: what a call expression calls, and on which receiver.
* `SourceTree.Overtaken`: a call of another node is kept in place of this one.

## Main results

* `SourceTree.callParts?_of_mem_matchedCalls`: a matched call is what the fields of its node say.
* `SourceTree.mem_keptCalls_iff`: the calls with call sites are those that are not overtaken.
* `ParsedFile.calls_recorded`: the call sites of a file, and when they are as many as the calls.
-/

namespace CodeGraph

/-! ### Parts of a call -/

namespace SyntaxTree

variable (t : SyntaxTree)

/-- The child in a field, if it is a named node of a kind. -/
def childOfKind? (i : Nat) (field kind : String) : Option Nat :=
  (t.childByField? i field).filter fun c => (t.node c).named && t.kind c = kind

/-- A plain name that is called has no receiver. -/
def plainCallee? (i : Nat) (field nameKind : String) : Option (Nat × Option Nat) :=
  (t.childOfKind? i field nameKind).map fun callee => (callee, none)

/-- A member that is called has its object for receiver. -/
def memberCallee? (i : Nat) (memberKind nameField nameKind : String) : Option (Nat × Option Nat) :=
  (t.childOfKind? i "function" memberKind).bind fun m =>
    (t.childOfKind? m nameField nameKind).map fun callee => (callee, t.childByField? m "object")

/-- A method that is called has its object for receiver, if there is one. -/
def methodCallee? (i : Nat) : Option (Nat × Option Nat) :=
  (t.childOfKind? i "name" "identifier").map fun callee =>
    (callee, (t.childByField? i "object").filter fun c => (t.node c).named)

/-- The name that a call expression calls, and its receiver. -/
def callParts? : Language → Nat → Option (Nat × Option Nat)
  | .python, i =>
    t.plainCallee? i "function" "identifier"
      <|> t.memberCallee? i "attribute" "attribute" "identifier"
  | .javascript, i | .typescript, i | .tsx, i =>
    if t.kind i = "new_expression" then t.plainCallee? i "constructor" "identifier"
    else t.plainCallee? i "function" "identifier"
      <|> t.memberCallee? i "member_expression" "property" "property_identifier"
  | .java, i =>
    if t.kind i = "method_invocation" then t.methodCallee? i
    else t.plainCallee? i "type" "type_identifier"

variable {t}

/-- A child that a pattern admits is the one in its field. -/
theorem FieldsOnce.childOfKind?_eq {l : Language} (h : t.FieldsOnce l) {i c : Nat}
    {field kind : String} (hfield : (t.kind i, field) ∈ l.singleFields)
    (hi : (t.node i).named = true) (hc : c ∈ t.children i)
    (hadmits : t.Admits (some kind) (some field) c) : t.childOfKind? i field kind = some c := by
  have hchild : t.childByField? i field = some c :=
    h.childByField?_eq hfield (lt_size_of_named hi) hc (hadmits.field field rfl)
  rw [childOfKind?, hchild, Option.filter_some, hadmits.named, hadmits.kind kind rfl]
  simp

/-- A child is found in its field only under its own kind. -/
theorem childOfKind?_eq_none {i c : Nat} {field kind kind' : String}
    (h : t.childOfKind? i field kind = some c) (hne : kind ≠ kind') :
    t.childOfKind? i field kind' = none := by
  obtain ⟨hchild, hc⟩ := Option.filter_eq_some_iff.mp h
  rw [Bool.and_eq_true, decide_eq_true_eq] at hc
  rw [childOfKind?, hchild, Option.filter_some, hc.2]
  simp [hne]

end SyntaxTree

/-! ### Patterns of calls -/

namespace Pattern

variable {t : SyntaxTree} {l : Language} {i : Nat} {captures : List (String × Nat)}

/-- What a pattern for calls captures: the call, its receiver, and what it calls. -/
def callCaptures (i : Nat) (parts : Nat × Option Nat) : List (String × Nat) :=
  ("node", i) :: (parts.2.toList.map fun r => ("receiver", r)) ++ [("callee", parts.1)]

/-- A call of a plain name. -/
theorem of_captures_plainCall (ht : t.FieldsOnce l) {kind field calleeKind : String}
    (hfield : (kind, field) ∈ l.singleFields)
    (h : (plainCall kind field calleeKind).Captures t i captures) :
    t.kind i = kind ∧ ∃ callee, t.childOfKind? i field calleeKind = some callee ∧
      captures = callCaptures i (callee, none) := by
  obtain ⟨hadmits, c, hc, below, hbelow, rfl⟩ := captures_one_iff.mp h
  obtain ⟨hcallee, rfl⟩ := captures_leaf_iff.mp hbelow
  have hkind := hadmits.kind kind rfl
  exact ⟨hkind, c, ht.childOfKind?_eq (hkind.symm ▸ hfield) hadmits.named hc hcallee, rfl⟩

/-- A call of a member. -/
theorem of_captures_memberCall (ht : t.FieldsOnce l)
    {kind memberKind nameField nameKind : String}
    (hfunction : (kind, "function") ∈ l.singleFields)
    (hobject : (memberKind, "object") ∈ l.singleFields)
    (hname : (memberKind, nameField) ∈ l.singleFields)
    (h : (memberCall kind memberKind nameField nameKind).Captures t i captures) :
    t.kind i = kind ∧ ∃ m, t.childOfKind? i "function" memberKind = some m ∧
      ∃ parts, t.memberCallee? i memberKind nameField nameKind = some parts ∧
        captures = callCaptures i parts := by
  obtain ⟨hadmits, m, hm, below, hbelow, rfl⟩ := captures_one_iff.mp h
  obtain ⟨hmember, r, rest, hsuffix, callee, hcallee, _, _, hleft, hright, rfl⟩ :=
    captures_two_iff.mp hbelow
  obtain ⟨hr, rfl⟩ := captures_leaf_iff.mp hleft
  obtain ⟨hc, rfl⟩ := captures_leaf_iff.mp hright
  have hkind := hadmits.kind kind rfl
  have hmkind := hmember.kind memberKind rfl
  have hfound : t.childOfKind? i "function" memberKind = some m :=
    ht.childOfKind?_eq (hkind.symm ▸ hfunction) hadmits.named hm hmember
  have hcalled : t.childOfKind? m nameField nameKind = some callee :=
    ht.childOfKind?_eq (hmkind.symm ▸ hname) hmember.named
      (hsuffix.mem (List.mem_cons_of_mem r hcallee)) hc
  have hreceiver : t.childByField? m "object" = some r :=
    ht.childByField?_eq (hmkind.symm ▸ hobject) (SyntaxTree.lt_size_of_named hmember.named)
      (hsuffix.mem List.mem_cons_self) (hr.field "object" rfl)
  refine ⟨hkind, m, hfound, (callee, some r), ?_, rfl⟩
  rw [SyntaxTree.memberCallee?, hfound, Option.bind_some, hcalled, Option.map_some, hreceiver]

/-- A call of a method, with or without an object. -/
theorem of_captures_methodCall (ht : t.FieldsOnce l)
    (hobject : ("method_invocation", "object") ∈ l.singleFields)
    (hname : ("method_invocation", "name") ∈ l.singleFields)
    (h : Captures t ((node "method_invocation" [
        any.inField "object" |>.ifPresent |>.captured "receiver",
        (node "identifier").inField "name" |>.captured "callee"]).captured "node") i captures) :
    t.kind i = "method_invocation" ∧ ∃ parts, t.methodCallee? i = some parts ∧
      captures = callCaptures i parts := by
  obtain ⟨hadmits, callee, hcallee, _, hright, hleft⟩ := of_captures_ifPresent h
  obtain ⟨hc, rfl⟩ := captures_leaf_iff.mp hright
  have hkind := hadmits.kind "method_invocation" rfl
  have hcalled : t.childOfKind? i "name" "identifier" = some callee :=
    ht.childOfKind?_eq (hkind.symm ▸ hname) hadmits.named hcallee hc
  refine ⟨hkind, ?_⟩
  rw [SyntaxTree.methodCallee?, hcalled, Option.map_some]
  rcases hleft with ⟨r, hr, _, hleft, rfl⟩ | ⟨hnone, rfl⟩
  · obtain ⟨hadmits', rfl⟩ := captures_leaf_iff.mp hleft
    have hreceiver : t.childByField? i "object" = some r :=
      ht.childByField?_eq (hkind.symm ▸ hobject) (SyntaxTree.lt_size_of_named hadmits.named) hr
        (hadmits'.field "object" rfl)
    refine ⟨(callee, some r), ?_, rfl⟩
    rw [hreceiver, Option.filter_some, if_pos hadmits'.named]
  · refine ⟨(callee, none), ?_, rfl⟩
    have hnamed : (t.childByField? i "object").filter (fun c => (t.node c).named) = none := by
      refine Option.filter_eq_none_iff.mpr fun r hr hnamed => ?_
      obtain ⟨hmem, hfield⟩ := List.mem_filter.mp (List.mem_of_head? hr)
      exact hnone r hmem _ (captures_leaf_iff.mpr
        ⟨SyntaxTree.admits_field_iff.mpr ⟨hnamed, of_decide_eq_true hfield⟩, rfl⟩)
    rw [hnamed]

end Pattern

/-- What the query for calls captures is what the fields of a node say. -/
theorem Query.exists_callParts? {l : Language} {q : Query} {src : SourceTree} {m : Match}
    (ht : src.tree.FieldsOnce l) (hq : l.query? .calls = some q) (hm : m ∈ q.run src) :
    ∃ i parts, src.tree.callParts? l i = some parts ∧
      m.captures = Pattern.callCaptures i parts := by
  obtain ⟨p, hp, i, -, h⟩ := exists_captures_of_mem_run hm
  refine ⟨i, ?_⟩
  cases l with
  | python =>
    cases hq
    rcases List.mem_pair.mp hp with rfl | rfl
    · obtain ⟨-, callee, hcallee, hcaptures⟩ := Pattern.of_captures_plainCall ht (by decide) h
      refine ⟨(callee, none), ?_, hcaptures⟩
      rw [SyntaxTree.callParts?, SyntaxTree.plainCallee?, hcallee]
      rfl
    · obtain ⟨-, m, hfunction, parts, hparts, hcaptures⟩ :=
        Pattern.of_captures_memberCall ht (by decide) (by decide) (by decide) h
      refine ⟨parts, ?_, hcaptures⟩
      rw [SyntaxTree.callParts?, SyntaxTree.plainCallee?,
        SyntaxTree.childOfKind?_eq_none hfunction (by decide), hparts]
      rfl
  | javascript | typescript | tsx =>
    cases hq
    rcases List.mem_cons.mp hp with rfl | hp
    · obtain ⟨hkind, callee, hcallee, hcaptures⟩ := Pattern.of_captures_plainCall ht (by decide) h
      refine ⟨(callee, none), ?_, hcaptures⟩
      rw [SyntaxTree.callParts?, hkind, if_neg (by decide), SyntaxTree.plainCallee?, hcallee]
      rfl
    rcases List.mem_pair.mp hp with rfl | rfl
    · obtain ⟨hkind, m, hfunction, parts, hparts, hcaptures⟩ :=
        Pattern.of_captures_memberCall ht (by decide) (by decide) (by decide) h
      refine ⟨parts, ?_, hcaptures⟩
      rw [SyntaxTree.callParts?, hkind, if_neg (by decide), SyntaxTree.plainCallee?,
        SyntaxTree.childOfKind?_eq_none hfunction (by decide), hparts]
      rfl
    · obtain ⟨hkind, callee, hcallee, hcaptures⟩ := Pattern.of_captures_plainCall ht (by decide) h
      refine ⟨(callee, none), ?_, hcaptures⟩
      rw [SyntaxTree.callParts?, if_pos hkind, SyntaxTree.plainCallee?, hcallee]
      rfl
  | java =>
    cases hq
    rcases List.mem_pair.mp hp with rfl | rfl
    · obtain ⟨hkind, parts, hparts, hcaptures⟩ :=
        Pattern.of_captures_methodCall ht (by decide) (by decide) h
      exact ⟨parts, by rw [SyntaxTree.callParts?, if_pos hkind, hparts], hcaptures⟩
    · obtain ⟨hkind, callee, hcallee, hcaptures⟩ := Pattern.of_captures_plainCall ht (by decide) h
      refine ⟨(callee, none), ?_, hcaptures⟩
      rw [SyntaxTree.callParts?, hkind, if_neg (by decide), SyntaxTree.plainCallee?, hcallee]
      rfl

/-! ### Matched calls -/

namespace SourceTree

variable {src : SourceTree} {l : Language} {broken : List BrokenQuery} {path : String}

/-- A call of another node that starts at the same byte under the same name is matched first. -/
def Overtaken (src : SourceTree) (l : Language) (broken : List BrokenQuery) (c : Call) : Prop :=
  ∃ d, (src.matchedCalls l broken).find? (fun d => src.callKey d = src.callKey c) = some d ∧
    d.node ≠ c.node

/-- A match is a call if it captures a name that is not empty. -/
theorem call?_eq {m : Match} {i n : Nat} {r : Option Nat} (hnode : m.node? "node" = some i)
    (hcallee : m.node? "callee" = some n) (hreceiver : m.node? "receiver" = r) :
    src.call? m = if src.text n = "" then none
      else some ⟨i, src.text n, present? (r.map src.text)⟩ := by
  simp only [call?, hnode, hcallee, hreceiver, Option.bind_eq_bind, Option.bind_some]

variable (ht : src.tree.FieldsOnce l)

include ht

/-- A matched call is what the fields of its node say. -/
theorem callParts?_of_mem_matchedCalls {c : Call} (hc : c ∈ src.matchedCalls l broken) :
    ∃ parts, src.tree.callParts? l c.node = some parts ∧ c.name = src.text parts.1 ∧
      c.name ≠ "" ∧ c.receiver = present? (parts.2.map src.text) := by
  obtain ⟨q, m, hq, hm, hcall⟩ := exists_call?_of_mem_matchedCalls hc
  obtain ⟨i, ⟨callee, receiver⟩, hparts, hcaptures⟩ := q.exists_callParts? ht hq hm
  have hnode : m.node? "node" = some i := by
    rw [Match.node?, hcaptures]
    rfl
  have hcallee : m.node? "callee" = some callee := by
    rw [Match.node?, hcaptures]
    cases receiver <;> rfl
  have hreceiver : m.node? "receiver" = receiver := by
    rw [Match.node?, hcaptures]
    cases receiver <;> rfl
  rw [call?_eq hnode hcallee hreceiver, Option.ite_none_left_eq_some, Option.some.injEq] at hcall
  obtain ⟨hname, rfl⟩ := hcall
  exact ⟨(callee, receiver), hparts, rfl, hname, rfl⟩

/-- A node is matched as one call at most. -/
theorem eq_of_mem_matchedCalls {c d : Call} (hc : c ∈ src.matchedCalls l broken)
    (hd : d ∈ src.matchedCalls l broken) (hnode : c.node = d.node) : c = d := by
  obtain ⟨parts, hparts, hname, -, hreceiver⟩ := callParts?_of_mem_matchedCalls ht hc
  obtain ⟨parts', hparts', hname', -, hreceiver'⟩ := callParts?_of_mem_matchedCalls ht hd
  rw [hnode, hparts'] at hparts
  obtain rfl := Option.some.inj hparts
  obtain ⟨node, name, receiver⟩ := c
  obtain ⟨node', name', receiver'⟩ := d
  exact (Call.mk.injEq ..).mpr ⟨hnode, hname.trans hname'.symm, hreceiver.trans hreceiver'.symm⟩

/-- The calls with call sites are those that are not overtaken. -/
theorem mem_keptCalls_iff {c : Call} :
    c ∈ src.keptCalls l broken ↔ c ∈ src.matchedCalls l broken ∧ ¬src.Overtaken l broken c := by
  rw [keptCalls_eq_fresh, mem_fresh_iff_find?]
  constructor
  · rintro ⟨-, hfirst⟩
    refine ⟨List.mem_of_find?_eq_some hfirst, ?_⟩
    rintro ⟨d, hd, hne⟩
    exact hne (congrArg Call.node (Option.some.inj (hd.symm.trans hfirst)))
  · rintro ⟨hc, hnot⟩
    refine ⟨List.not_mem_nil, ?_⟩
    obtain ⟨d, hd⟩ : ∃ d, (src.matchedCalls l broken).find?
        (fun d => src.callKey d = src.callKey c) = some d :=
      Option.isSome_iff_exists.mp (List.find?_isSome.mpr ⟨c, hc, decide_eq_true rfl⟩)
    have hnode : d.node = c.node := by
      by_contra hne
      exact hnot ⟨d, hd, hne⟩
    rw [hd, eq_of_mem_matchedCalls ht (List.mem_of_find?_eq_some hd) hc hnode]

/-- No two calls with call sites are of one node. -/
theorem nodup_node_keptCalls : ((src.keptCalls l broken).map Call.node).Nodup := by
  have hnodup : (src.keptCalls l broken).Nodup := by
    rw [keptCalls_eq_fresh]
    exact (nodup_keys_fresh _ _ _).of_map
  refine hnodup.map_on fun c hc d hd => ?_
  exact eq_of_mem_matchedCalls ht ((mem_keptCalls_iff ht).mp hc).1 ((mem_keptCalls_iff ht).mp hd).1

/-- There are as many calls with call sites as matched nodes exactly if keys tell nodes apart. -/
theorem length_keptCalls_eq_iff :
    (src.keptCalls l broken).length = ((src.matchedCalls l broken).map Call.node).dedup.length ↔
      ∀ c ∈ src.matchedCalls l broken, ∀ d ∈ src.matchedCalls l broken,
        src.callKey c = src.callKey d → c.node = d.node := by
  have hsub : ((src.keptCalls l broken).map Call.node).toFinset ⊆
      ((src.matchedCalls l broken).map Call.node).toFinset := by
    intro i hi
    rw [List.mem_toFinset] at hi ⊢
    obtain ⟨c, hc, rfl⟩ := List.mem_map.mp hi
    exact List.mem_map_of_mem ((mem_keptCalls_iff ht).mp hc).1
  rw [← List.length_map Call.node, ← List.toFinset_card_of_nodup (nodup_node_keptCalls ht),
    ← List.card_toFinset]
  constructor
  · intro hcard c hc d hd hkey
    -- every matched call is kept, and keys tell kept calls apart
    have hkept : ∀ c ∈ src.matchedCalls l broken, c ∈ src.keptCalls l broken := by
      intro c hc
      have hmem : c.node ∈ ((src.keptCalls l broken).map Call.node).toFinset := by
        rw [Finset.eq_of_subset_of_card_le hsub hcard.ge, List.mem_toFinset]
        exact List.mem_map_of_mem hc
      obtain ⟨c', hc', hnode⟩ := List.mem_map.mp (List.mem_toFinset.mp hmem)
      rwa [← eq_of_mem_matchedCalls ht ((mem_keptCalls_iff ht).mp hc').1 hc hnode]
    have hkeys : ((src.keptCalls l broken).map src.callKey).Nodup := by
      rw [keptCalls_eq_fresh]
      exact nodup_keys_fresh _ _ _
    exact congrArg Call.node (List.inj_on_of_nodup_map hkeys (hkept c hc) (hkept d hd) hkey)
  · intro hkey
    refine congrArg Finset.card (hsub.antisymm fun i hi => ?_)
    rw [List.mem_toFinset] at hi ⊢
    obtain ⟨c, hc, rfl⟩ := List.mem_map.mp hi
    refine List.mem_map_of_mem ((mem_keptCalls_iff ht).mpr ⟨hc, ?_⟩)
    rintro ⟨d, hd, hne⟩
    have hfirst : decide (src.callKey d = src.callKey c) = true :=
      List.find?_some (p := fun d => decide (src.callKey d = src.callKey c)) hd
    exact hne (hkey d (List.mem_of_find?_eq_some hd) c hc (of_decide_eq_true hfirst))

end SourceTree

/--
In a syntax tree with one child in each single field, the call sites of a file are those of the
matched calls that are not overtaken, one for each node. Each has the line and the column of its
node, the name in the field of the callee, and the receiver that stands there. So there are as many
call sites as nodes that are matched as calls exactly if no two of these nodes have the same first
byte and the same callee text.
-/
theorem ParsedFile.calls_recorded (l : Language) (broken : List BrokenQuery)
    (path content : String) {tree : SyntaxTree} (ht : tree.FieldsOnce l) :
    let src : SourceTree := ⟨tree, content.toUTF8⟩
    let f := extract l broken path content tree
    let calls := src.matchedCalls l broken
    let site := src.callSite path (src.callers l broken path)
    (∃ kept : List SourceTree.Call, f.callSites.Perm (kept.map site) ∧
      (kept.map SourceTree.Call.node).Nodup ∧
      ∀ c, c ∈ kept ↔ c ∈ calls ∧ ¬src.Overtaken l broken c) ∧
    (∀ c ∈ calls, ∃ callee receiver, tree.callParts? l c.node = some (callee, receiver) ∧
      (site c).line = src.startLine c.node ∧
      (site c).column = src.column (tree.node c.node).start ∧
      (site c).calledName = src.text callee ∧ src.text callee ≠ "" ∧
      (site c).receiver = present? (receiver.map src.text)) ∧
    (f.callSites.length = (calls.map SourceTree.Call.node).dedup.length ↔
      ∀ c ∈ calls, ∀ d ∈ calls, (tree.node c.node).start = (tree.node d.node).start →
        c.name = d.name → c.node = d.node) := by
  intro src f calls site
  have hsites : f.callSites.Perm ((src.keptCalls l broken).map site) := by
    rw [show f.callSites = _ from SourceTree.callSites_eq src l broken path _]
    exact Sorting.sort_perm _ _
  refine ⟨⟨src.keptCalls l broken, hsites, SourceTree.nodup_node_keptCalls ht, fun c =>
    SourceTree.mem_keptCalls_iff ht⟩, fun c hc => ?_, ?_⟩
  · obtain ⟨⟨callee, receiver⟩, hparts, hname, hne, hreceiver⟩ :=
      SourceTree.callParts?_of_mem_matchedCalls ht hc
    exact ⟨callee, receiver, hparts, rfl, rfl, hname, hname ▸ hne, hreceiver⟩
  · rw [hsites.length_eq, List.length_map, SourceTree.length_keptCalls_eq_iff ht]
    simp only [SourceTree.callKey, Prod.mk.injEq, and_imp]
    rfl

/-! ### A chain of calls -/

namespace ChainOfCalls

/-- Two calls of one name, where the first one is the receiver of the second one. -/
def source : String :=
  "x.f().f()"

/-- Its syntax tree. -/
def tree : SyntaxTree := .ofRows
  [⟨"module", true, none, 0, 9, none, []⟩,
   ⟨"expression_statement", true, none, 0, 9, some 0, []⟩,
   ⟨"call", true, none, 0, 9, some 1, []⟩,
   ⟨"attribute", true, some "function", 0, 7, some 2, []⟩,
   ⟨"call", true, some "object", 0, 5, some 3, []⟩,
   ⟨"attribute", true, some "function", 0, 3, some 4, []⟩,
   ⟨"identifier", true, some "object", 0, 1, some 5, []⟩,
   ⟨".", false, none, 1, 2, some 5, []⟩,
   ⟨"identifier", true, some "attribute", 2, 3, some 5, []⟩,
   ⟨"argument_list", true, some "arguments", 3, 5, some 4, []⟩,
   ⟨"(", false, none, 3, 4, some 9, []⟩,
   ⟨")", false, none, 4, 5, some 9, []⟩,
   ⟨".", false, none, 5, 6, some 3, []⟩,
   ⟨"identifier", true, some "attribute", 6, 7, some 3, []⟩,
   ⟨"argument_list", true, some "arguments", 7, 9, some 2, []⟩,
   ⟨"(", false, none, 7, 8, some 14, []⟩,
   ⟨")", false, none, 8, 9, some 14, []⟩] false

/-- The tree with its text. -/
def src : SourceTree :=
  ⟨tree, source.toUTF8⟩

/-- The texts of the calls, which start at one byte. -/
theorem facts :
    tree.FieldsOnce .python ∧
    (src.text 8 = "f" ∧ src.text 13 = "f" ∧ src.text 6 = "x" ∧ src.text 4 = "x.f()") ∧
    (tree.node 4).start = (tree.node 2).start := by
  decide

/-- Both calls are matched, the inner one first. -/
theorem run_eq : ((Language.python.query? .calls).map (·.run src)).getD [] =
    [⟨1, 4, 8, [("node", 4), ("receiver", 6), ("callee", 8)]⟩,
     ⟨1, 2, 13, [("node", 2), ("receiver", 4), ("callee", 13)]⟩] := by
  decide +kernel

/-- They start at the same byte and call the same name. -/
theorem matchedCalls_eq : src.matchedCalls .python [] =
    [⟨4, "f", some "x"⟩, ⟨2, "f", some "x.f()"⟩] := by
  obtain ⟨-, ⟨hinner, houter, hx, hreceiver⟩, -⟩ := facts
  rw [SourceTree.matchedCalls, if_pos (by decide), run_eq]
  have hcall : src.call? ⟨1, 4, 8, [("node", 4), ("receiver", 6), ("callee", 8)]⟩ =
      some ⟨4, "f", some "x"⟩ := by
    rw [SourceTree.call?_eq (r := some 6) rfl rfl rfl, hinner, Option.map_some, hx]
    rfl
  have hcall' : src.call? ⟨1, 2, 13, [("node", 2), ("receiver", 4), ("callee", 13)]⟩ =
      some ⟨2, "f", some "x.f()"⟩ := by
    rw [SourceTree.call?_eq (r := some 4) rfl rfl rfl, houter, Option.map_some, hreceiver]
    rfl
  rw [List.filterMap_cons_some hcall, List.filterMap_cons_some hcall', List.filterMap_nil]

end ChainOfCalls

/-- A chain of two calls of one name has fewer call sites than calls. -/
theorem ParsedFile.calls_recorded_chain :
    let f := extract .python [] "a.py" ChainOfCalls.source ChainOfCalls.tree
    let calls := ChainOfCalls.src.matchedCalls .python []
    f.callSites.length ≠ (calls.map SourceTree.Call.node).dedup.length := by
  intro f calls hlength
  obtain ⟨honce, -, hstart⟩ := ChainOfCalls.facts
  obtain ⟨-, -, hcount⟩ := calls_recorded .python [] "a.py" ChainOfCalls.source honce
  have hcalls : calls = [⟨4, "f", some "x"⟩, ⟨2, "f", some "x.f()"⟩] := ChainOfCalls.matchedCalls_eq
  have hinner : ⟨4, "f", some "x"⟩ ∈ calls := hcalls ▸ List.mem_cons_self
  have houter : ⟨2, "f", some "x.f()"⟩ ∈ calls :=
    hcalls ▸ List.mem_cons_of_mem _ List.mem_cons_self
  have hnode := hcount.mp hlength _ hinner _ houter hstart rfl
  cases hnode

/-- The outer call of a chain has no call site, although two nodes are matched as calls. -/
theorem ParsedFile.outer_call_lost :
    let f := extract .python [] "a.py" ChainOfCalls.source ChainOfCalls.tree
    let calls := ChainOfCalls.src.matchedCalls .python []
    (calls.map SourceTree.Call.node).dedup.length = 2 ∧
      f.callSites.map (fun site => (site.calledName, site.receiver)) = [("f", some "x")] := by
  intro f calls
  constructor
  · rw [show calls = _ from ChainOfCalls.matchedCalls_eq]
    rfl
  · rw [show f.callSites = ChainOfCalls.src.callSites .python [] "a.py" _ from rfl,
      SourceTree.callSites, ChainOfCalls.run_eq]
    decide +kernel

end CodeGraph
