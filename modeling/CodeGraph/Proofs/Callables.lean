import CodeGraph.Proofs.Answers
import CodeGraph.Proofs.Path

/-!
# Callables of one file

Without imports a file is asked for two things: a callable by its name, and a method by its class
and its name. Both answers are sorted by position, and sorting keeps the order of arrival of what
starts at the same byte.

What a file holds under a name is therefore the first one, by position, of the callables of that
name outside classes. A function inside a function stands outside classes too. It is taken for the
definition of the module whenever it starts before that.

Methods are looked up by their qualified name in a trie that all files share. Other files may have
the same module path, and a function of a nested module the same qualified name as a method; still
the answer is what a scan of the file would give.

## Main definitions

* `Definition.Inside`, `Definition.IsNested`: a definition lies inside a callable of its file.
* `Definition.Ahead`: the order of position and arrival.
* `IsSegment`: a name of one segment.

## Main results

* `Symbols.ahead_of_held?`: what a file holds is ahead of all others of the name.
* `Symbols.lookup_of_ahead`: what is ahead of all others of the name is found.
* `Symbols.lookup_outermost`: a look-up prefers what is not nested, unless a nested one is ahead.
* `nameSegments_qualifiedName`: the segments of a qualified name.
* `Symbols.methodsOf_eq_scan`: look-up of methods through the trie is a scan of the file.
-/

namespace CodeGraph

/-! ### Sorting -/

/-- The first item that passes a test stands before all others that pass it. -/
theorem idxOf_lt_of_filter_eq_cons {α : Type} [DecidableEq α] {p : α → Bool} {l rest : List α}
    {a b : α} (h : l.filter p = a :: rest) (hb : b ∈ l) (hp : p b = true) (hne : b ≠ a) :
    l.idxOf a < l.idxOf b := by
  obtain ⟨front, back, rfl, hfront, hpa, -⟩ := List.filter_eq_cons_iff.mp h
  have ha : a ∉ front := fun hmem => hfront a hmem hpa
  have hb : b ∉ front := fun hmem => hfront b hmem hp
  rw [List.idxOf_append_of_notMem ha, List.idxOf_append_of_notMem hb, List.idxOf_cons_self,
    List.idxOf_cons_ne _ (Ne.symm hne)]
  omega

/-! ### Nested definitions -/

namespace Definition

/-- A definition lies strictly inside another one: it covers a part of the other's bytes. -/
def Inside (d e : Definition) : Prop :=
  e.startByte ≤ d.startByte ∧ d.endByte ≤ e.endByte ∧
    (d.startByte, d.endByte) ≠ (e.startByte, e.endByte)

instance : DecidableRel Inside :=
  fun _ _ => inferInstanceAs (Decidable (_ ∧ _ ∧ _))

/-- A definition lies strictly inside a function, a method or a class of its file. -/
def IsNested (ds : List Definition) (d : Definition) : Prop :=
  ∃ e ∈ ds, e.filePath = d.filePath ∧ e.kind.isCallable = true ∧ d.Inside e

instance (ds : List Definition) : DecidablePred (IsNested ds) :=
  fun _ => inferInstanceAs (Decidable (∃ e ∈ ds, _))

/-- A definition starts before another one, or starts with it and arrived before it. -/
def Ahead (ds : List Definition) (d e : Definition) : Prop :=
  d.startByte < e.startByte ∨ d.startByte = e.startByte ∧ ds.idxOf d < ds.idxOf e

instance (ds : List Definition) : DecidableRel (Ahead ds) :=
  fun _ _ => inferInstanceAs (Decidable (_ ∨ _))

/-- Of two definitions only one is ahead. -/
theorem Ahead.asymm {ds : List Definition} {d e : Definition} (h : Ahead ds d e) :
    ¬Ahead ds e d := by
  unfold Ahead at h ⊢
  omega

end Definition

namespace Symbols

variable {s : Symbols} {ds : List Definition}

theorem callableLe_trans (a b c : Definition) (hab : callableLe a b = true)
    (hbc : callableLe b c = true) : callableLe a c = true := by
  unfold callableLe at *
  cases ha : a.parentClass <;> cases hb : b.parentClass <;> cases hc : c.parentClass <;>
    simp_all
  all_goals omega

theorem callableLe_total (a b : Definition) : (callableLe a b || callableLe b a) = true := by
  unfold callableLe
  cases ha : a.parentClass <;> cases hb : b.parentClass <;> simp
  all_goals omega

/-- Outside classes callables are sorted by where they start. -/
theorem startByte_le_of_callableLe {a b : Definition} (ha : a.parentClass = none)
    (hb : b.parentClass = none) : callableLe a b = true ↔ a.startByte ≤ b.startByte := by
  simp [callableLe, ha, hb]

/-! ### What a file holds -/

instance (p : Place) : DecidablePred p.Names := fun _ =>
  match p with
  | ⟨_, .named _⟩ => inferInstanceAs (Decidable (_ ∧ _ ∧ _ ∧ _))
  | ⟨_, .default⟩ => inferInstanceAs (Decidable (_ ∧ _ ∧ _))

/-- A file holds a callable of every name that it has one for outside classes. -/
theorem exists_held?_named (hlists : s.registry.Lists ds) {path name : String} {d : Definition}
    (hd : d ∈ ds) (hnames : (⟨path, .named name⟩ : Place).Names d) :
    ∃ found, s.held? path (.named name) = some found := by
  obtain ⟨hpath, hcallable, hname, houtside⟩ := hnames
  have hmem : d ∈ (s.callables path name).filter (·.parentClass.isNone) := by
    rw [List.mem_filter, callables, Sorting.mem_sort, List.mem_filter, hlists.namedIn,
      List.mem_filter]
    exact ⟨⟨⟨hd, decide_eq_true ⟨hpath, hname⟩⟩, hcallable⟩, Option.isNone_iff_eq_none.mpr houtside⟩
  exact Option.isSome_iff_exists.mp (List.isSome_head?.mpr (List.ne_nil_of_mem hmem))

/-- The callables outside classes that start at one byte are in order of arrival. -/
theorem filter_callables_startByte (hlists : s.registry.Lists ds) (path name : String)
    (start : Int) :
    ((s.callables path name).filter (·.parentClass.isNone)).filter (·.startByte = start) =
      ds.filter fun d => (⟨path, .named name⟩ : Place).Names d ∧ d.startByte = start := by
  have htied : ∀ a b : Definition,
      (decide (a.startByte = start) && a.parentClass.isNone) = true →
      (decide (b.startByte = start) && b.parentClass.isNone) = true → callableLe a b = true := by
    intro a b ha hb
    simp only [Bool.and_eq_true, decide_eq_true_iff, Option.isNone_iff_eq_none] at ha hb
    exact (startByte_le_of_callableLe ha.2 hb.2).mpr (Int.le_of_eq (ha.1.trans hb.1.symm))
  rw [List.filter_filter, callables, Sorting.filter_sort callableLe_trans callableLe_total _ htied,
    hlists.namedIn, List.filter_filter, List.filter_filter]
  refine List.filter_congr fun d _ => ?_
  refine Bool.eq_iff_iff.mpr (Iff.trans ?_ decide_eq_true_iff.symm)
  simp only [Bool.and_eq_true, decide_eq_true_iff, Option.isNone_iff_eq_none, Place.Names]
  tauto

/-- What a file holds under a name is ahead of all others that it has for the name. -/
theorem ahead_of_held? (hlists : s.registry.Lists ds) {path name : String} {found : Definition}
    (h : s.held? path (.named name) = some found) {d : Definition} (hd : d ∈ ds)
    (hnames : (⟨path, .named name⟩ : Place).Names d) (hne : d ≠ found) : found.Ahead ds d := by
  obtain ⟨rest, hsorted⟩ := List.head?_eq_some_iff.mp h
  obtain ⟨-, hfound⟩ := names_of_held? (p := ⟨path, .named name⟩) hlists h
  have hpairwise : (found :: rest).Pairwise fun a b => callableLe a b = true :=
    hsorted ▸ (Sorting.pairwise_sort callableLe_trans callableLe_total _).filter _
  have hstart := filter_callables_startByte hlists path name
  have hle : found.startByte ≤ d.startByte := by
    have hmem : d ∈ (found :: rest).filter (·.startByte = d.startByte) := by
      rw [← hsorted, hstart, List.mem_filter]
      exact ⟨hd, decide_eq_true ⟨hnames, rfl⟩⟩
    have hrest := (List.mem_cons.mp (List.mem_of_mem_filter hmem)).resolve_left hne
    exact (startByte_le_of_callableLe hfound.2.2.2 hnames.2.2.2).mp
      (List.rel_of_pairwise_cons hpairwise hrest)
  rcases Int.lt_or_eq_of_le hle with hlt | heq
  · exact .inl hlt
  · -- the first of those that start together was also the first of them to arrive
    have hfirst := hstart found.startByte
    rw [hsorted, List.filter_cons, if_pos (decide_eq_true rfl)] at hfirst
    exact .inr ⟨heq, idxOf_lt_of_filter_eq_cons hfirst.symm hd
      (decide_eq_true ⟨hnames, heq.symm⟩) hne⟩

/-- What a file itself holds is found there, within any number of hops. -/
theorem lookup_of_held? {path : String} {e : Export} {d : Definition}
    (h : s.held? path e = some d) (limit : Nat) : s.lookup limit path e = some d := by
  rw [lookup, search_of_held (p := ⟨path, e⟩) List.not_mem_nil h]

/-- The callable outside classes that is ahead of all others is found. -/
theorem lookup_of_ahead (hlists : s.registry.Lists ds) {path name : String} {d : Definition}
    (hd : d ∈ ds) (hnames : (⟨path, .named name⟩ : Place).Names d)
    (hahead : ∀ e ∈ ds, (⟨path, .named name⟩ : Place).Names e → e ≠ d → d.Ahead ds e)
    (limit : Nat) : s.lookup limit path (.named name) = some d := by
  obtain ⟨found, hheld⟩ := exists_held?_named hlists hd hnames
  obtain ⟨hfound, hfoundNames⟩ := names_of_held? (p := ⟨path, .named name⟩) hlists hheld
  by_cases heq : d = found
  · exact heq ▸ lookup_of_held? hheld limit
  · have hfirst := hahead found hfound hfoundNames (Ne.symm heq)
    exact absurd (ahead_of_held? hlists hheld hd hnames heq) hfirst.asymm

/--
If a file has a callable of a name that stands outside classes and is not nested, then looking the
name up in the file finds one outside classes, within any number of hops: the one that is ahead of
all others. It is not nested itself, with one exception: some nested one is ahead of all that are
not nested.
-/
theorem lookup_outermost (arrivals : List Registry.Arrival) (imports : ImportMap) (limit : Nat)
    (path name : String) :
    let ds := arrivals.filterMap Registry.Arrival.definition?
    let s : Symbols := ⟨arrivals.foldl Registry.receive Registry.empty, imports⟩
    let place : Place := ⟨path, .named name⟩
    (∃ d ∈ ds, place.Names d ∧ ¬d.IsNested ds) →
    ∃ found ∈ ds, s.lookup limit path (.named name) = some found ∧ place.Names found ∧
      (∀ d ∈ ds, place.Names d → d ≠ found → found.Ahead ds d) ∧
      (found.IsNested ds ↔ ∃ n ∈ ds, place.Names n ∧ n.IsNested ds ∧
        ∀ d ∈ ds, place.Names d → ¬d.IsNested ds → n.Ahead ds d) := by
  rintro ds s place ⟨d, hd, hnames, houtermost⟩
  have hlists : s.registry.Lists ds := Registry.Lists.empty.foldl_receive arrivals
  obtain ⟨found, hheld⟩ := exists_held?_named hlists hd hnames
  obtain ⟨hfound, hfoundNames⟩ := names_of_held? (p := place) hlists hheld
  have hahead : ∀ d ∈ ds, place.Names d → d ≠ found → found.Ahead ds d :=
    fun d hd hnames => ahead_of_held? hlists hheld hd hnames
  refine ⟨found, hfound, lookup_of_held? hheld limit, hfoundNames, hahead, fun hnested => ?_, ?_⟩
  · refine ⟨found, hfound, hfoundNames, hnested, fun e he hnames hnot => hahead e he hnames ?_⟩
    rintro rfl
    exact hnot hnested
  · rintro ⟨n, hn, hnNames, hnNested, hfirst⟩
    by_contra hnot
    -- the nested one and the one found would be ahead of each other
    have hne : n ≠ found := by
      rintro rfl
      exact hnot hnNested
    exact (hahead n hn hnNames hne).asymm (hfirst found hfound hfoundNames hnot)

namespace NestedCallables

/-- A function of the file `m.py`. -/
def function (name : String) (start stop : Int) : Definition :=
  { nodeId := ""
    qualifiedName := qualifiedName "m.py" name none
    filePath := "m.py"
    name
    kind := .functionDecl
    startLine := 1
    endLine := 1
    startByte := start
    endByte := stop }

/-- Some functions, registered in order. -/
def symbols (ds : List Definition) : Symbols :=
  ⟨(ds.map Registry.Arrival.definition).foldl Registry.receive Registry.empty, ∅⟩

/-- A nested function arrives first but starts last: the other one is found. -/
theorem lookup_outermost_before_nested :
    let ds := [function "n" 36 57, function "outer" 19 57, function "n" 0 16]
    (∃ d ∈ ds, (⟨"m.py", .named "n"⟩ : Place).Names d ∧ ¬d.IsNested ds) ∧
      (symbols ds).lookup 5 "m.py" (.named "n") = some (function "n" 0 16) := by
  intro ds
  have houtermost : ∃ d ∈ ds, (⟨"m.py", .named "n"⟩ : Place).Names d ∧ ¬d.IsNested ds := by
    decide
  obtain ⟨found, hfound, hlookup, hnames, -, hnested⟩ :=
    lookup_outermost (ds.map Registry.Arrival.definition) ∅ 5 "m.py" "n" houtermost
  have hnot : ¬found.IsNested ds := fun h => absurd (hnested.mp h) (by decide)
  have honly : ∀ d ∈ ds, (⟨"m.py", .named "n"⟩ : Place).Names d → ¬d.IsNested ds →
      d = function "n" 0 16 := by
    decide
  exact ⟨houtermost, honly found hfound hnames hnot ▸ hlookup⟩

/-- A nested function starts first: it is found, though the file has one that is not nested. -/
theorem lookup_nested :
    let ds := [function "outer" 0 38, function "n" 17 38, function "n" 41 58]
    function "n" 41 58 ∈ ds ∧ (⟨"m.py", .named "n"⟩ : Place).Names (function "n" 41 58) ∧
      ¬(function "n" 41 58).IsNested ds ∧
      (symbols ds).lookup 5 "m.py" (.named "n") = some (function "n" 17 38) ∧
      (function "n" 17 38).IsNested ds := by
  intro ds
  have hlists : (symbols ds).registry.Lists ds :=
    Registry.Lists.empty.foldl_receive (ds.map Registry.Arrival.definition)
  have hlookup : (symbols ds).lookup 5 "m.py" (.named "n") = some (function "n" 17 38) :=
    lookup_of_ahead hlists (by decide) (by decide) (by decide) 5
  exact ⟨by decide, by decide, by decide, hlookup, by decide⟩

end NestedCallables

end Symbols

/-! ### Segments of qualified names -/

/-- A name of one segment. -/
def IsSegment (name : String) : Prop :=
  name ≠ "" ∧ '.' ∉ name.toList

instance : DecidablePred IsSegment :=
  fun _ => inferInstanceAs (Decidable (_ ∧ _))

/-- Such a name is its only segment. -/
theorem IsSegment.nameSegments_eq {name : String} (h : IsSegment name) :
    nameSegments name = [name] := by
  rw [nameSegments, Text.segments, Text.split_of_notMem h.2, List.filter_cons,
    if_pos (decide_eq_true h.1), List.filter_nil]

/-- The segments of parts that are joined by dots follow each other. -/
theorem nameSegments_join (parts : List String) :
    nameSegments (Text.join "." parts) = parts.flatMap nameSegments := by
  induction parts with
  | nil => rfl
  | cons x parts ih =>
    rw [List.flatMap_cons, ← ih]
    cases parts with
    | nil => rw [Text.join_singleton, ih, List.flatMap_nil, List.append_nil]
    | cons y parts =>
      rw [Text.join_cons_of_ne_nil "." x (List.cons_ne_nil y parts), nameSegments, Text.segments,
        Text.split_append rfl, List.filter_append]
      rfl

/-- A qualified name has the segments of the module path, the class and the name. -/
theorem nameSegments_qualifiedName (path name : String) (parentClass : Option String) :
    nameSegments (qualifiedName path name parentClass) =
      nameSegments (modulePath path) ++ nameSegments (parentClass.getD "") ++
        nameSegments name := by
  -- parts that are left out have no segments
  have hfilter : ∀ parts : List String,
      (parts.filter (· ≠ "")).flatMap nameSegments = parts.flatMap nameSegments := by
    intro parts
    induction parts with
    | nil => rfl
    | cons x parts ih =>
      by_cases hx : x = ""
      · subst hx
        exact ih
      · rw [List.filter_cons, if_pos (decide_eq_true hx), List.flatMap_cons, ih, List.flatMap_cons]
  rw [qualifiedName, nameSegments_join, hfilter]
  simp

/-- A definition stands under its qualified name, and its names have one segment each. -/
def Definition.IsPlaced (d : Definition) : Prop :=
  d.qualifiedName = CodeGraph.qualifiedName d.filePath d.name d.parentClass ∧ IsSegment d.name ∧
    ∀ c ∈ d.parentClass, IsSegment c

instance : DecidablePred Definition.IsPlaced :=
  fun d => inferInstanceAs (Decidable (_ ∧ _ ∧ ∀ c ∈ d.parentClass, _))

/-- In its own file a method is told by the segments of its qualified name. -/
theorem Definition.IsPlaced.nameSegments_eq_iff {d : Definition} (h : d.IsPlaced)
    {className name : String} (hclass : IsSegment className) (hname : IsSegment name) :
    nameSegments d.qualifiedName =
        nameSegments (CodeGraph.qualifiedName d.filePath name (some className)) ↔
      d.parentClass = some className ∧ d.name = name := by
  obtain ⟨hqualified, hown, hparent⟩ := h
  rw [hqualified, nameSegments_qualifiedName, nameSegments_qualifiedName, Option.getD_some,
    hclass.nameSegments_eq, hname.nameSegments_eq, hown.nameSegments_eq, List.append_assoc,
    List.append_assoc, List.append_cancel_left_eq]
  cases hd : d.parentClass with
  | none =>
    -- a class is one segment more
    have hempty : nameSegments "" = [] := rfl
    simp [hempty]
  | some c =>
    rw [Option.getD_some, (hparent c hd).nameSegments_eq]
    simp

namespace Symbols

/--
If all definitions stand under their qualified names, and classes and names have one segment each,
then the methods of a class are found as by a scan of the file: those callables of the file that
have the class and the name, sorted by position, in order of arrival where they start together. It
does not matter what else stands under the same qualified name.
-/
theorem methodsOf_eq_scan (arrivals : List Registry.Arrival) (imports : ImportMap)
    (hplaced : ∀ d ∈ arrivals.filterMap Registry.Arrival.definition?, d.IsPlaced) (path : String)
    {className name : String} (hclass : IsSegment className) (hname : IsSegment name) :
    let s : Symbols := ⟨arrivals.foldl Registry.receive Registry.empty, imports⟩
    let methods := (arrivals.filterMap Registry.Arrival.definition?).filter fun d =>
      d.filePath = path ∧ d.kind.isCallable ∧ d.parentClass = some className ∧ d.name = name
    s.methodsOf path className name = methods.mergeSort (fun a b => a.startByte ≤ b.startByte) ∧
      (s.methodsOf path className name).Pairwise (fun a b => a.startByte ≤ b.startByte) ∧
      ∀ start, (s.methodsOf path className name).filter (·.startByte = start) =
        methods.filter (·.startByte = start) := by
  intro s methods
  have hlists : s.registry.Lists (arrivals.filterMap Registry.Arrival.definition?) :=
    Registry.Lists.empty.foldl_receive arrivals
  have hscan : s.methodsOf path className name =
      Sorting.sort (fun a b => decide (a.startByte ≤ b.startByte)) methods := by
    rw [methodsOf, hlists.qualified, List.filter_filter]
    refine congrArg (Sorting.sort _) (List.filter_congr fun d hd => ?_)
    rw [Bool.eq_iff_iff]
    simp only [Bool.and_eq_true, decide_eq_true_iff]
    constructor
    · rintro ⟨⟨rfl, hcallable⟩, hsegments⟩
      exact ⟨rfl, hcallable, ((hplaced d hd).nameSegments_eq_iff hclass hname).mp hsegments⟩
    · rintro ⟨rfl, hcallable, hmethod⟩
      exact ⟨⟨rfl, hcallable⟩, ((hplaced d hd).nameSegments_eq_iff hclass hname).mpr hmethod⟩
  rw [hscan]
  exact Sorting.sort_key Definition.startByte methods

namespace CollidingNames

/-- A definition under its qualified name. -/
def definition (path name : String) (parentClass : Option String) (kind : DefinitionKind)
    (start : Int) : Definition :=
  { nodeId := ""
    qualifiedName := qualifiedName path name parentClass
    filePath := path
    name
    kind
    parentClass
    startLine := 1
    endLine := 1
    startByte := start }

/-- Two methods of a class, and three other definitions under the same qualified name. -/
def definitions : List Definition :=
  [definition "a/b.py" "m" (some "C") .methodDecl 50,
    definition "a/b.pyi" "m" (some "C") .methodDecl 10,
    definition "a/b/C.py" "m" none .functionDecl 0,
    definition "a/b.py" "m" (some "C") .variableDecl 30,
    definition "a/b.py" "m" (some "C") .methodDecl 20]

/-- Only the two methods of the class in the file are found, by position. -/
theorem methodsOf_eq_scan_colliding :
    (∀ d ∈ definitions, d.IsPlaced) ∧ IsSegment "C" ∧ IsSegment "m" ∧
      (∀ d ∈ definitions, nameSegments d.qualifiedName = ["a", "b", "C", "m"]) ∧
      Symbols.methodsOf
          ⟨(definitions.map Registry.Arrival.definition).foldl Registry.receive .empty, ∅⟩
          "a/b.py" "C" "m" =
        [definition "a/b.py" "m" (some "C") .methodDecl 20,
          definition "a/b.py" "m" (some "C") .methodDecl 50] := by
  have hplaced : ∀ d ∈ definitions, d.IsPlaced := by decide
  have hclass : IsSegment "C" := by decide
  have hname : IsSegment "m" := by decide
  have hsegments : ∀ d ∈ definitions, nameSegments d.qualifiedName = ["a", "b", "C", "m"] := by
    decide
  obtain ⟨hscan, -⟩ := methodsOf_eq_scan (definitions.map Registry.Arrival.definition) ∅
    hplaced "a/b.py" hclass hname
  have hmethods : (definitions.filter fun d => d.filePath = "a/b.py" ∧ d.kind.isCallable ∧
      d.parentClass = some "C" ∧ d.name = "m") =
      [definition "a/b.py" "m" (some "C") .methodDecl 50,
        definition "a/b.py" "m" (some "C") .methodDecl 20] := by
    decide
  refine ⟨hplaced, hclass, hname, hsegments, hscan.trans ?_⟩
  refine (congrArg (List.mergeSort · _) hmethods).trans ?_
  simp [List.mergeSort, definition]

end CollidingNames

end Symbols

end CodeGraph
