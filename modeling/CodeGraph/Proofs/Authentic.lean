import CodeGraph.Manifest
import CodeGraph.Proofs.Fresh
import CodeGraph.Proofs.Innermost
import CodeGraph.Proofs.Lines
import CodeGraph.Proofs.Sorting

/-!
# What parse results say about their file

Everything that extraction and harvesting find carries the path of its file and the identifier that
its own kind, path, name and span determine; the caller of a call site is a definition of the same
file.

## Main definitions

* `Definition.Authentic`: a definition belongs to a path and has its derived identifier.
* `SourceTree.DefinedBy`: all that a query finds, with the match behind it.
* `SourceTree.keptCalls`: the calls that have call sites.
* `ParsedFile.Authentic`: all definitions and call sites of a file belong to it.
* `Manifest.Harvested`: a definition stands for a line of a configuration file.

## Main results

* `SourceTree.mem_definitions_cases`: what the definitions of a syntax tree are read off.
* `SourceTree.mem_callSites`: the call sites of a syntax tree are those of the kept calls.
* `ParsedFile.authentic_extract`: what is extracted from a syntax tree is authentic.
* `Manifest.harvested_of_harvest`: what is harvested from a configuration file stands for its lines.
-/

namespace CodeGraph

/-- A computation succeeds exactly if its two parts do. -/
theorem Except.bind_eq_ok_iff {ε α β : Type} {x : Except ε α} {f : α → Except ε β} {b : β} :
    (x >>= f) = .ok b ↔ ∃ a, x = .ok a ∧ f a = .ok b := by
  cases x with
  | error err => simp [bind, Except.bind]
  | ok a => simp [bind, Except.bind]

/-- A computation that succeeds has a result. -/
theorem Except.exists_eq_ok_of_toBool {ε α : Type} {x : Except ε α} (h : x.toBool = true) :
    ∃ a, x = .ok a := by
  cases x with
  | error err => cases h
  | ok a => exact ⟨a, rfl⟩

/-- What a successful traversal gives comes from its items. -/
theorem Except.exists_of_mem_mapM {ε α β : Type} {f : α → Except ε β} {as : List α} {bs : List β}
    (h : as.mapM f = .ok bs) {b : β} (hb : b ∈ bs) : ∃ a ∈ as, f a = .ok b := by
  induction as generalizing bs with
  | nil =>
    cases h
    cases hb
  | cons a as ih =>
    rw [List.mapM_cons] at h
    obtain ⟨b', hb', h⟩ := Except.bind_eq_ok_iff.mp h
    obtain ⟨bs', hbs', h⟩ := Except.bind_eq_ok_iff.mp h
    cases h
    rcases List.mem_cons.mp hb with rfl | hmem
    · exact ⟨a, List.mem_cons_self, hb'⟩
    · obtain ⟨a', ha', hfa'⟩ := ih hbs' hmem
      exact ⟨a', List.mem_cons_of_mem a ha', hfa'⟩

/-! ### Definitions -/

/-- A definition belongs to a path and has the identifier derived from its kind, name and span. -/
structure Definition.Authentic (path : String) (d : Definition) : Prop where
  filePath : d.filePath = path
  nodeId : d.nodeId = Identifier.digest d.idSource

/-- An identifier does not depend on the one that was there before. -/
theorem Definition.idSource_identified (d : Definition) :
    d.identified.idSource = d.idSource := by
  simp only [Definition.idSource, Definition.identified]

/-- A definition under its derived identifier is authentic. -/
theorem Definition.authentic_identified {path : String} {d : Definition} (h : d.filePath = path) :
    d.identified.Authentic path := by
  constructor
  · simpa only [Definition.identified] using h
  · rw [Definition.idSource_identified]
    simp only [Definition.identified]

/-- The first definition of each entity is the first one of each key that tells entities apart. -/
theorem Definition.distinct_eq_fresh {κ : Type} [DecidableEq κ] {key : Definition → κ}
    (hkey : ∀ d e : Definition, key d = key e ↔ d.sameEntity e = true) (ds : List Definition) :
    Definition.distinct ds = fresh key [] ds :=
  foldl_append_eq_fresh (fun d e => (hkey d e).symm) [] ds

/-- Dropping repeated entities adds none. -/
theorem Definition.mem_of_mem_distinct {ds : List Definition} {d : Definition}
    (h : d ∈ Definition.distinct ds) : d ∈ ds := by
  have hkey : ∀ d e : Definition, (d.kind, d.startByte, d.endByte, d.name) =
      (e.kind, e.startByte, e.endByte, e.name) ↔ d.sameEntity e = true := by
    simp [Definition.sameEntity, and_assoc]
  rw [Definition.distinct_eq_fresh hkey] at h
  exact (mem_of_mem_fresh h).1

namespace SourceTree

variable {src : SourceTree} {l : Language} {path : String}

/-- What a declaration takes from its match, from the node of the match and from around it. -/
theorem exists_of_declaration? {kind : DefinitionKind} {m : Match} {d : Definition}
    (h : src.declaration? l path kind m = some d) :
    ∃ i, m.node? "node" = some i ∧ src.entityName? kind m i = some d.name ∧
      src.isFunctionVariable kind i = false ∧
      d.kind = src.kindInside kind (src.enclosingClass? l i) i ∧
      d.parentClass = src.enclosingClass? l i ∧
      d.startByte = (src.tree.node i).start ∧ d.endByte = (src.tree.node i).stop := by
  obtain ⟨i, hi, h⟩ := Option.bind_eq_some_iff.mp h
  obtain ⟨name, hname, h⟩ := Option.bind_eq_some_iff.mp h
  obtain ⟨hvariable, h⟩ := Option.ite_none_left_eq_some.mp h
  obtain rfl := Option.some.inj h
  exact ⟨i, hi, hname, Bool.eq_false_iff.mpr hvariable, rfl, rfl, rfl, rfl⟩

/-- Inside a class a kind stays as it is, or functions and methods take each other's place. -/
theorem kindInside_cases (kind : DefinitionKind) (parentClass : Option String) (i : Nat) :
    src.kindInside kind parentClass i = kind ∨
      kind = .functionDecl ∧ src.kindInside kind parentClass i = .methodDecl ∨
      kind = .methodDecl ∧ src.kindInside kind parentClass i = .functionDecl := by
  unfold kindInside
  split
  · next h =>
    simp only [Bool.and_eq_true, decide_eq_true_eq] at h
    exact .inr (.inl ⟨h.1.1, rfl⟩)
  · split
    · next h =>
      simp only [Bool.and_eq_true, decide_eq_true_eq] at h
      exact .inr (.inr ⟨h.1, rfl⟩)
    · exact .inl rfl

/-- A declaration of another kind is no import. -/
theorem kind_ne_of_declaration? {kind : DefinitionKind} {m : Match} {d : Definition}
    (hkind : kind ≠ .importDecl) (h : src.declaration? l path kind m = some d) :
    d.kind ≠ .importDecl := by
  obtain ⟨i, -, -, -, hd, -⟩ := exists_of_declaration? h
  rw [hd]
  rcases src.kindInside_cases kind (src.enclosingClass? l i) i with heq | ⟨-, heq⟩ | ⟨-, heq⟩
  · rwa [heq]
  · simp [heq]
  · simp [heq]

/-- The definition of a match is authentic. -/
theorem authentic_of_declaration? {kind : DefinitionKind} {m : Match} {d : Definition}
    (h : src.declaration? l path kind m = some d) : d.Authentic path := by
  unfold declaration? at h
  obtain ⟨i, -, h⟩ := Option.bind_eq_some_iff.mp h
  obtain ⟨name, -, h⟩ := Option.bind_eq_some_iff.mp h
  split at h
  · cases h
  · rw [← Option.some.inj h]
    exact Definition.authentic_identified rfl

/-- All that a query finds, each with the match behind it. -/
inductive DefinedBy (src : SourceTree) (l : Language) (path : String) (name : QueryName)
    (q : Query) : Definition → Prop where
  | declared {kind : DefinitionKind} {m : Match} {d : Definition}
      (hkind : name.definitionKind? = some kind) (hm : m ∈ q.run src)
      (hd : src.declaration? l path kind m = some d) : DefinedBy src l path name q d
  | imported {m : Match} {i : Nat} {spec : ImportSpec} (hname : name ≠ .calls)
      (hkind : name.definitionKind? = none) (hm : m ∈ q.run src) (hi : m.node? "node" = some i)
      (hspec : spec ∈ src.imports l name m i) :
      DefinedBy src l path name q (src.importDefinition l path i spec)

/-- There is no other way for a query to find something. -/
theorem definedBy_of_mem_definitionsOf {name : QueryName} {q : Query} {d : Definition}
    (h : d ∈ src.definitionsOf l path name q) : src.DefinedBy l path name q d := by
  unfold definitionsOf at h
  split at h
  · cases h
  · next hname =>
    split at h
    · next kind hkind =>
      obtain ⟨m, hm, hd⟩ := List.mem_filterMap.mp h
      exact .declared hkind hm hd
    · next hkind =>
      obtain ⟨m, hm, himport⟩ := List.mem_flatMap.mp h
      unfold importDefinitions at himport
      split at himport
      · next i hi =>
        obtain ⟨spec, hspec, rfl⟩ := List.mem_map.mp himport
        exact .imported hname hkind hm hi hspec
      · cases himport

/-- A definition is read off a declaration, which is no import, or stands for an import. -/
theorem mem_definitions_cases {broken : List BrokenQuery} {d : Definition}
    (h : d ∈ src.definitions l broken path) :
    (∃ kind m, kind ≠ .importDecl ∧ src.declaration? l path kind m = some d) ∨
      ∃ i spec, d = src.importDefinition l path i spec := by
  have hmem := Definition.mem_of_mem_distinct (Sorting.mem_sort.mp h)
  obtain ⟨⟨name, q⟩, -, hq⟩ := List.mem_flatMap.mp hmem
  cases definedBy_of_mem_definitionsOf hq with
  | @declared kind m _ hkind hm hd =>
    refine .inl ⟨kind, m, ?_, hd⟩
    rintro rfl
    cases name <;> cases hkind
  | imported => exact .inr ⟨_, _, rfl⟩

/-- The definitions of a file are authentic. -/
theorem authentic_of_mem_definitions {broken : List BrokenQuery} {d : Definition}
    (h : d ∈ src.definitions l broken path) : d.Authentic path := by
  rcases mem_definitions_cases h with ⟨kind, m, -, hm⟩ | ⟨i, spec, rfl⟩
  · exact authentic_of_declaration? hm
  · exact Definition.authentic_identified rfl

end SourceTree

/-! ### Call sites -/

namespace SourceTree

variable {src : SourceTree} {l : Language} {broken : List BrokenQuery} {path : String}

/-- The calls that have call sites: the first one of each name at each byte. -/
def keptCalls (src : SourceTree) (l : Language) (broken : List BrokenQuery) : List Call :=
  if l.compiles broken .calls then
    src.distinctCalls ((((l.query? .calls).map (·.run src)).getD []).filterMap src.call?)
  else []

theorem callSites_eq (src : SourceTree) (l : Language) (broken : List BrokenQuery) (path : String)
    (ds : List Definition) :
    src.callSites l broken path ds =
      Sorting.sort CallSite.le
        ((src.keptCalls l broken).map (src.callSite path (ds.filter (·.kind.isCallable)))) := by
  unfold callSites keptCalls
  split
  · rfl
  · rw [List.map_nil, Sorting.sort_nil]

/-- Each kept call has its call site, and there are no others. -/
theorem mem_callSites {ds : List Definition} {site : CallSite} :
    site ∈ src.callSites l broken path ds ↔ ∃ c ∈ src.keptCalls l broken,
      src.callSite path (ds.filter (·.kind.isCallable)) c = site := by
  rw [callSites_eq, Sorting.mem_sort, List.mem_map]

end SourceTree

/-- A parse result belongs to its file: so do its definitions, and callers are among them. -/
structure ParsedFile.Authentic (f : ParsedFile) : Prop where
  definitions : ∀ d ∈ f.definitions, d.Authentic f.filePath
  site : ∀ site ∈ f.callSites, site.filePath = f.filePath
  caller : ∀ site ∈ f.callSites, ∀ id, site.callerId = some id →
    ∃ d ∈ f.definitions, d.kind.isCallable = true ∧ d.nodeId = id

/-- What is extracted from a syntax tree belongs to its file. -/
theorem ParsedFile.authentic_extract (l : Language) (broken : List BrokenQuery)
    (path content : String) (tree : SyntaxTree) :
    (ParsedFile.extract l broken path content tree).Authentic := by
  refine ⟨fun d hd => SourceTree.authentic_of_mem_definitions hd, fun site hsite => ?_,
    fun site hsite id hid => ?_⟩
  · obtain ⟨c, -, rfl⟩ := SourceTree.mem_callSites.mp hsite
    rfl
  · obtain ⟨c, -, rfl⟩ := SourceTree.mem_callSites.mp hsite
    obtain ⟨d, hd, rfl⟩ := Option.map_eq_some_iff.mp hid
    obtain ⟨hmem, hcallable⟩ := List.mem_filter.mp (of_innermost_eq_some hd).1
    exact ⟨d, hmem, hcallable, rfl⟩

/-! ### Configuration files -/

namespace Manifest

variable {path content : String} {ls : Lines}

/-- A definition stands for a line of a configuration file, as a function or as a variable. -/
def Harvested (path : String) (ls : Lines) (d : Definition) : Prop :=
  ∃ (name : String) (kind : DefinitionKind) (line : Nat),
    (kind = .functionDecl ∨ kind = .variableDecl) ∧ ls.Holds line ∧
      d = ls.define path name kind line

/-- A definition that stands for a line is authentic. -/
theorem Harvested.authentic {d : Definition} (h : Harvested path ls d) : d.Authentic path := by
  obtain ⟨name, kind, line, -, -, rfl⟩ := h
  exact Definition.authentic_identified rfl

/-- A definition that stands for a line is a function or a variable. -/
theorem Harvested.kind {d : Definition} (h : Harvested path ls d) :
    d.kind = .functionDecl ∨ d.kind = .variableDecl := by
  obtain ⟨name, kind, line, hkind, -, rfl⟩ := h
  exact hkind

/-- The definitions found line by line. -/
theorem harvested_of_mem_harvestLines {name? : String → Option String} {d : Definition}
    (h : d ∈ harvestLines path ls name?) : Harvested path ls d := by
  obtain ⟨⟨i, line⟩, hmem, hline⟩ := List.mem_filterMap.mp h
  obtain ⟨name, -, rfl⟩ := Option.map_eq_some_iff.mp hline
  exact ⟨name, .variableDecl, i, .inr rfl, (Lines.mem_numbered hmem).1, rfl⟩

/-- What does not stop a file was there before. -/
theorem Failure.eq_ok_of_lift {α : Type} {x : Except Fault α} {a : α}
    (h : Failure.lift x = .ok a) : x = .ok a := by
  cases x with
  | error fault => cases h
  | ok b => exact congrArg Except.ok (Except.ok.inj h)

section Searched

variable (hls : ls.lines ≠ [])

include hls

/-- A definition for a name that is searched for stands for a line. -/
theorem harvested_define_find {name : String} {kind : DefinitionKind}
    (hkind : kind = .functionDecl ∨ kind = .variableDecl) (needle : String) {start : Nat}
    (hstart : 1 ≤ start) :
    Harvested path ls (ls.define path name kind (ls.find needle start)) :=
  ⟨name, kind, _, hkind, Lines.holds_find hls needle hstart, rfl⟩

/-- The definitions of a section. -/
theorem harvested_of_definitionsBelow {heading : String} {kind : DefinitionKind}
    {names : List CodeText} {ds : List Definition}
    (hkind : kind = .functionDecl ∨ kind = .variableDecl)
    (h : definitionsBelow path ls heading kind names = .ok ds) :
    ∀ d ∈ ds, Harvested path ls d := by
  intro d hd
  obtain ⟨name, -, hname⟩ := Except.exists_of_mem_mapM h hd
  obtain ⟨n, -, hn⟩ := Except.bind_eq_ok_iff.mp hname
  rw [← Except.ok.inj hn]
  exact harvested_define_find hls hkind _ (Lines.holds_find hls _ (Nat.le_refl 1)).1

/-- The definitions of a package description. -/
theorem harvested_of_harvestPackage {ds : List Definition}
    (h : harvestPackage path content ls = .ok ds) : ∀ d ∈ ds, Harvested path ls d := by
  intro d hd
  obtain ⟨fields, -, h⟩ := Except.bind_eq_ok_iff.mp h
  obtain ⟨sections, hsections, h⟩ := Except.bind_eq_ok_iff.mp h
  cases h
  obtain ⟨section_, hmem, hd⟩ := List.mem_flatten.mp hd
  obtain ⟨⟨heading, kind⟩, hlisted, hsection⟩ := Except.exists_of_mem_mapM hsections hmem
  have hkinds : ∀ p ∈ packageSections, p.2 = .functionDecl ∨ p.2 = .variableDecl := by decide
  exact harvested_of_definitionsBelow hls (hkinds _ hlisted) (Failure.eq_ok_of_lift hsection) d hd

/-- The definitions of a compiler configuration. -/
theorem harvested_of_harvestTsconfig {ds : List Definition}
    (h : harvestTsconfig path content ls = .ok ds) : ∀ d ∈ ds, Harvested path ls d := by
  intro d hd
  obtain ⟨fields, -, h⟩ := Except.bind_eq_ok_iff.mp h
  split at h
  · obtain ⟨given, hgiven, h⟩ := Except.bind_eq_ok_iff.mp h
    cases h
    rcases List.mem_cons.mp hd with rfl | hmem
    · exact harvested_define_find hls (.inr rfl) _ (Nat.le_refl 1)
    · exact harvested_of_definitionsBelow hls (.inr rfl) (Failure.eq_ok_of_lift hgiven) d hmem
  · cases h
    cases hd

/-- The definitions of a project file. -/
theorem harvested_of_harvestPyproject {ds : List Definition}
    (h : harvestPyproject path content ls = .ok ds) : ∀ d ∈ ds, Harvested path ls d := by
  intro d hd
  unfold harvestPyproject at h
  split at h
  · cases h
  · next data _ =>
    have htables := Failure.eq_ok_of_lift h
    unfold harvestTables at htables
    obtain ⟨project, -, htables⟩ := Except.bind_eq_ok_iff.mp htables
    obtain ⟨listed, -, htables⟩ := Except.bind_eq_ok_iff.mp htables
    obtain ⟨tool, -, htables⟩ := Except.bind_eq_ok_iff.mp htables
    obtain ⟨poetry, -, htables⟩ := Except.bind_eq_ok_iff.mp htables
    obtain ⟨more, -, htables⟩ := Except.bind_eq_ok_iff.mp htables
    obtain ⟨names, -, htables⟩ := Except.bind_eq_ok_iff.mp htables
    obtain ⟨scripts, -, htables⟩ := Except.bind_eq_ok_iff.mp htables
    obtain ⟨moreScripts, -, htables⟩ := Except.bind_eq_ok_iff.mp htables
    obtain ⟨scriptNames, -, htables⟩ := Except.bind_eq_ok_iff.mp htables
    cases htables
    rcases List.mem_append.mp hd with hd | hd
    · obtain ⟨n, -, rfl⟩ := List.mem_map.mp hd
      exact harvested_define_find hls (.inr rfl) n (Nat.le_refl 1)
    · obtain ⟨n, -, rfl⟩ := List.mem_map.mp hd
      exact harvested_define_find hls (.inl rfl) n (Nat.le_refl 1)

end Searched

/-- What is harvested from a configuration file stands for its lines. -/
theorem harvested_of_harvest {ds : List Definition} (h : harvest path content = .ok ds) :
    ∀ d ∈ ds, Harvested path (.ofText content) d := by
  intro d hd
  have hls := Lines.lines_ofText_ne_nil content
  unfold harvest at h
  dsimp only at h
  split at h
  · exact harvested_of_harvestPackage hls h d hd
  · exact harvested_of_harvestTsconfig hls h d hd
  · exact harvested_of_mem_harvestLines (Except.ok.inj h ▸ hd)
  · exact harvested_of_mem_harvestLines (Except.ok.inj h ▸ hd)
  · exact harvested_of_mem_harvestLines (Except.ok.inj h ▸ hd)
  · exact harvested_of_harvestPyproject hls h d hd
  · cases h
    cases hd

end Manifest

end CodeGraph
