import CodeGraph.Heritage
import CodeGraph.Proofs.Import
import CodeGraph.Proofs.Path

/-!
# What a type name means

A type name is looked up by its last segment: through the binding of that segment, then through the
binding of all segments before it, through wildcard imports, and at last in the file itself. The
definition that is found is a type, either of a file that the import map leads to or of the same
file.

A dotted name should mean a type of the file that its qualifier is bound to. Wildcard imports and
types of the file itself do not get in its way, but the first step does: the last segment is looked
up as if it stood alone, and a binding of it may lead to another file.

Whatever a name means, it is counted: as resolved, with its relationship, or as left over.

## Main definitions

* `ImportBinding.Gives`: a binding gives a name the meaning of a type.
* `Heritage.Diverts`: the binding of a bare name gives it a type of another file.
* `Heritage.Records`: relationships and counters agree with the links.

## Main results

* `Heritage.resolveType_cases`: where the type that a name means is defined.
* `Heritage.resolveType_dotted`: the steps for a dotted name.
* `Heritage.resolveType_qualified`: a dotted name is resolved through its qualifier, unless the bare
  name is diverted.
* `Heritage.records_ofFiles`: each link of the parsed files is counted once.
-/

namespace CodeGraph

/-- The types of a file with a name are entered ones. -/
theorem Registry.Lists.mem_typesIn {r : Registry} {ds : List Definition} (h : r.Lists ds)
    {path name : String} {d : Definition} :
    d ∈ r.typesIn path name ↔
      d ∈ ds ∧ d.kind.isType = true ∧ d.filePath = path ∧ d.name = name := by
  rw [Registry.typesIn, List.mem_filter, h.namedIn, List.mem_filter, decide_eq_true_iff]
  tauto

/-- A binding gives a name a type: one that its target defines under the name that it takes. -/
def ImportBinding.Gives (ds : List Definition) (b : ImportBinding) (name : String)
    (d : Definition) : Prop :=
  d ∈ ds ∧ d.kind.isType = true ∧ d.filePath = b.targetFile ∧ d.name = Heritage.definedName b name

namespace Heritage

variable {r : Registry} {ds : List Definition} {m : ImportMap}

/-! ### The steps -/

/-- A name that is bound means a type that its binding gives. -/
theorem exists_of_throughBinding? (h : r.Lists ds) {path name : String} {d : Definition}
    (hd : throughBinding? r m path name = some d) :
    ∃ b, m.binding? path name = some b ∧ b.Gives ds name d := by
  obtain ⟨b, hb, hhead⟩ := Option.bind_eq_some_iff.mp hd
  exact ⟨b, hb, h.mem_typesIn.mp (List.mem_of_head? hhead)⟩

/-- If its binding gives it a type, a name means one. -/
theorem isSome_throughBinding? (h : r.Lists ds) {path name : String} {b : ImportBinding}
    (hb : m.binding? path name = some b) {d : Definition} (hd : b.Gives ds name d) :
    (throughBinding? r m path name).isSome = true := by
  have hmem : d ∈ r.typesIn b.targetFile (definedName b name) := h.mem_typesIn.mpr hd
  rw [throughBinding?, hb]
  exact List.isSome_head?.mpr (List.ne_nil_of_mem hmem)

/-- A dotted name means a type of its own name in the file that its front part is bound to. -/
theorem exists_of_throughNamespace? (h : r.Lists ds) {path name : String} {front : List String}
    {d : Definition} (hd : throughNamespace? r m path front name = some d) :
    ∃ b, m.binding? path (Text.join "." front) = some b ∧
      d ∈ ds ∧ d.kind.isType = true ∧ d.filePath = b.targetFile ∧ d.name = name := by
  obtain ⟨-, hd⟩ := Option.ite_none_left_eq_some.mp hd
  obtain ⟨b, hb, hhead⟩ := Option.bind_eq_some_iff.mp hd
  exact ⟨b, hb, h.mem_typesIn.mp (List.mem_of_head? hhead)⟩

/-- A type that is found through imports is entered, in a file that the import map leads to. -/
theorem mem_of_throughImports (h : r.Lists ds) {path simple : String} {front : List String}
    {d : Definition}
    (hd : (throughBinding? r m path simple <|> throughNamespace? r m path front simple
      <|> throughWildcard? r m path simple) = some d) :
    d ∈ ds ∧ d.kind.isType = true ∧ m.LeadsTo path d.filePath := by
  rcases eq_some_or_of_orElse hd with hd | hd
  · obtain ⟨b, hb, hmem, htype, hpath, -⟩ := exists_of_throughBinding? h hd
    exact ⟨hmem, htype, .inl ⟨simple, b, hb, hpath.symm⟩⟩
  rcases eq_some_or_of_orElse hd with hd | hd
  · obtain ⟨b, hb, hmem, htype, hpath, -⟩ := exists_of_throughNamespace? h hd
    exact ⟨hmem, htype, .inl ⟨_, b, hb, hpath.symm⟩⟩
  · obtain ⟨target, htarget, hhead⟩ := List.exists_of_findSome?_eq_some hd
    obtain ⟨hmem, htype, rfl, -⟩ := h.mem_typesIn.mp (List.mem_of_head? hhead)
    exact ⟨hmem, htype, .inr htarget⟩

/-- The type that a name means is entered: through imports, or in the file itself. -/
theorem resolveType_cases (h : r.Lists ds) {path typeName : String} {d : Definition}
    {source : TypeSource} (hd : resolveType r m path typeName = some (d, source)) :
    d ∈ ds ∧ d.kind.isType = true ∧
      (source = .imported ∧ m.LeadsTo path d.filePath ∨
        source = .sameFile ∧ d.filePath = path) := by
  rcases eq_some_or_of_orElse hd with hd | hd
  · obtain ⟨d', hfound, heq⟩ := Option.map_eq_some_iff.mp hd
    obtain ⟨rfl, rfl⟩ := Prod.mk.inj heq
    obtain ⟨hmem, htype, hlead⟩ := mem_of_throughImports h hfound
    exact ⟨hmem, htype, .inl ⟨rfl, hlead⟩⟩
  · obtain ⟨d', hhead, heq⟩ := Option.map_eq_some_iff.mp hd
    obtain ⟨rfl, rfl⟩ := Prod.mk.inj heq
    obtain ⟨hmem, htype, hpath, -⟩ := h.mem_typesIn.mp (List.mem_of_head? hhead)
    exact ⟨hmem, htype, .inr ⟨rfl, hpath⟩⟩

/-! ### Dotted names -/

/-- A name behind a qualifier is looked up bare, then through its qualifier, and so on. -/
theorem resolveType_dotted (r : Registry) (m : ImportMap) (path qualifier : String)
    {simple : String} (hsimple : '.' ∉ simple.toList) :
    resolveType r m path (qualifier ++ "." ++ simple) =
      ((throughBinding? r m path simple <|>
        ((m.binding? path qualifier).bind fun b => (r.typesIn b.targetFile simple).head?) <|>
        throughWildcard? r m path simple).map (·, .imported) <|>
      (r.typesIn path simple).head?.map (·, .sameFile)) := by
  have hsegments : Text.split '.' (qualifier ++ "." ++ simple) =
      Text.split '.' qualifier ++ [simple] := by
    rw [Text.split_append rfl, Text.split_of_notMem hsimple]
  have hnamespace : throughNamespace? r m path (Text.split '.' qualifier) simple =
      (m.binding? path qualifier).bind fun b => (r.typesIn b.targetFile simple).head? := by
    rw [throughNamespace?, if_neg, Text.join_split_of rfl]
    · rfl
    · rw [List.isEmpty_iff]
      exact Text.split_ne_nil '.' qualifier
  simp only [resolveType, hsegments, List.dropLast_concat, List.getLast?_concat, Option.getD_some,
    hnamespace]

/-- The binding of a bare name gives it a type of another file than the given one. -/
def Diverts (ds : List Definition) (m : ImportMap) (path simple target : String)
    (d : Definition) : Prop :=
  ∃ b, m.binding? path simple = some b ∧ b.targetFile ≠ target ∧ b.Gives ds simple d

/--
If the qualifier of a dotted name is bound to a file that defines a type of the name, then the name
means a type. It is defined in that file, whatever wildcard imports and types of its own the file
of the name has, with one exception: the bare name is bound too, and its binding gives it a type of
another file. Then the dotted name means such a type.
-/
theorem resolveType_qualified (arrivals : List Registry.Arrival) (m : ImportMap)
    {path qualifier simple : String} (hsimple : '.' ∉ simple.toList) {b : ImportBinding}
    (hb : m.binding? path qualifier = some b)
    (hdefined : ∃ d ∈ arrivals.filterMap Registry.Arrival.definition?,
      d.kind.isType = true ∧ d.filePath = b.targetFile ∧ d.name = simple) :
    let r := arrivals.foldl Registry.receive Registry.empty
    let ds := arrivals.filterMap Registry.Arrival.definition?
    ∃ d ∈ ds, resolveType r m path (qualifier ++ "." ++ simple) = some (d, .imported) ∧
      d.kind.isType = true ∧
      (d.filePath = b.targetFile ∧ (∀ e, ¬Diverts ds m path simple b.targetFile e) ∨
        Diverts ds m path simple b.targetFile d) := by
  intro r ds
  have hlists : r.Lists ds := Registry.Lists.empty.foldl_receive arrivals
  rw [resolveType_dotted r m path qualifier hsimple, hb, Option.bind_some]
  cases hbound : throughBinding? r m path simple with
  | some d =>
    obtain ⟨other, hother, hgives⟩ := exists_of_throughBinding? hlists hbound
    refine ⟨d, hgives.1, rfl, hgives.2.1, ?_⟩
    by_cases hsame : other.targetFile = b.targetFile
    · refine .inl ⟨hgives.2.2.1.trans hsame, ?_⟩
      rintro e ⟨other', hother', hne, -⟩
      obtain rfl := Option.some.inj (hother.symm.trans hother')
      exact hne hsame
    · exact .inr ⟨other, hother, hsame, hgives⟩
  | none =>
    obtain ⟨e, he, htype, hpath, hname⟩ := hdefined
    have hmem : e ∈ r.typesIn b.targetFile simple :=
      hlists.mem_typesIn.mpr ⟨he, htype, hpath, hname⟩
    obtain ⟨d, hd⟩ := Option.isSome_iff_exists.mp (List.isSome_head?.mpr (List.ne_nil_of_mem hmem))
    obtain ⟨hentered, hdtype, hdpath, -⟩ := hlists.mem_typesIn.mp (List.mem_of_head? hd)
    refine ⟨d, hentered, by rw [hd]; rfl, hdtype, .inl ⟨hdpath, ?_⟩⟩
    rintro e ⟨other, hother, -, hgives⟩
    have hsome := isSome_throughBinding? hlists hother hgives
    rw [hbound] at hsome
    cases hsome

/-! ### Counts -/

/--
The links so far are recorded: those with a relationship left it, and the two counters have counted
each link once.
-/
structure Records (h : Heritage) (ls : List HeritageLink) : Prop where
  relationships : h.relationships = ls.filterMap HeritageLink.relationship?
  resolved : h.resolved = h.relationships.length
  counted : h.resolved + h.unresolved = ls.length

/-- A link moves one of the counters. -/
theorem Records.add {h : Heritage} {ls : List HeritageLink} (hr : h.Records ls)
    (l : HeritageLink) : (h.add l).Records (ls ++ [l]) := by
  rw [Heritage.add]
  split
  · next hnone =>
    refine ⟨?_, hr.resolved, ?_⟩
    · rw [hr.relationships, List.filterMap_append, List.filterMap_cons_none hnone,
        List.filterMap_nil, List.append_nil]
    · rw [List.length_append, List.length_singleton, ← hr.counted]
      exact (Nat.add_assoc _ _ 1).symm
  · next r hsome =>
    refine ⟨?_, ?_, ?_⟩
    · rw [hr.relationships, List.filterMap_append, List.filterMap_cons_some hsome,
        List.filterMap_nil]
    · rw [hr.resolved, List.length_append, List.length_singleton]
    · rw [List.length_append, List.length_singleton, ← hr.counted]
      exact Nat.add_right_comm _ 1 _

/-- The heritage of parsed files records their links. -/
theorem records_ofFiles (r : Registry) (m : ImportMap) (g : Graph) (parsed : ParsedFiles) :
    (ofFiles r m g parsed).Records (links r m g parsed) :=
  foldl_prefix_induction (P := fun ls (h : Heritage) => h.Records ls) ⟨rfl, rfl, rfl⟩
    fun _ l _ _ hr => hr.add l

/-- A relationship of heritage is that of a link. -/
theorem exists_link_of_mem {g : Graph} {parsed : ParsedFiles} {rel : Relationship}
    (hrel : rel ∈ (ofFiles r m g parsed).relationships) :
    ∃ link ∈ links r m g parsed, link.relationship? = some rel := by
  rw [(records_ofFiles r m g parsed).relationships] at hrel
  exact List.mem_filterMap.mp hrel

namespace QualifiedBase

/-- A class of a file. -/
def classIn (path name : String) : Definition :=
  { nodeId := ""
    qualifiedName := qualifiedName path name none
    filePath := path
    name
    kind := .classDecl
    startLine := 1
    endLine := 1 }

/-- Three classes of one name. -/
def definitions : List Definition :=
  [classIn "user.py" "Model", classIn "other.py" "Model", classIn "models.py" "Model"]

def arrivals : List Registry.Arrival :=
  definitions.map .definition

/-- The module `models` under its own name. -/
def qualifier : ImportBinding where
  localName := "models"
  targetFile := "models.py"
  kind := .namespaced

/-- The name `Model` of some file. -/
def bare (target : String) : ImportBinding where
  localName := "Model"
  targetFile := target
  importedName := some "Model"

/-- What the file `user.py` imports, with the name `Model` from one file and all of another. -/
def imports (target wildcard : String) : ImportMap :=
  ⟨[("user.py", ⟨⟨[("models", qualifier), ("Model", bare target)]⟩, [wildcard]⟩)]⟩

/--
The class `Model` of `models.py` is found, though `user.py` has one itself, imports one with all of
`other.py`, and binds the name to a file that has none.
-/
theorem resolveType_qualified_class :
    '.' ∉ "Model".toList ∧
      (imports "views.py" "other.py").binding? "user.py" "models" = some qualifier ∧
      (∃ d ∈ definitions, d.kind.isType = true ∧ d.filePath = qualifier.targetFile ∧
        d.name = "Model") ∧
      resolveType (arrivals.foldl Registry.receive .empty) (imports "views.py" "other.py") "user.py"
          ("models" ++ "." ++ "Model") =
        some (classIn "models.py" "Model", .imported) := by
  have hsimple : '.' ∉ "Model".toList := by decide
  have hb : (imports "views.py" "other.py").binding? "user.py" "models" = some qualifier := rfl
  have hdefined : ∃ d ∈ definitions, d.kind.isType = true ∧ d.filePath = qualifier.targetFile ∧
      d.name = "Model" := by
    decide
  obtain ⟨d, hd, hresolved, -, hcases⟩ := resolveType_qualified arrivals _ hsimple hb hdefined
  have hd' : d ∈ definitions := hd
  refine ⟨hsimple, hb, hdefined, ?_⟩
  rcases hcases with ⟨hpath, -⟩ | ⟨other, hother, -, -, -, hpath, -⟩
  · have honly : ∀ d ∈ definitions, d.filePath = qualifier.targetFile →
        d = classIn "models.py" "Model" := by
      decide
    exact honly d hd' hpath ▸ hresolved
  · obtain rfl : bare "views.py" = other := Option.some.inj hother
    have hnone : ∀ d ∈ definitions, d.filePath ≠ "views.py" := by decide
    exact absurd hpath (hnone d hd')

/-- The name `Model` is bound to `other.py`, and so a class of this file is found. -/
theorem resolveType_diverted :
    (imports "other.py" "views.py").binding? "user.py" "models" = some qualifier ∧
      qualifier.kind = .namespaced ∧ classIn "models.py" "Model" ∈ definitions ∧
      (classIn "models.py" "Model").filePath = qualifier.targetFile ∧
      resolveType (arrivals.foldl Registry.receive .empty) (imports "other.py" "views.py") "user.py"
          "models.Model" =
        some (classIn "other.py" "Model", .imported) := by
  decide

end QualifiedBase

end Heritage

end CodeGraph
