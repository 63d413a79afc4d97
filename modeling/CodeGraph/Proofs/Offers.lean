import CodeGraph.Proofs.Call
import CodeGraph.Proofs.Heritage
import CodeGraph.Proofs.Stages
import Mathlib.Data.Set.Function

/-!
# Offered relationships

Every relationship that a run offers has both its ends among the nodes, and its identifier is the
digest of its text. If no two of the texts behind identifiers have the same digest, then each offer
is kept, or another one between the same nodes is.

## Main definitions

* `Stages.Injective`, `Stages.NodesInjective`: no two texts behind the identifiers of a run, or
  behind those of its nodes, have the same digest.
* `Graph.ofKind`: the relationships of a kind.

## Main results

* `Stages.Complete.placed_of_mem_offered`: the ends of offered relationships are nodes.
* `Stages.Complete.leads`: a call with a target leads from one node to another.
* `Stages.Complete.exists_kept`: every offer has its place in the graph.
* `Stages.mem_offered_cases`: the kinds of offers, and where they come from.
* `Stages.Complete.ofKind_eq`: offers of a kind that connect different nodes are all kept.
-/

namespace CodeGraph

open Inventory (Entry entriesOf entered)

/-! ### Heritage -/

namespace Heritage

variable {r : Registry} {files : List String} {ds : List Definition} {m : ImportMap}

/-- A link of a type is to what one of its names means. -/
theorem eq_of_mem_linksOf {path : String} {owner : Definition} {link : HeritageLink}
    (h : link ∈ linksOf r m path owner) :
    link.owner = owner ∧ (link.kind = .inherits ∨ link.kind = .implements) ∧
      link.target = resolveType r m path link.typeName := by
  rcases List.mem_append.mp h with h | h
  · obtain ⟨n, -, rfl⟩ := List.mem_map.mp h
    exact ⟨rfl, .inl rfl, rfl⟩
  · obtain ⟨n, -, rfl⟩ := List.mem_map.mp h
    exact ⟨rfl, .inr rfl, rfl⟩

/-- A link is that of a type with a node, to what one of its names means. -/
theorem exists_of_mem_links {g : Graph} {parsed : ParsedFiles} {link : HeritageLink}
    (h : link ∈ links r m g parsed) :
    ∃ path p, (path, p) ∈ parsed.toList ∧ link.owner ∈ p.definitions ∧
      link ∈ linksOf r m path link.owner ∧ link.owner.kind.isType = true ∧
      g.hasNode link.owner.nodeId = true ∧
      (link.kind = .inherits ∨ link.kind = .implements) ∧
      link.target = resolveType r m path link.typeName := by
  obtain ⟨⟨path, p⟩, hp, hlink⟩ := List.mem_flatMap.mp h
  obtain ⟨owner, howner, hlink⟩ := List.mem_flatMap.mp hlink
  obtain ⟨hmem, hfilter⟩ := List.mem_filter.mp howner
  rw [Bool.and_eq_true] at hfilter
  have hparsed : (path, p) ∈ parsed.toList := ParsedFiles.mem_sorted.mp hp
  obtain ⟨rfl, hkind, hmeans⟩ := eq_of_mem_linksOf hlink
  exact ⟨path, p, hparsed, hmem, hlink, hfilter.1, hfilter.2, hkind, hmeans⟩

/-- The links of a type with a node are links of the parsed files. -/
theorem mem_links {g : Graph} {parsed : ParsedFiles} {path : String} {p : ParsedFile}
    (hp : (path, p) ∈ parsed.toList) {owner : Definition} (howner : owner ∈ p.definitions)
    (htype : owner.kind.isType = true) (hnode : g.hasNode owner.nodeId = true)
    {link : HeritageLink} (hlink : link ∈ linksOf r m path owner) : link ∈ links r m g parsed := by
  refine List.mem_flatMap.mpr ⟨(path, p), ParsedFiles.mem_sorted.mpr hp, List.mem_flatMap.mpr
    ⟨owner, List.mem_filter.mpr ⟨howner, ?_⟩, hlink⟩⟩
  rw [htype, hnode]
  rfl

/-- A link with a relationship leads to another definition. -/
theorem exists_of_relationship? {link : HeritageLink} {rel : Relationship}
    (h : link.relationship? = some rel) :
    ∃ target source, link.target = some (target, source) ∧
      target.nodeId ≠ link.owner.nodeId ∧
      rel = .between link.kind link.owner.nodeId target.nodeId
        ⟨[("typeName", .text link.typeName), ("resolution", .text source.name)]⟩ := by
  obtain ⟨⟨target, source⟩, htarget, hrel⟩ := Option.bind_eq_some_iff.mp h
  obtain ⟨hne, hrel⟩ := Option.ite_none_left_eq_some.mp hrel
  exact ⟨target, source, htarget, hne, (Option.some.inj hrel).symm⟩

/-- A link that leads to another definition has its relationship. -/
theorem exists_of_target {g : Graph} {parsed : ParsedFiles} {link : HeritageLink}
    (hlink : link ∈ links r m g parsed) {target : Definition} {source : TypeSource}
    (htarget : link.target = some (target, source)) (hne : target.nodeId ≠ link.owner.nodeId) :
    ∃ rel ∈ (ofFiles r m g parsed).relationships, rel.kind = link.kind ∧
      rel.source = link.owner.nodeId ∧ rel.target = target.nodeId := by
  have hrel : link.relationship? = some (.between link.kind link.owner.nodeId target.nodeId
      ⟨[("typeName", .text link.typeName), ("resolution", .text source.name)]⟩) := by
    rw [HeritageLink.relationship?, htarget]
    exact if_neg hne
  rw [(records_ofFiles r m g parsed).relationships]
  exact ⟨_, List.mem_filterMap.mpr ⟨link, hlink, hrel⟩, rfl, rfl, rfl⟩

/-- A relationship of heritage leads from a type with a node to an entered definition. -/
theorem exists_of_mem_relationships (h : r.Holds files ds) {g : Graph} {parsed : ParsedFiles}
    {rel : Relationship} (hrel : rel ∈ (ofFiles r m g parsed).relationships) :
    g.hasNode rel.source = true ∧ (∃ d ∈ ds, rel.target = d.nodeId) ∧
      (rel.kind = .inherits ∨ rel.kind = .implements) ∧
      rel = .between rel.kind rel.source rel.target rel.properties := by
  obtain ⟨link, hlink, hrel⟩ := exists_link_of_mem hrel
  obtain ⟨path, p, -, -, -, -, hnode, hkind, hmeans⟩ := exists_of_mem_links hlink
  obtain ⟨target, source, htarget, -, rfl⟩ := exists_of_relationship? hrel
  obtain ⟨hmem, -⟩ := resolveType_cases h.toLists (hmeans.symm.trans htarget)
  exact ⟨hnode, ⟨target, hmem, rfl⟩, hkind, rfl⟩

/-- Heritage offers relationships of its two kinds. -/
theorem kind_of_mem_relationships {g : Graph} {parsed : ParsedFiles} {rel : Relationship}
    (hrel : rel ∈ (ofFiles r m g parsed).relationships) :
    rel.kind = .inherits ∨ rel.kind = .implements := by
  obtain ⟨link, hlink, hrel⟩ := exists_link_of_mem hrel
  obtain ⟨_, _, -, -, -, -, -, hkind, -⟩ := exists_of_mem_links hlink
  obtain ⟨_, _, -, -, rfl⟩ := exists_of_relationship? hrel
  exact hkind

end Heritage

/-- Imports offer relationships of imports. -/
theorem Imports.kind_of_mem_relationships {i : Imports} {fileIds : OrderedMap String String}
    {rel : Relationship} (h : rel ∈ i.relationships fileIds) : rel.kind = .imports := by
  obtain ⟨_, _, _, -, -, hbetween⟩ := exists_of_mem_relationships h
  rw [hbetween]
  rfl

/-- Calls offer relationships of calls. -/
theorem Calls.kind_of_mem_relationships {calls : Calls} {rel : Relationship}
    (h : rel ∈ calls.relationships) : rel.kind = .calls := by
  obtain ⟨_, -, rfl⟩ := List.mem_map.mp h
  rfl

/-- The relationships of a kind. -/
def Graph.ofKind (g : Graph) (kind : RelKind) : List Relationship :=
  g.relationships.filter (·.kind = kind)

/-- Relationships of other kinds are left out. -/
theorem filter_kind_eq_nil {rs : List Relationship} {kind : RelKind}
    (h : ∀ r ∈ rs, r.kind ≠ kind) : rs.filter (·.kind = kind) = [] :=
  List.filter_eq_nil_iff.mpr fun r hr hkind => h r hr (of_decide_eq_true hkind)

/-- Relationships of the kind are all taken. -/
theorem filter_kind_eq_self {rs : List Relationship} {kind : RelKind}
    (h : ∀ r ∈ rs, r.kind = kind) : rs.filter (·.kind = kind) = rs :=
  List.filter_eq_self.mpr fun r hr => decide_eq_true (h r hr)

namespace Stages

variable {s : Stages} {os : List FileOutcome} {e : Engine}

/-! ### Ends of relationships -/

/-- An identifier of the skeleton is taken in the end. -/
theorem Complete.mem_ids_of_skeleton (h : s.Complete os) {id : String}
    (hid : id ∈ s.skeleton.graph.ids) : id ∈ s.parsing.inventory.graph.ids :=
  (h.mem_ids_parsing id).mpr (.inl hid)

/-- The identifier of a visible file is taken. -/
theorem Complete.fileId_mem_ids (h : s.Complete os) {path : String}
    (hp : path ∈ s.plan.visible) :
    Containment.fileId path ∈ s.parsing.inventory.graph.ids :=
  h.mem_ids_of_skeleton ((Containment.mem_ids_build _ _ _ _).mpr (.inr (.inr ⟨path, hp, rfl⟩)))

/-- What is found under a path in the identifiers of files is taken. -/
theorem Complete.mem_ids_of_get?_fileIds (h : s.Complete os) {path id : String}
    (hid : s.skeleton.fileIds.get? path = some id) : id ∈ s.parsing.inventory.graph.ids := by
  rw [get?_fileIds] at hid
  split at hid
  · next hp => exact Option.some.inj hid ▸ h.fileId_mem_ids hp
  · cases hid

/-- The identifier of a definition of a parsed file is taken. -/
theorem Complete.nodeId_mem_ids (h : s.Complete os) {path : String} {f : ParsedFile}
    (hf : (path, f) ∈ s.files) {d : Definition} (hd : d ∈ f.definitions) :
    d.nodeId ∈ s.parsing.inventory.graph.ids := by
  refine (h.mem_ids_parsing _).mpr (.inr (List.mem_map.mpr
    ⟨⟨Containment.fileId path, f.definitions.filter (·.kind.isType), d⟩, ?_, rfl⟩))
  exact List.mem_flatMap.mpr ⟨(path, f), hf, List.mem_map_of_mem hd⟩

/-- Resolving imports adds no nodes. -/
theorem ids_imports (s : Stages) (e : Engine) :
    ((s.links e).imports.addTo s.skeleton.fileIds s.parsing.inventory.graph).ids =
      s.parsing.inventory.graph.ids :=
  Graph.ids_foldl_insertRelationship _ _

/-- A definition of a parsed file has a node when its heritage is resolved. -/
theorem Complete.hasNode_imports (h : s.Complete os) (e : Engine) {path : String} {f : ParsedFile}
    (hf : (path, f) ∈ s.files) {d : Definition} (hd : d ∈ f.definitions) :
    ((s.links e).imports.addTo s.skeleton.fileIds s.parsing.inventory.graph).hasNode d.nodeId =
      true := by
  rw [Graph.hasNode_iff, s.ids_imports]
  exact h.nodeId_mem_ids hf hd

/-- The identifier of an entry is taken. -/
theorem Complete.entry_mem_ids (h : s.Complete os) {x : Entry} (hx : x ∈ s.entries) :
    x.id ∈ s.parsing.inventory.graph.ids :=
  (h.mem_ids_parsing _).mpr (.inr (List.mem_map_of_mem hx))

/-- Both ends of a relationship are taken, and its identifier comes from its text. -/
structure Placed (ids : List String) (r : Relationship) : Prop where
  source : r.source ∈ ids
  target : r.target ∈ ids
  between : r = .between r.kind r.source r.target r.properties

/-- The relationships that an entry brings. -/
theorem Complete.placed_of_mem_links (h : s.Complete os) {x : Entry} (hx : x ∈ s.entries)
    {r : Relationship} (hr : r ∈ x.links) : Placed s.parsing.inventory.graph.ids r := by
  obtain ⟨path, f, hf, hfile, -, htypes, -⟩ := h.exists_of_mem_entries hx
  rcases List.mem_cons.mp hr with rfl | hr
  · refine ⟨?_, h.entry_mem_ids hx, rfl⟩
    rw [Entry.definesEdge, hfile]
    exact h.fileId_mem_ids (h.exists_of_mem_files hf).1
  · obtain ⟨owner, howner, rfl⟩ := Inventory.exists_of_membership? (Option.mem_toList.mp hr)
    refine ⟨h.entry_mem_ids hx, ?_, rfl⟩
    rw [htypes] at howner
    exact h.nodeId_mem_ids hf (List.mem_of_mem_filter howner)

/-- The relationships that resolution offers. -/
theorem Complete.placed_of_mem_resolved (h : s.Complete os) {r : Relationship}
    (hr : r ∈ s.resolvedRelationships e) : Placed s.parsing.inventory.graph.ids r := by
  rcases List.mem_append.mp hr with hr | hr
  · rcases List.mem_append.mp hr with hr | hr
    · obtain ⟨path, target, props, hs, ht, hbetween⟩ := Imports.exists_of_mem_relationships hr
      exact ⟨h.mem_ids_of_get?_fileIds hs, h.mem_ids_of_get?_fileIds ht,
        Relationship.eq_between hbetween⟩
    · obtain ⟨hs, ⟨d, hd, ht⟩, -, hbetween⟩ := Heritage.exists_of_mem_relationships h.holds hr
      have hnode : r.source ∈ ((s.links e).imports.addTo s.skeleton.fileIds
          s.parsing.inventory.graph).ids := (Graph.hasNode_iff _ _).mp hs
      refine ⟨s.ids_imports e ▸ hnode, ?_, hbetween⟩
      obtain ⟨x, hx, rfl⟩ := List.mem_map.mp hd
      rw [ht]
      exact h.entry_mem_ids (mem_of_mem_fresh hx).1
  · obtain ⟨edge, hbetween, c, -, d, -, hs, ht, hnode, -⟩ := s.exists_of_mem_calls hr
    refine ⟨?_, ?_, Relationship.eq_between hbetween⟩
    · rcases eq_some_or_of_orElse hs with hs | hs
      · obtain ⟨-, hs⟩ := Option.filter_eq_some_iff.mp hs
        exact (Graph.hasNode_iff _ _).mp hs
      · exact h.mem_ids_of_get?_fileIds hs
    · dsimp only at ht
      rw [← ht]
      exact (Graph.hasNode_iff _ _).mp hnode

/-- Both ends of every offered relationship are nodes. -/
theorem Complete.placed_of_mem_offered (h : s.Complete os) {r : Relationship}
    (hr : r ∈ s.offered e) : Placed s.parsing.inventory.graph.ids r := by
  rcases List.mem_append.mp hr with hr | hr
  · rcases List.mem_append.mp hr with hr | hr
    · obtain ⟨hs, ht⟩ := Containment.ends_mem_ids _ s.request.projectRoot hr
      refine ⟨h.mem_ids_of_skeleton hs, h.mem_ids_of_skeleton ht, ?_⟩
      obtain ⟨x, hx, hr⟩ := List.mem_flatMap.mp hr
      rcases Containment.mem_offers.mp hx with ⟨d, -, rfl⟩ | ⟨path, -, rfl⟩
      · obtain rfl := List.mem_singleton.mp hr
        rfl
      · obtain rfl := List.mem_singleton.mp hr
        rfl
    · obtain ⟨x, hx, hr⟩ := List.mem_flatMap.mp hr
      exact h.placed_of_mem_links (mem_of_mem_fresh hx).1 hr
  · exact h.placed_of_mem_resolved hr

/-- A call leads to an entered definition. -/
theorem Complete.target_mem_entered (h : s.Complete os) {c : ClassifiedCall}
    (hc : c ∈ (s.links e).calls.sites) {d : Definition} (hd : c.target = some d) :
    d ∈ s.entered.map Entry.definition := by
  obtain ⟨f, -, -, -, htarget⟩ := exists_of_mem_sites hc
  have hholds : (s.callContext e).registry.Holds s.plan.visible (s.entered.map Entry.definition) :=
    h.holds
  exact (CallContext.classify_cases hholds
    (R := fun _ _ => True) ⟨fun _ _ _ _ => trivial, fun _ _ _ => trivial⟩ f.language c.site
    (htarget ▸ hd)).1

/-- A call with a target leads from one node to another. -/
theorem Complete.leads (h : s.Complete os) {c : ClassifiedCall}
    (hc : c ∈ (s.links e).calls.sites) (htarget : c.target.isSome = true) :
    ∃ key, Calls.Leads s.parsing.inventory.graph s.skeleton.fileIds c key := by
  obtain ⟨d, hd⟩ := Option.isSome_iff_exists.mp htarget
  have hnode : s.parsing.inventory.graph.hasNode d.nodeId = true := by
    obtain ⟨x, hx, rfl⟩ := List.mem_map.mp (h.target_mem_entered hc hd)
    exact (Graph.hasNode_iff _ _).mpr (h.entry_mem_ids (mem_of_mem_fresh hx).1)
  have hsource :
      (Calls.sourceId? s.parsing.inventory.graph s.skeleton.fileIds c).isSome = true := by
    obtain ⟨f, hf, -, -, -⟩ := exists_of_mem_sites hc
    rw [Calls.sourceId?, get?_fileIds, if_pos (h.exists_of_mem_files hf).1]
    cases (present? c.site.callerId).filter s.parsing.inventory.graph.hasNode <;> rfl
  obtain ⟨source, hsource⟩ := Option.isSome_iff_exists.mp hsource
  exact ⟨(source, d.nodeId), d, hd, hsource, rfl, hnode⟩

/-! ### Texts behind identifiers -/

/-- No two texts behind the identifiers of a run have the same digest. -/
def Injective (s : Stages) (e : Engine) : Prop :=
  Set.InjOn Identifier.digest {t | t ∈ s.texts e}

/-- The texts of a run are those of its stages. -/
theorem injective_of_hashed {request : Request} {i : Interruptions} {cache : Cache}
    (hstages : e.stages? request i cache = some s)
    (hinj : Set.InjOn Identifier.digest {t | t ∈ e.hashed request i cache}) : s.Injective e := by
  rw [Engine.hashed, hstages] at hinj
  exact hinj

/-- The texts of the stages of a run are those of the run. -/
theorem Injective.hashed {request : Request} {i : Interruptions} {cache : Cache}
    (hinj : s.Injective e) (hstages : e.stages? request i cache = some s) :
    Set.InjOn Identifier.digest {t | t ∈ e.hashed request i cache} := by
  rw [Engine.hashed, hstages]
  exact hinj

/-- The texts behind the identifiers of project, folders, files and definitions. -/
def nodeTexts (s : Stages) : List String :=
  s.structureTexts ++ s.definitions.map Definition.idSource

/-- No two texts behind the identifiers of nodes have the same digest. -/
def NodesInjective (s : Stages) : Prop :=
  Set.InjOn Identifier.digest {t | t ∈ s.nodeTexts}

/-- The texts of nodes are among all texts. -/
theorem Injective.nodes (hinj : s.Injective e) : s.NodesInjective :=
  hinj.mono fun _ ht => List.mem_append_left _ ht

theorem mem_texts_of_structure {t : String} (ht : t ∈ s.structureTexts) : t ∈ s.texts e :=
  List.mem_append_left _ (List.mem_append_left _ ht)

/-- The text of a visible file is hashed. -/
theorem fileText_mem_texts {path : String} (hp : path ∈ s.plan.visible) :
    Identifier.structureText .file path ∈ s.texts e :=
  mem_texts_of_structure
    (List.mem_append_right _ (List.mem_map_of_mem hp))

/-- The text of a definition of a parsed file belongs to a node. -/
theorem idSource_mem_nodeTexts {path : String} {f : ParsedFile} (hf : (path, f) ∈ s.files)
    {d : Definition} (hd : d ∈ f.definitions) : d.idSource ∈ s.nodeTexts :=
  List.mem_append_right _ (List.mem_map_of_mem (List.mem_flatMap.mpr ⟨(path, f), hf, hd⟩))

/-- The text of a definition of a parsed file is hashed. -/
theorem idSource_mem_texts {path : String} {f : ParsedFile} (hf : (path, f) ∈ s.files)
    {d : Definition} (hd : d ∈ f.definitions) : d.idSource ∈ s.texts e :=
  List.mem_append_left _ (idSource_mem_nodeTexts hf hd)

/-- The text of an offered relationship is hashed. -/
theorem mem_texts_of_offered {r : Relationship} (hr : r ∈ s.offered e) :
    r.idSource ∈ s.texts e :=
  List.mem_append_right _ (List.mem_map_of_mem hr)

/-- The identifier of a node is a digest. -/
theorem Complete.exists_digest (h : s.Complete os) {id : String}
    (hid : id ∈ s.parsing.inventory.graph.ids) : ∃ t, id = Identifier.digest t := by
  rcases (h.mem_ids_parsing id).mp hid with hid | hid
  · rcases (Containment.mem_ids_build _ _ _ _).mp hid with rfl | ⟨d, -, rfl⟩ | ⟨path, -, rfl⟩
    · exact ⟨_, rfl⟩
    · exact ⟨_, rfl⟩
    · exact ⟨_, rfl⟩
  · obtain ⟨x, hx, rfl⟩ := List.mem_map.mp hid
    obtain ⟨path, f, -, -, -, -, hauth⟩ := h.exists_of_mem_entries hx
    exact ⟨_, hauth.nodeId⟩

/-- The source of an offered relationship has no colon. -/
theorem Complete.colon_notMem_source (h : s.Complete os) {r : Relationship}
    (hr : r ∈ s.offered e) : ':' ∉ r.source.toList := by
  obtain ⟨t, ht⟩ := h.exists_digest (h.placed_of_mem_offered hr).source
  rw [ht]
  exact Identifier.colon_notMem_digest t

/-- The identifier of an offered relationship is the digest of its text. -/
theorem Complete.id_eq_of_mem_offered (h : s.Complete os) {r : Relationship}
    (hr : r ∈ s.offered e) : r.id = Identifier.digest r.idSource := by
  rw [(h.placed_of_mem_offered hr).between, Relationship.id_between]

/-- Offers under the same identifier connect the same nodes in the same way. -/
theorem Complete.ends_eq_of_id_eq (h : s.Complete os) (hinj : s.Injective e)
    {r r' : Relationship} (hr : r ∈ s.offered e) (hr' : r' ∈ s.offered e) (hid : r.id = r'.id) :
    r.source = r'.source ∧ r.kind = r'.kind ∧ r.target = r'.target := by
  rw [h.id_eq_of_mem_offered hr, h.id_eq_of_mem_offered hr'] at hid
  exact Relationship.idSource_inj (h.colon_notMem_source hr) (h.colon_notMem_source hr')
    (hinj (mem_texts_of_offered hr) (mem_texts_of_offered hr') hid)

/-- What is kept was offered. -/
theorem Complete.mem_offered (h : s.Complete os) {r : Relationship}
    (hr : r ∈ (s.graph e).relationships) : r ∈ s.offered e := by
  rw [h.keeps e] at hr
  exact (mem_of_mem_fresh hr).1

/-- Every offer is kept, or another one between the same nodes. -/
theorem Complete.exists_kept (h : s.Complete os) (hinj : s.Injective e) {r : Relationship}
    (hr : r ∈ s.offered e) :
    ∃ r' ∈ (s.graph e).relationships, r'.source = r.source ∧ r'.kind = r.kind ∧
      r'.target = r.target := by
  rcases exists_mem_fresh ([] : List String) hr with hnil | ⟨r', hr', hid⟩
  · cases hnil
  · refine ⟨r', ?_, h.ends_eq_of_id_eq hinj (mem_of_mem_fresh hr').1 hr hid⟩
    rw [h.keeps e]
    exact hr'

/-- A call with a target has a relationship from where it starts to where it leads. -/
theorem Complete.exists_call (h : s.Complete os) (hinj : s.Injective e) {c : ClassifiedCall}
    (hc : c ∈ (s.links e).calls.sites) (htarget : c.target.isSome = true) :
    ∃ r ∈ (s.graph e).relationships, r.kind = .calls ∧
      Calls.Leads s.parsing.inventory.graph s.skeleton.fileIds c (r.source, r.target) := by
  obtain ⟨key, hleads⟩ := h.leads hc htarget
  obtain ⟨f, -, -, hstate, hmeans⟩ := exists_of_mem_sites hc
  have hresolved : c.state ≠ .unresolved := by
    rw [hmeans, CallContext.isSome_classify_iff, ← hstate] at htarget
    rcases htarget with heq | heq <;> rw [heq] <;> decide
  have hjoined : Calls.Joined s.parsing.inventory.graph s.skeleton.fileIds (s.links e).calls := by
    rw [calls_links]
    exact Calls.joined_ofFiles _ _ _ _
  obtain ⟨r, hr, hkind, hsource, hid⟩ := hjoined.exists_relationship hc hresolved hleads
  obtain ⟨r', hr', hsource', hkind', hid'⟩ :=
    h.exists_kept hinj (List.mem_append_right _ (List.mem_append_right _ hr))
  refine ⟨r', hr', hkind'.trans hkind, ?_⟩
  rw [hsource', hid', hsource, hid]
  exact hleads

/-! ### Kinds of relationships -/

/-- Containment, definition and membership are offered before resolution. -/
theorem kind_of_mem_held {r : Relationship} (hr : r ∈ s.heldRelationships) :
    r.kind = .contains ∨ r.kind = .defines ∨ r.kind = .belongsTo := by
  rcases List.mem_append.mp hr with hr | hr
  · obtain ⟨x, hx, hr⟩ := List.mem_flatMap.mp hr
    rcases Containment.mem_offers.mp hx with ⟨d, -, rfl⟩ | ⟨path, -, rfl⟩
    · obtain rfl := List.mem_singleton.mp hr
      exact .inl rfl
    · obtain rfl := List.mem_singleton.mp hr
      exact .inl rfl
  · obtain ⟨x, -, hr⟩ := List.mem_flatMap.mp hr
    rcases List.mem_cons.mp hr with rfl | hr
    · exact .inr (.inl rfl)
    · obtain ⟨owner, -, rfl⟩ := Inventory.exists_of_membership? (Option.mem_toList.mp hr)
      exact .inr (.inr rfl)

/-- Where an offered relationship comes from can be read off its kind. -/
theorem mem_offered_cases {r : Relationship} (hr : r ∈ s.offered e) :
    (r ∈ s.heldRelationships ∧
        (r.kind = .contains ∨ r.kind = .defines ∨ r.kind = .belongsTo)) ∨
      (r ∈ (s.links e).imports.relationships s.skeleton.fileIds ∧ r.kind = .imports) ∨
      (r ∈ (s.links e).heritage.relationships ∧
        (r.kind = .inherits ∨ r.kind = .implements)) ∨
      (r ∈ (s.links e).calls.relationships ∧
        r.kind = .calls) := by
  rcases List.mem_append.mp hr with hr | hr
  · exact .inl ⟨hr, kind_of_mem_held hr⟩
  rcases List.mem_append.mp hr with hr | hr
  · rcases List.mem_append.mp hr with hr | hr
    · exact .inr (.inl ⟨hr, Imports.kind_of_mem_relationships hr⟩)
    · exact .inr (.inr (.inl ⟨hr, Heritage.kind_of_mem_relationships hr⟩))
  · exact .inr (.inr (.inr ⟨hr, Calls.kind_of_mem_relationships hr⟩))

/-- Of the offers, the relationships of imports are those of the imports. -/
theorem filter_offered_imports (s : Stages) (e : Engine) :
    (s.offered e).filter (·.kind = .imports) =
      (s.links e).imports.relationships s.skeleton.fileIds := by
  have hheld : ∀ r ∈ s.heldRelationships, r.kind ≠ .imports := by
    intro r hr
    rcases kind_of_mem_held hr with hkind | hkind | hkind <;> simp [hkind]
  have hheritage : ∀ r ∈ (s.links e).heritage.relationships, r.kind ≠ .imports := by
    intro r hr
    rcases Heritage.kind_of_mem_relationships hr with hkind | hkind <;> simp [hkind]
  have hcalls : ∀ r ∈ (s.links e).calls.relationships, r.kind ≠ .imports := by
    intro r hr
    simp [Calls.kind_of_mem_relationships hr]
  rw [offered, resolvedRelationships, List.filter_append, List.filter_append, List.filter_append,
    filter_kind_eq_nil hheld, filter_kind_eq_nil hheritage, filter_kind_eq_nil hcalls,
    filter_kind_eq_self fun r hr => Imports.kind_of_mem_relationships hr, List.nil_append,
    List.append_nil, List.append_nil]

/-- Of the offers, the relationships of calls are those of the calls. -/
theorem filter_offered_calls (s : Stages) (e : Engine) :
    (s.offered e).filter (·.kind = .calls) =
      (s.links e).calls.relationships := by
  have hheld : ∀ r ∈ s.heldRelationships, r.kind ≠ .calls := by
    intro r hr
    rcases kind_of_mem_held hr with hkind | hkind | hkind <;> simp [hkind]
  have himports : ∀ r ∈ (s.links e).imports.relationships s.skeleton.fileIds,
      r.kind ≠ .calls := by
    intro r hr
    simp [Imports.kind_of_mem_relationships hr]
  have hheritage : ∀ r ∈ (s.links e).heritage.relationships, r.kind ≠ .calls := by
    intro r hr
    rcases Heritage.kind_of_mem_relationships hr with hkind | hkind <;> simp [hkind]
  rw [offered, resolvedRelationships, List.filter_append, List.filter_append, List.filter_append,
    filter_kind_eq_nil hheld, filter_kind_eq_nil himports, filter_kind_eq_nil hheritage,
    filter_kind_eq_self fun r hr => Calls.kind_of_mem_relationships hr, List.nil_append,
    List.nil_append, List.nil_append]

/-- If the offers of a kind connect different pairs of nodes, then all of them are kept. -/
theorem Complete.ofKind_eq (h : s.Complete os) (hinj : s.Injective e) {kind : RelKind}
    {rs : List Relationship} (hoffered : (s.offered e).filter (·.kind = kind) = rs)
    (hends : (rs.map fun r => (r.source, r.target)).Nodup) :
    (s.graph e).ofKind kind = rs := by
  have hkinds : ∀ r ∈ s.offered e, ∀ r' ∈ s.offered e, r.id = r'.id →
      decide (r.kind = kind) = decide (r'.kind = kind) := fun r hr r' hr' hid => by
    rw [(h.ends_eq_of_id_eq hinj hr hr' hid).2.1]
  have hmem : ∀ r ∈ rs, r ∈ s.offered e := fun r hr => by
    rw [← hoffered] at hr
    exact List.mem_of_mem_filter hr
  have hids : (rs.map Relationship.id).Nodup := by
    refine hends.of_map.map_on fun r hr r' hr' hid => ?_
    obtain ⟨hsource, -, htarget⟩ := h.ends_eq_of_id_eq hinj (hmem r hr) (hmem r' hr') hid
    exact List.inj_on_of_nodup_map hends hr hr' (Prod.ext hsource htarget)
  rw [Graph.ofKind, h.keeps e, filter_fresh hkinds, hoffered]
  exact fresh_eq_self hids fun _ _ => List.not_mem_nil

end Stages

end CodeGraph
