import CodeGraph.Proofs.DigestNumbers
import CodeGraph.Proofs.Nodes

/-!
# Runs whose digests are different

To see that no two texts of a run have the same digest, it is enough to compare the first digits of
the digests of a list that holds all of them. Without folders and methods, the plan, the parse
results and the links of a run tell such a list. It names the ends of relationships by their texts,
so that nothing has to be hashed to find it.

## Main definitions

* `TextEdge`: a relationship with the texts of its ends.
* `Identifier.Separates`: a table shows that the digests of nodes and edges start differently.
* `Outline`: what tells the texts of a run without folders and methods.
* `Stages.outline`: the outline of a run.

## Main results

* `Identifier.injOn_digest`: digests that start differently are different.
* `Stages.Complete.mem_texts_outline`: the outline tells all texts of a run.
* `Engine.injOn_hashed_of_outline`: the digests of a run with a given outline.
-/

namespace CodeGraph

open Inventory (Entry)

/-! ### First digits -/

namespace Identifier

/-- The digits of an identifier, by numbers. -/
def numberDigits (raw : String) : List Char :=
  ((Digest.sha256Numbers (Digest.byteNumbers raw.toUTF8)).toList.flatMap Digest.hexDigits).take 24

/-- Digests are evaluated by numbers. -/
theorem toList_digest (raw : String) : (digest raw).toList = numberDigits raw := by
  rw [digest, Text.take, Digest.toList_ofText, String.toList_ofList, numberDigits]

theorem digest_eq_iff {raw id : String} : digest raw = id ↔ numberDigits raw = id.toList := by
  rw [← String.toList_inj, toList_digest]

/-- The first four digits of the digest of a text. -/
def firstDigits (raw : String) : List Char :=
  (digest raw).toList.take 4

/-- The first digits are evaluated by numbers. -/
theorem firstDigits_eq (raw : String) : firstDigits raw = (numberDigits raw).take 4 := by
  rw [firstDigits, toList_digest]

/-- If digests start differently, they are different. -/
theorem injOn_digest {texts : List String} (h : (texts.map firstDigits).Nodup) :
    Set.InjOn digest {t | t ∈ texts} := by
  intro t ht t' ht' heq
  refine List.inj_on_of_nodup_map h ht ht' ?_
  rw [firstDigits, heq, firstDigits]

end Identifier

/-! ### Tables of digests -/

/-- The kind of a relationship, and the texts of its ends. -/
structure TextEdge where
  kind : RelKind
  source : String
  target : String
deriving DecidableEq

namespace TextEdge

/-- The text of the relationship. -/
def text (x : TextEdge) : String :=
  (Relationship.between x.kind (Identifier.digest x.source) (Identifier.digest x.target)).idSource

/-- A relationship with the kind and the ends of an edge has its text. -/
theorem idSource_eq {x : TextEdge} {r : Relationship} (hkind : r.kind = x.kind)
    (hsource : r.source = Identifier.digest x.source)
    (htarget : r.target = Identifier.digest x.target) : r.idSource = x.text := by
  rw [text, Relationship.idSource, Relationship.idSource, hkind, hsource, htarget]
  rfl

end TextEdge

namespace Identifier

variable {ids : OrderedMap String String} {nodes : List String} {edges : List TextEdge}

/-- The first digits of the digest of an edge, by a table with the digests of nodes. -/
def edgeDigits (ids : OrderedMap String String) (x : TextEdge) : List Char :=
  (numberDigits (Relationship.between x.kind
    (ids.getD x.source "") (ids.getD x.target "")).idSource).take 4

/-- The first digits of the digests of nodes and edges, by a table with the digests of nodes. -/
def tableDigits (ids : OrderedMap String String) (nodes : List String) (edges : List TextEdge) :
    List (List Char) :=
  nodes.map (fun text => (ids.getD text "").toList.take 4) ++ edges.map (edgeDigits ids)

/-- By a table with the digests of nodes, the digests of nodes and edges start differently. -/
def Separates (ids : OrderedMap String String) (nodes : List String) (edges : List TextEdge) :
    Prop :=
  (∀ x ∈ ids.toList, numberDigits x.1 = x.2.toList) ∧
    (∀ text ∈ nodes, ids.contains text = true) ∧
    (∀ x ∈ edges, ids.contains x.source = true ∧ ids.contains x.target = true) ∧
    (tableDigits ids nodes edges).Nodup

instance : Decidable (Separates ids nodes edges) :=
  inferInstanceAs (Decidable (_ ∧ _))

/--
A table separates nodes and edges if it is right about each digest and no two of them start alike.
The digests are told one at a time, which takes less memory to evaluate than all of them at once.
-/
theorem Separates.of_forall₂ {digits : List String}
    (hids : ∀ x ∈ ids.toList, numberDigits x.1 = x.2.toList)
    (hedges : List.Forall₂ (fun x y => edgeDigits ids x = y.toList) edges digits)
    (hnodes : ∀ text ∈ nodes, ids.contains text = true)
    (hends : ∀ x ∈ edges, ids.contains x.source = true ∧ ids.contains x.target = true)
    (hnodup : (nodes.map (fun text => (ids.getD text "").toList.take 4)
      ++ digits.map String.toList).Nodup) : Separates ids nodes edges := by
  have hdigits : edges.map (edgeDigits ids) = digits.map String.toList := by
    rw [← List.forall₂_eq_eq_eq, List.forall₂_map_left_iff, List.forall₂_map_right_iff]
    exact hedges
  rw [← hdigits] at hnodup
  exact ⟨hids, hnodes, hends, hnodup⟩

/-- What a table says about digests is right. -/
theorem Separates.firstDigits_eq (h : Separates ids nodes edges) :
    (nodes ++ edges.map TextEdge.text).map firstDigits = tableDigits ids nodes edges := by
  obtain ⟨hids, hnodes, hends, -⟩ := h
  have hid : ∀ {text}, ids.contains text = true → ids.getD text "" = digest text := by
    intro text hcontains
    obtain ⟨id, hget⟩ := Option.isSome_iff_exists.mp hcontains
    rw [OrderedMap.getD, hget, Option.getD_some]
    exact (digest_eq_iff.mpr (hids (text, id) (OrderedMap.mem_toList_of_get? hget))).symm
  have hfirst : ∀ text ∈ nodes, firstDigits text = (ids.getD text "").toList.take 4 :=
    fun text htext => by rw [firstDigits, hid (hnodes text htext)]
  have hedge : ∀ x ∈ edges, firstDigits x.text = edgeDigits ids x := fun x hx => by
    rw [TextEdge.text, Identifier.firstDigits_eq, edgeDigits, hid (hends x hx).1,
      hid (hends x hx).2]
  rw [List.map_append, tableDigits, List.map_map, List.map_congr_left hfirst]
  refine congrArg _ (List.map_congr_left fun x hx => ?_)
  rw [Function.comp_apply, hedge x hx]

/-- The digests of nodes and edges start differently. -/
theorem Separates.nodup (h : Separates ids nodes edges) :
    ((nodes ++ edges.map TextEdge.text).map firstDigits).Nodup := by
  rw [h.firstDigits_eq]
  exact h.2.2.2

end Identifier

/-! ### Outlines -/

/-- What tells the texts of a run without folders and methods. -/
structure Outline where
  project : String
  visible : List String
  /-- Files, kinds and texts of the definitions. -/
  definitions : List (String × DefinitionKind × String)
  /-- Files with the files they import. -/
  imports : List (String × String)
  /-- Types with other types that they extend or implement. -/
  heritage : List TextEdge
  /-- Files, states and targets of the calls. -/
  calls : List (String × Classification × Option String)
deriving DecidableEq

namespace Outline

variable (o : Outline)

/-- The texts of the nodes. -/
def nodeTexts : List String :=
  Identifier.structureText .project o.project
    :: o.visible.map (Identifier.structureText .file) ++ o.definitions.map (·.2.2)

/-- The texts that a call in a file may come from: those of the file and of its callables. -/
def callerTexts (path : String) : List String :=
  Identifier.structureText .file path
    :: (o.definitions.filter fun d => d.1 = path && d.2.1.isCallable).map (·.2.2)

/-- The edges that hold files and define definitions. -/
def heldEdges : List TextEdge :=
  o.visible.map (fun path => ⟨.contains, Identifier.structureText .project o.project,
      Identifier.structureText .file path⟩)
    ++ o.definitions.map fun d => ⟨.defines, Identifier.structureText .file d.1, d.2.2⟩

/-- The edges between files. -/
def importEdges : List TextEdge :=
  o.imports.map fun (path, target) =>
    ⟨.imports, Identifier.structureText .file path, Identifier.structureText .file target⟩

/-- The edges from files and callables to what they may call. -/
def callEdges : List TextEdge :=
  o.calls.flatMap fun (path, _, target) =>
    target.toList.flatMap fun text => (o.callerTexts path).map (⟨.calls, ·, text⟩)

/-- All edges. -/
def edges : List TextEdge :=
  o.heldEdges ++ o.importEdges ++ o.heritage ++ o.callEdges

theorem mem_edges {o : Outline} {x : TextEdge} : x ∈ o.edges ↔
    x ∈ o.heldEdges ∨ x ∈ o.importEdges ∨ x ∈ o.heritage ∨ x ∈ o.callEdges := by
  simp only [edges, List.mem_append, or_assoc]

/-- All texts. -/
def texts : List String :=
  o.nodeTexts ++ o.edges.map TextEdge.text

/-- There are no folders and no methods. -/
def Flat : Prop :=
  Containment.allFolders o.visible = [] ∧ ∀ d ∈ o.definitions, d.2.1 ≠ .methodDecl

instance : Decidable o.Flat :=
  inferInstanceAs (Decidable (_ ∧ _))

/-- By a table with the digests of the nodes, the digests of all texts start differently. -/
def Separates (ids : OrderedMap String String) : Prop :=
  Identifier.Separates ids o.nodeTexts o.edges

instance (ids : OrderedMap String String) : Decidable (o.Separates ids) :=
  inferInstanceAs (Decidable (Identifier.Separates _ _ _))

/-- The digests of all texts start differently. -/
theorem Separates.nodup {o : Outline} {ids : OrderedMap String String} (h : o.Separates ids) :
    (o.texts.map Identifier.firstDigits).Nodup :=
  Identifier.Separates.nodup h

end Outline

namespace Stages

variable {s : Stages} {os : List FileOutcome} {e : Engine}

/-- The edges from types to other types. -/
def heritageEdges (s : Stages) (e : Engine) : List TextEdge :=
  s.files.flatMap fun f => (f.2.definitions.filter (·.kind.isType)).flatMap fun d =>
    (Heritage.linksOf s.parsing.inventory.registry (s.links e).imports.map f.1 d).filterMap fun l =>
      (l.target.filter (·.1.idSource ≠ d.idSource)).map fun t => ⟨l.kind, d.idSource, t.1.idSource⟩

/-- The outline of a run. -/
def outline (s : Stages) (e : Engine) : Outline where
  project := s.request.projectName
  visible := s.plan.visible
  definitions := s.files.flatMap fun f => f.2.definitions.map fun d => (f.1, d.kind, d.idSource)
  imports := (s.links e).imports.files.flatMap fun f => f.edges.keys.map (f.path, ·)
  heritage := s.heritageEdges e
  calls := ((s.callContext e).classified s.parsing.parsed).map fun c =>
    (c.path, c.state, c.target.map Definition.idSource)

/-- The texts of the definitions are those of the outline. -/
theorem texts_definitions_outline (s : Stages) (e : Engine) :
    (s.outline e).definitions.map (·.2.2) = s.definitions.map Definition.idSource := by
  simp only [outline, definitions, List.map_flatMap, List.map_map]
  rfl

/-- Without folders, the nodes have the texts of the outline. -/
theorem nodeTexts_outline (hfolders : Containment.allFolders s.plan.visible = []) :
    (s.outline e).nodeTexts = s.nodeTexts := by
  rw [Outline.nodeTexts, texts_definitions_outline, nodeTexts, structureTexts,
    show s.plan.visible.flatMap Path.folders = [] from hfolders]
  rfl

/-- A definition of the run is in the outline. -/
theorem Complete.mem_definitions_outline (h : s.Complete os) (e : Engine) {d : Definition}
    (hd : d ∈ s.definitions) : (d.filePath, d.kind, d.idSource) ∈ (s.outline e).definitions := by
  obtain ⟨⟨path, f⟩, hf, hd⟩ := List.mem_flatMap.mp hd
  obtain ⟨-, hpath, hauth⟩ := h.exists_of_mem_files hf
  refine List.mem_flatMap.mpr ⟨(path, f), hf, List.mem_map.mpr ⟨d, hd, ?_⟩⟩
  rw [(hauth.definitions d hd).filePath, hpath]

/-! ### All edges are in the outline -/

/-- The identifier of a definition of a parsed file is the digest of its text. -/
theorem Complete.nodeId_eq (h : s.Complete os) {path : String} {f : ParsedFile}
    (hf : (path, f) ∈ s.files) {d : Definition} (hd : d ∈ f.definitions) :
    d.nodeId = Identifier.digest d.idSource :=
  ((h.exists_of_mem_files hf).2.2.definitions d hd).nodeId

/-- An entered definition is one of a parsed file. -/
theorem Complete.exists_of_mem_entered (h : s.Complete os) {d : Definition}
    (hd : d ∈ s.entered.map Entry.definition) :
    ∃ path f, (path, f) ∈ s.files ∧ d ∈ f.definitions := by
  obtain ⟨x, hx, rfl⟩ := List.mem_map.mp hd
  obtain ⟨path, f, hf, -, hdef, -⟩ := h.exists_of_mem_entries (mem_of_mem_fresh hx).1
  exact ⟨path, f, hf, hdef⟩

/-- Without folders and methods, what is offered before resolution holds files or defines. -/
theorem Complete.text_of_mem_held (h : s.Complete os) (hflat : (s.outline e).Flat)
    {r : Relationship} (hr : r ∈ s.heldRelationships) :
    ∃ x ∈ (s.outline e).heldEdges, r.idSource = x.text := by
  rcases List.mem_append.mp hr with hr | hr
  · obtain ⟨x, hx, hr⟩ := List.mem_flatMap.mp hr
    rcases Containment.mem_offers.mp hx with ⟨folder, hfolder, -⟩ | ⟨path, hp, rfl⟩
    · rw [show Containment.allFolders s.plan.visible = [] from hflat.1] at hfolder
      cases hfolder
    · obtain rfl := List.mem_singleton.mp hr
      have hnone : Path.folders path = [] := List.flatMap_eq_nil_iff.mp hflat.1 path hp
      refine ⟨_, List.mem_append_left _ (List.mem_map_of_mem hp), ?_⟩
      rw [Containment.fileEdge, hnone]
      exact TextEdge.idSource_eq rfl rfl rfl
  · obtain ⟨x, hx, hr⟩ := List.mem_flatMap.mp hr
    obtain ⟨path, f, hf, hfile, hdef, -⟩ := h.exists_of_mem_entries (mem_of_mem_fresh hx).1
    have hmem : (path, x.definition.kind, x.definition.idSource) ∈ (s.outline e).definitions :=
      List.mem_flatMap.mpr ⟨(path, f), hf, List.mem_map_of_mem hdef⟩
    have hnone : Inventory.membership? x.types x.definition = none := by
      simp [Inventory.membership?, hflat.2 _ hmem]
    rw [Entry.links, hnone] at hr
    obtain rfl := List.mem_singleton.mp hr
    refine ⟨_, List.mem_append_right _ (List.mem_map_of_mem hmem), ?_⟩
    exact TextEdge.idSource_eq rfl hfile (h.nodeId_eq hf hdef)

/-- Imports connect two files. -/
theorem text_of_mem_imports {r : Relationship}
    (hr : r ∈ (s.links e).imports.relationships s.skeleton.fileIds) :
    ∃ x ∈ (s.outline e).importEdges, r.idSource = x.text := by
  obtain ⟨f, hf, hr⟩ := List.mem_flatMap.mp hr
  obtain ⟨⟨target, edge⟩, hedge, hr⟩ := List.mem_filterMap.mp hr
  obtain ⟨sourceId, hsource, hr⟩ := Option.bind_eq_some_iff.mp hr
  obtain ⟨targetId, htarget, hr⟩ := Option.bind_eq_some_iff.mp hr
  obtain rfl := Option.some.inj hr
  have hid : ∀ {path id : String}, s.skeleton.fileIds.get? path = some id →
      id = Identifier.digest (Identifier.structureText .file path) := by
    intro path id hid
    rw [get?_fileIds] at hid
    exact (Option.some.inj (Option.ite_none_right_eq_some.mp hid).2).symm
  have hmem : (f.path, target) ∈ (s.outline e).imports :=
    List.mem_flatMap.mpr ⟨f, hf, List.mem_map_of_mem (List.mem_map_of_mem hedge)⟩
  refine ⟨_, List.mem_map_of_mem hmem, ?_⟩
  exact TextEdge.idSource_eq rfl (hid hsource) (hid htarget)

/-- Heritage connects two definitions with different texts. -/
theorem Complete.text_of_mem_heritage (h : s.Complete os) {r : Relationship}
    (hr : r ∈ (s.links e).heritage.relationships) :
    ∃ x ∈ s.heritageEdges e, r.idSource = x.text := by
  obtain ⟨link, hlink, hrel⟩ := Heritage.exists_link_of_mem hr
  obtain ⟨path, p, hp, howner, hlinksOf, htype, -, -, hmeans⟩ :=
    Heritage.exists_of_mem_links hlink
  obtain ⟨target, source, htarget, hne, rfl⟩ := Heritage.exists_of_relationship? hrel
  obtain ⟨hmem, -⟩ := Heritage.resolveType_cases h.holds.toLists (hmeans.symm.trans htarget)
  obtain ⟨path', g, hg, hdef⟩ := h.exists_of_mem_entered hmem
  rw [h.nodeId_eq hg hdef, h.nodeId_eq hp howner] at hne
  have htext : target.idSource ≠ link.owner.idSource := fun heq =>
    hne (congrArg Identifier.digest heq)
  refine ⟨⟨link.kind, link.owner.idSource, target.idSource⟩, List.mem_flatMap.mpr ⟨(path, p), hp,
    List.mem_flatMap.mpr ⟨link.owner, List.mem_filter.mpr ⟨howner, htype⟩,
      List.mem_filterMap.mpr ⟨link, hlinksOf, ?_⟩⟩⟩, ?_⟩
  · rw [htarget, Option.filter_some, if_pos (decide_eq_true htext)]
    rfl
  · exact TextEdge.idSource_eq rfl (h.nodeId_eq hp howner) (h.nodeId_eq hg hdef)

/-- Calls lead to their targets, from files and callables. -/
theorem Complete.text_of_mem_calls (h : s.Complete os) {r : Relationship}
    (hr : r ∈ (s.links e).calls.relationships) :
    ∃ x ∈ (s.outline e).callEdges, r.idSource = x.text := by
  obtain ⟨edge, hbetween, c, hc, d, hd, hsource, htarget, -⟩ := s.exists_of_mem_calls hr
  obtain ⟨path', g, hg, hdef⟩ := h.exists_of_mem_entered (h.target_mem_entered hc hd)
  obtain ⟨f, hf, hsite, -, -⟩ := exists_of_mem_sites hc
  obtain ⟨hvisible, -, hauth⟩ := h.exists_of_mem_files hf
  obtain ⟨text, htext, hid⟩ :
      ∃ text ∈ (s.outline e).callerTexts c.path, r.source = Identifier.digest text := by
    rcases eq_some_or_of_orElse hsource with hcaller | hfileId
    · obtain ⟨hpresent, -⟩ := Option.filter_eq_some_iff.mp hcaller
      obtain ⟨hcaller, -⟩ := Option.filter_eq_some_iff.mp hpresent
      obtain ⟨d', hd', hcallable, hsame⟩ := hauth.caller c.site hsite _ hcaller
      have hmem : (c.path, d'.kind, d'.idSource) ∈ (s.outline e).definitions :=
        List.mem_flatMap.mpr ⟨(c.path, f), hf, List.mem_map_of_mem hd'⟩
      refine ⟨d'.idSource, List.mem_cons_of_mem _ (List.mem_map.mpr ⟨_, List.mem_filter.mpr
        ⟨hmem, by simp [hcallable]⟩, rfl⟩), hsame.symm.trans (h.nodeId_eq hf hd')⟩
    · rw [get?_fileIds, if_pos hvisible] at hfileId
      exact ⟨_, List.mem_cons_self, (Option.some.inj hfileId).symm⟩
  have hcall : (c.path, c.state, some d.idSource) ∈ (s.outline e).calls := by
    rw [sites_links] at hc
    refine List.mem_map.mpr ⟨c, hc, ?_⟩
    rw [hd]
    rfl
  refine ⟨⟨.calls, text, d.idSource⟩, List.mem_flatMap.mpr ⟨_, hcall, ?_⟩, ?_⟩
  · exact List.mem_flatMap.mpr ⟨d.idSource, List.mem_singleton_self _, List.mem_map_of_mem htext⟩
  · exact TextEdge.idSource_eq (congrArg Relationship.kind hbetween) hid
      (htarget.symm.trans (h.nodeId_eq hg hdef))

/-- Without folders and methods, the outline tells all texts of a run. -/
theorem Complete.mem_texts_outline (h : s.Complete os) (hflat : (s.outline e).Flat) {t : String}
    (ht : t ∈ s.texts e) : t ∈ (s.outline e).texts := by
  rcases List.mem_append.mp ht with ht | ht
  · refine List.mem_append_left _ ?_
    rw [nodeTexts_outline hflat.1]
    exact ht
  · obtain ⟨r, hr, rfl⟩ := List.mem_map.mp ht
    have hedge : ∃ x ∈ (s.outline e).edges, r.idSource = x.text := by
      rcases mem_offered_cases hr with ⟨hr, -⟩ | ⟨hr, -⟩ | ⟨hr, -⟩ | ⟨hr, -⟩
      · obtain ⟨x, hx, htext⟩ := h.text_of_mem_held hflat hr
        exact ⟨x, Outline.mem_edges.mpr (.inl hx), htext⟩
      · obtain ⟨x, hx, htext⟩ := text_of_mem_imports hr
        exact ⟨x, Outline.mem_edges.mpr (.inr (.inl hx)), htext⟩
      · obtain ⟨x, hx, htext⟩ := h.text_of_mem_heritage hr
        exact ⟨x, Outline.mem_edges.mpr (.inr (.inr (.inl hx))), htext⟩
      · obtain ⟨x, hx, htext⟩ := h.text_of_mem_calls hr
        exact ⟨x, Outline.mem_edges.mpr (.inr (.inr (.inr hx))), htext⟩
    obtain ⟨x, hx, htext⟩ := hedge
    rw [htext]
    exact List.mem_append_right _ (List.mem_map_of_mem hx)

/-! ### The outline is in the graph -/

/-- The heritage of the outline is in the graph. -/
theorem Complete.exists_of_mem_heritage (h : s.Complete os) (hinj : s.Injective e) {x : TextEdge}
    (hx : x ∈ (s.outline e).heritage) :
    ∃ r ∈ (s.graph e).relationships, r.kind = x.kind ∧
      r.source = Identifier.digest x.source ∧ r.target = Identifier.digest x.target := by
  obtain ⟨⟨path, f⟩, hf, hx⟩ := List.mem_flatMap.mp hx
  obtain ⟨owner, howner, hx⟩ := List.mem_flatMap.mp hx
  obtain ⟨link, hlink, hx⟩ := List.mem_filterMap.mp hx
  obtain ⟨⟨target, source⟩, htarget, rfl⟩ := Option.map_eq_some_iff.mp hx
  obtain ⟨hmeans, htext⟩ := Option.filter_eq_some_iff.mp htarget
  obtain ⟨hmem, htype⟩ := List.mem_filter.mp howner
  obtain ⟨hlinkOwner, -, hlinkMeans⟩ := Heritage.eq_of_mem_linksOf hlink
  obtain ⟨hentered, -⟩ :=
    Heritage.resolveType_cases h.holds.toLists (hlinkMeans.symm.trans hmeans)
  obtain ⟨path', g, hg, hdef⟩ := h.exists_of_mem_entered hentered
  have hne : target.nodeId ≠ link.owner.nodeId := by
    rw [hlinkOwner, h.nodeId_eq hg hdef, h.nodeId_eq hf hmem]
    exact fun heq => of_decide_eq_true htext
      (hinj (idSource_mem_texts hg hdef) (idSource_mem_texts hf hmem) heq)
  obtain ⟨rel, hrel, hkind, hsource, htarget⟩ := Heritage.exists_of_target
    (Heritage.mem_links hf hmem htype (h.hasNode_imports e hf hmem) hlink) hmeans hne
  obtain ⟨r, hr, hsource', hkind', htarget'⟩ := h.exists_kept hinj
    (List.mem_append_right _ (List.mem_append_left _ (List.mem_append_right _ hrel)))
  rw [hlinkOwner, h.nodeId_eq hf hmem] at hsource
  rw [h.nodeId_eq hg hdef] at htarget
  exact ⟨r, hr, hkind'.trans hkind, hsource'.trans hsource, htarget'.trans htarget⟩

/-- The calls of the outline are those of the run. -/
theorem exists_of_mem_calls_outline {path text : String} {state : Classification}
    (hc : (path, state, some text) ∈ (s.outline e).calls) :
    ∃ c ∈ (s.links e).calls.sites, c.path = path ∧ c.state = state ∧
      c.target.map Definition.idSource = some text := by
  obtain ⟨c, hmem, heq⟩ := List.mem_map.mp hc
  simp only [Prod.mk.injEq] at heq
  rw [← sites_links] at hmem
  exact ⟨c, hmem, heq⟩

/-- If the texts of the full stages have different digests, then the stages were full. -/
theorem Complete.full_eq_of_outline (h : s.Complete os) {o : Outline}
    (houtline : s.full.outline e = o) (hflat : o.Flat)
    (hnodup : (o.texts.map Identifier.firstDigits).Nodup) : s.full = s := by
  have htexts : o.nodeTexts = s.nodeTexts := by
    rw [← houtline]
    exact nodeTexts_outline (s := s.full) (houtline ▸ hflat).1
  have hnodes : (o.nodeTexts.map Identifier.firstDigits).Nodup := by
    rw [Outline.texts, List.map_append] at hnodup
    exact hnodup.of_append_left
  rw [htexts] at hnodes
  exact h.full_eq (Identifier.injOn_digest hnodes) (List.Nodup.of_append_right hnodes.of_map)

end Stages

/-- The digests of a run with a given outline are different if they start differently. -/
theorem Engine.injOn_hashed_of_outline {e : Engine} {request : Request} {i : Interruptions}
    {cache : Cache} (hcache : cache.Reachable)
    (hreturns : (e.run request i cache).1.toBool = true) {o : Outline}
    (houtline : (e.stages? request i cache).map (fun s => s.full.outline e) = some o)
    (hflat : o.Flat) (hnodup : (o.texts.map Identifier.firstDigits).Nodup) :
    Set.InjOn Identifier.digest {t | t ∈ e.hashed request i cache} := by
  obtain ⟨res, hrun⟩ := Except.exists_eq_ok_of_toBool hreturns
  obtain ⟨s, os, after, hstages, -, -, hs, -⟩ := Engine.exists_complete hcache.sound hrun
  rw [hstages, Option.map_some] at houtline
  have hfull : s.full = s := hs.full_eq_of_outline (Option.some.inj houtline) hflat hnodup
  rw [hfull] at houtline
  obtain rfl := Option.some.inj houtline
  refine Stages.Injective.hashed ?_ hstages
  exact (Identifier.injOn_digest hnodup).mono fun t ht => hs.mem_texts_outline hflat ht

end CodeGraph
