import CodeGraph.Proofs.Nodes

/-!
# What the nodes of files say

Every visible file is described exactly once: as a file without content before anything is parsed,
or by its outcome. Its node therefore says of one of three ends that the file came to it, and how
many definitions were entered for it.

## Main definitions

* `Plan.blank`, `Plan.hidden`: the excluded files with and without a node.
* `Graph.files`: the nodes of files.
* `Stages.enteredIn`: the entered definitions of a file.
* `Tells`: what the properties of a file node say.

## Main results

* `Parsing.descriptions_eq_map_count`: each description counts the entered definitions of its file.
* `Stages.Complete.files_perm`: the nodes of files are those of the blank files and the outcomes.
* `Stages.Complete.tells_blank`, `Stages.Complete.tells_outcome`: what they say.
-/

namespace CodeGraph

open Inventory (Entry entriesOf entered)

/-! ### Excluded files -/

namespace Plan

variable {plan : Plan}

/-- The excluded files that have nodes: they only lack content. -/
def blank (p : Plan) : List String :=
  (p.files.filter fun f => f.2 = some .empty).map Prod.fst

/-- Whether a file with this exclusion has no node: a filter or an ignore rule excludes it. -/
def isHidden (reason : Option SkipReason) : Bool :=
  reason = some .directoryFilter || reason = some .extensionFilter || reason = some .ignored

/-- The excluded files without nodes. -/
def hidden (p : Plan) : List String :=
  (p.files.filter fun f => isHidden f.2).map Prod.fst

/-- A file of a plan has a node exactly if its exclusion lets it. -/
theorem mem_visible_iff (h : (plan.files.map Prod.fst).Nodup) {f : String × Option SkipReason}
    (hf : f ∈ plan.files) : f.1 ∈ plan.visible ↔ isVisible f.2 = true := by
  constructor
  · intro hmem
    obtain ⟨g, hg, hpath⟩ := List.mem_map.mp hmem
    obtain ⟨hg, hvisible⟩ := List.mem_filter.mp hg
    rwa [← List.inj_on_of_nodup_map h hg hf hpath]
  · intro hvisible
    exact List.mem_map_of_mem (List.mem_filter.mpr ⟨hf, hvisible⟩)

/-- The files with nodes are the blank ones and those that are parsed. -/
theorem visible_perm_blank_append (p : Plan) : p.visible.Perm (p.blank ++ p.pending) := by
  have hsplit := List.filter_append_perm (fun f : String × Option SkipReason => f.2 = some .empty)
    (p.files.filter fun f => isVisible f.2)
  have hblank : (p.files.filter fun f => isVisible f.2).filter (fun f => f.2 = some .empty) =
      p.files.filter fun f => f.2 = some .empty := by
    rw [List.filter_filter]
    refine List.filter_congr fun f _ => ?_
    cases hf : f.2 <;> simp [isVisible]
  have hpending : (p.files.filter fun f => isVisible f.2).filter (fun f => !(f.2 = some .empty)) =
      p.files.filter fun f => f.2.isNone := by
    rw [List.filter_filter]
    refine List.filter_congr fun f _ => ?_
    cases hf : f.2 <;> simp [isVisible]
  rw [hblank, hpending] at hsplit
  rw [visible, blank, pending, ← List.map_append]
  exact (hsplit.map Prod.fst).symm

end Plan

/-! ### Single descriptions -/

/-- If each description is for another node, a node is described by the one that is for it. -/
theorem Node.described_of_mem {ds : List (String × Properties)} {n : Node} {ps : Properties}
    (hnodup : (ds.map Prod.fst).Nodup) (hd : (n.id, ps) ∈ ds) :
    n.described ds = { n with properties := n.properties.insertAll ps.toList } := by
  rw [Node.described, filter_key_eq_singleton hnodup hd, List.foldl_cons, List.foldl_nil]

namespace FileOutcome

/-- The entries of a file carry its identifier. -/
theorem fileId_of_mem_entries {fileIds : OrderedMap String String} {o : FileOutcome} {x : Entry}
    (hx : x ∈ o.entries fileIds) : x.fileId = fileIds.getD o.path "" := by
  obtain ⟨f, -, d, -, rfl⟩ := exists_of_mem_entries hx
  rfl

end FileOutcome

/-- If files have different identifiers, each description counts the entered definitions of its
file. -/
theorem Parsing.descriptions_eq_map_count (fileIds contents : OrderedMap String String)
    {taken : List String} {os : List FileOutcome}
    (h : (os.map fun o => fileIds.getD o.path "").Nodup) :
    descriptions fileIds contents taken os = os.map fun o =>
      (fileIds.getD o.path "", o.description contents
        ((entered taken (os.flatMap (FileOutcome.entries fileIds))).filter
          (·.fileId = fileIds.getD o.path "")).length) := by
  induction os generalizing taken with
  | nil => rfl
  | cons o os ih =>
    rw [List.map_cons, List.nodup_cons] at h
    -- the entries of the first file and of the others are told apart by their file
    have hother : ∀ o' ∈ os, fileIds.getD o'.path "" ≠ fileIds.getD o.path "" := fun o' ho' heq =>
      h.1 (List.mem_map.mpr ⟨o', ho', heq⟩)
    have hfirst : (entered taken (o.entries fileIds)).filter
        (·.fileId = fileIds.getD o.path "") = entered taken (o.entries fileIds) :=
      List.filter_eq_self.mpr fun x hx =>
        decide_eq_true (FileOutcome.fileId_of_mem_entries (mem_of_mem_fresh hx).1)
    have hnone : ∀ o' ∈ os, (entered taken (o.entries fileIds)).filter
        (·.fileId = fileIds.getD o'.path "") = [] := fun o' ho' =>
      List.filter_eq_nil_iff.mpr fun x hx heq => hother o' ho' <|
        (of_decide_eq_true heq).symm.trans
          (FileOutcome.fileId_of_mem_entries (mem_of_mem_fresh hx).1)
    have hrest : (entered (taken ++ (o.entries fileIds).map Entry.id)
        (os.flatMap (FileOutcome.entries fileIds))).filter
          (·.fileId = fileIds.getD o.path "") = [] := by
      refine List.filter_eq_nil_iff.mpr fun x hx heq => ?_
      obtain ⟨o', ho', hx⟩ := List.mem_flatMap.mp (mem_of_mem_fresh hx).1
      exact hother o' ho' ((FileOutcome.fileId_of_mem_entries hx).symm.trans
        (of_decide_eq_true heq))
    have hsplit : entered taken ((o :: os).flatMap (FileOutcome.entries fileIds)) =
        entered taken (o.entries fileIds) ++ entered (taken ++ (o.entries fileIds).map Entry.id)
          (os.flatMap (FileOutcome.entries fileIds)) := by
      rw [List.flatMap_cons]
      exact fresh_append _ _ _ _
    rw [descriptions, ih h.2, List.map_cons, hsplit]
    simp only [List.filter_append, hfirst, hrest, List.append_nil]
    congr 1
    refine List.map_congr_left fun o' ho' => ?_
    rw [hnone o' ho', List.nil_append]

/-! ### What is said -/

/--
What the properties of a file node say: whether the file failed, why it was skipped if it was, and
how many definitions were entered for it.
-/
structure Tells (ps : Properties) (failed : Bool) (skip? : Option SkipReason) (count : Nat) :
    Prop where
  failure : ps.get? "parseError" = if failed then some (.bool true) else none
  skip : ps.get? "skipReason" = skip?.map fun reason => .text reason.code
  definitionCount : ps.get? "definitionCount" = some (.int count)
  noDefinitions : ps.get? "noDefinitions" = some (.bool (count = 0))

/-- A file that is skipped says why, and that it defines nothing. -/
theorem tells_skipped {ps : Properties} (hps : ps.get? "parseError" = none) (reason : SkipReason)
    (content : Bool) (category : Category) {details : List (String × PropertyValue)}
    (hdetails : ∀ key ∈ ["parseError", "skipReason", "definitionCount", "noDefinitions"],
      key ∉ details.map Prod.fst) :
    Tells (ps.insertAll (skippedProperties reason content category details).toList) false
      (some reason) 0 := by
  have hget : ∀ key ∈ ["parseError", "skipReason", "definitionCount", "noDefinitions"],
      (ps.insertAll (skippedProperties reason content category details).toList).get? key =
        (ps.insertAll [("skipReason", .text reason.code), ("hasContent", .bool content),
          ("noDefinitions", .bool true), ("definitionCount", .int 0),
          ("category", .text category.name)]).get? key := by
    intro key hkey
    have hlanguage : key ∉ ((category.languageName?.map fun l =>
        ("language", PropertyValue.text l)).toList).map Prod.fst := by
      cases category.languageName? with
      | none => simp
      | some l =>
        simp only [List.mem_cons, List.not_mem_nil, or_false] at hkey
        rcases hkey with rfl | rfl | rfl | rfl <;> simp
    simp only [skippedProperties, OrderedMap.toList, OrderedMap.insertAll_append]
    rw [OrderedMap.get?_insertAll_of_notMem _ (hdetails key hkey),
      OrderedMap.get?_insertAll_of_notMem _ hlanguage]
  constructor
  case failure =>
    rw [hget _ (by simp)]
    simp [OrderedMap.insertAll, OrderedMap.get?_insert, hps]
  case skip =>
    rw [hget _ (by simp)]
    simp [OrderedMap.insertAll, OrderedMap.get?_insert]
  case definitionCount =>
    rw [hget _ (by simp)]
    simp [OrderedMap.insertAll, OrderedMap.get?_insert]
  case noDefinitions =>
    rw [hget _ (by simp)]
    simp [OrderedMap.insertAll, OrderedMap.get?_insert]

/-- What the description of an outcome says; only parsed files have definitions. -/
theorem FileOutcome.tells_description (contents : OrderedMap String String) (o : FileOutcome)
    {count : Nat} (hcount : o.parsed? = none → count = 0) {ps : Properties}
    (herror : ps.get? "parseError" = none) (hskip : ps.get? "skipReason" = none) :
    Tells (ps.insertAll (o.description contents count).toList) o.failure?.isSome o.skip? count := by
  obtain ⟨path, category, contentHash, fileSize, result⟩ := o
  cases result with
  | parsed file =>
    constructor <;>
      simp [description, parsedProperties, contentProperties, failure?, skip?, OrderedMap.toList,
        OrderedMap.insertAll, OrderedMap.get?_insert, herror, hskip]
  | failed failure =>
    obtain rfl : count = 0 := hcount rfl
    constructor <;>
      simp [description, failedProperties, contentProperties, failure?, skip?, OrderedMap.toList,
        OrderedMap.insertAll, OrderedMap.get?_insert, hskip]
  | skipped reason =>
    obtain rfl : count = 0 := hcount rfl
    exact tells_skipped herror reason _ category (by simp [contentProperties])

/-! ### The nodes of files -/

/-- The nodes of files. -/
def Graph.files (g : Graph) : List Node :=
  g.nodes.filter (·.label = .file)

namespace Stages

variable {s : Stages} {os : List FileOutcome} {e : Engine}

/-- The entered definitions of a file. -/
def enteredIn (s : Stages) (path : String) : List Entry :=
  s.entered.filter (·.fileId = Containment.fileId path)

/-- The node of a file without content. -/
def blankNode (s : Stages) (path : String) : Node :=
  { Containment.fileNode path with
    properties := (Containment.fileNode path).properties.insertAll
      (skippedProperties .empty (hasContent (s.request.fileContents.get? path)) .other []).toList }

/-- The node of a file with an outcome. -/
def outcomeNode (s : Stages) (o : FileOutcome) : Node :=
  { Containment.fileNode o.path with
    properties := (Containment.fileNode o.path).properties.insertAll
      (o.description s.request.fileContents (s.enteredIn o.path).length).toList }

/-- The identifiers of visible files are different. -/
theorem Complete.nodup_fileIds (h : s.Complete os) (hinj : s.Injective e) :
    (s.plan.visible.map Containment.fileId).Nodup :=
  (Plan.nodup_visible h.nodup).map_on fun _ hp _ hp' heq => fileId_inj hinj hp hp' heq

/-- The identifiers of blank files and of the files with outcomes are different. -/
theorem Complete.nodup_fileIds_append (h : s.Complete os) (hinj : s.Injective e) :
    ((s.plan.blank ++ os.map FileOutcome.path).map Containment.fileId).Nodup := by
  rw [h.paths]
  exact ((s.plan.visible_perm_blank_append.map _).nodup_iff).mp (h.nodup_fileIds hinj)

/-- The excluded files with nodes are the blank ones. -/
theorem excludedDescriptions_eq (h : (s.plan.files.map Prod.fst).Nodup) :
    Parsing.excludedDescriptions s.skeleton.fileIds s.request.fileContents s.plan.excluded =
      s.plan.blank.map fun path => (Containment.fileId path, skippedProperties .empty
        (hasContent (s.request.fileContents.get? path)) .other []) := by
  have hfiles : ∀ fs : List (String × Option SkipReason), (∀ f ∈ fs, f ∈ s.plan.files) →
      Parsing.excludedDescriptions s.skeleton.fileIds s.request.fileContents
        (fs.filterMap fun f => f.2.map (f.1, ·)) =
      ((fs.filter fun f => f.2 = some .empty).map Prod.fst).map fun path =>
        (Containment.fileId path, skippedProperties .empty
          (hasContent (s.request.fileContents.get? path)) .other []) := by
    intro fs hfs
    induction fs with
    | nil => rfl
    | cons f fs ih =>
      have hrest := ih fun g hg => hfs g (List.mem_cons_of_mem f hg)
      have hf := Plan.mem_visible_iff h (hfs f List.mem_cons_self)
      obtain ⟨path, reason⟩ := f
      cases reason with
      | none => simpa [Parsing.excludedDescriptions] using hrest
      | some reason =>
        have hid := s.get?_fileIds path
        by_cases hempty : reason = .empty
        · subst hempty
          rw [if_pos (hf.mpr rfl)] at hid
          simpa [Parsing.excludedDescriptions, hid] using hrest
        · have hhidden : path ∉ s.plan.visible := fun hmem => hempty (by
            simpa [Plan.isVisible] using hf.mp hmem)
          rw [if_neg hhidden] at hid
          simpa [Parsing.excludedDescriptions, hid, hempty] using hrest
  exact hfiles s.plan.files fun _ hf => hf

/-- Blank files are described before anything is parsed, the others by their outcomes. -/
theorem Complete.descriptions_eq (h : s.Complete os) (hinj : s.Injective e) :
    s.descriptions os =
      (s.plan.blank.map fun path => (Containment.fileId path, skippedProperties .empty
        (hasContent (s.request.fileContents.get? path)) .other [])) ++
      os.map fun o => (Containment.fileId o.path,
        o.description s.request.fileContents (s.enteredIn o.path).length) := by
  have hids : (os.map fun o => s.skeleton.fileIds.getD o.path "") =
      os.map fun o => Containment.fileId o.path :=
    List.map_congr_left fun o ho => getD_fileIds (h.mem_visible ho)
  have hnodup : (os.map fun o => s.skeleton.fileIds.getD o.path "").Nodup := by
    have hall := h.nodup_fileIds_append hinj
    rw [List.map_append, List.nodup_append, List.map_map] at hall
    rw [hids]
    exact hall.2.1
  rw [descriptions, excludedDescriptions_eq h.nodup, Parsing.descriptions_eq_map_count _ _ hnodup,
    ← h.entries_eq]
  refine congrArg _ (List.map_congr_left fun o ho => ?_)
  rw [getD_fileIds (h.mem_visible ho), enteredIn, entered]

/-- Each description is for another file. -/
theorem Complete.nodup_descriptions (h : s.Complete os) (hinj : s.Injective e) :
    ((s.descriptions os).map Prod.fst).Nodup := by
  rw [h.descriptions_eq hinj, List.map_append, List.map_map, List.map_map]
  have hall := h.nodup_fileIds_append hinj
  rwa [List.map_append, List.map_map] at hall

/-- The node of a blank file, described. -/
theorem Complete.described_blank (h : s.Complete os) (hinj : s.Injective e) {path : String}
    (hp : path ∈ s.plan.blank) :
    (Containment.fileNode path).described (s.descriptions os) = s.blankNode path := by
  refine Node.described_of_mem (h.nodup_descriptions hinj) ?_
  rw [h.descriptions_eq hinj]
  exact List.mem_append_left _ (List.mem_map.mpr ⟨path, hp, rfl⟩)

/-- The node of a file with an outcome, described. -/
theorem Complete.described_outcome (h : s.Complete os) (hinj : s.Injective e) {o : FileOutcome}
    (ho : o ∈ os) :
    (Containment.fileNode o.path).described (s.descriptions os) = s.outcomeNode o := by
  refine Node.described_of_mem (h.nodup_descriptions hinj) ?_
  rw [h.descriptions_eq hinj]
  exact List.mem_append_right _ (List.mem_map.mpr ⟨o, ho, rfl⟩)

/-- The nodes of files are those of the visible files. -/
theorem Complete.files_perm_visible (h : s.Complete os) (hinj : s.Injective e) :
    (s.graph e).files.Perm (s.plan.visible.map fun path =>
      (Containment.fileNode path).described (s.descriptions os)) := by
  have hnodes : (s.graph e).files.Nodup := ((h.nodup_ids hinj).of_map).filter _
  have hvisible : (s.plan.visible.map fun path =>
      (Containment.fileNode path).described (s.descriptions os)).Nodup := by
    have hids := h.nodup_fileIds hinj
    refine List.Nodup.of_map Node.id ?_
    rwa [List.map_map]
  refine (List.perm_ext_iff_of_nodup hnodes hvisible).mpr fun n => ?_
  rw [Graph.files, List.mem_filter, decide_eq_true_iff, List.mem_map]
  constructor
  · rintro ⟨hn, hlabel⟩
    obtain ⟨path, hp, rfl⟩ := h.exists_of_mem_nodes hinj hn hlabel
    exact ⟨path, hp, rfl⟩
  · rintro ⟨path, hp, rfl⟩
    exact ⟨List.mem_of_find?_eq_some (h.node?_fileId hinj hp), rfl⟩

/-- The nodes of files are those of the blank files and the outcomes. -/
theorem Complete.files_perm (h : s.Complete os) (hinj : s.Injective e) :
    (s.graph e).files.Perm (s.plan.blank.map s.blankNode ++ os.map s.outcomeNode) := by
  have hsplit := s.plan.visible_perm_blank_append.map fun path =>
    (Containment.fileNode path).described (s.descriptions os)
  have hblank : s.plan.blank.map (fun path =>
      (Containment.fileNode path).described (s.descriptions os)) = s.plan.blank.map s.blankNode :=
    List.map_congr_left fun _ hp => h.described_blank hinj hp
  have houtcomes : (os.map FileOutcome.path).map (fun path =>
      (Containment.fileNode path).described (s.descriptions os)) = os.map s.outcomeNode := by
    rw [List.map_map]
    exact List.map_congr_left fun _ ho => h.described_outcome hinj ho
  rw [List.map_append, hblank, ← h.paths, houtcomes] at hsplit
  exact (h.files_perm_visible hinj).trans hsplit

/-- A file without a parse result has no entered definitions. -/
theorem Complete.enteredIn_eq_nil (h : s.Complete os) (hinj : s.Injective e) {path : String}
    (hp : path ∈ s.plan.visible) (hparsed : ∀ o ∈ os, o.path = path → o.parsed? = none) :
    s.enteredIn path = [] := by
  refine List.filter_eq_nil_iff.mpr fun x hx heq => ?_
  have hmem := (mem_of_mem_fresh hx).1
  rw [h.entries_eq] at hmem
  obtain ⟨o, ho, hmem⟩ := List.mem_flatMap.mp hmem
  have hfile := FileOutcome.fileId_of_mem_entries hmem
  rw [getD_fileIds (h.mem_visible ho), of_decide_eq_true heq] at hfile
  have hnone := hparsed o ho (fileId_inj hinj hp (h.mem_visible ho) hfile).symm
  obtain ⟨f, hparsed, -⟩ := FileOutcome.exists_of_mem_entries hmem
  cases hnone.symm.trans hparsed

/-- What the node of a blank file says. -/
theorem tells_blank (s : Stages) (path : String) :
    Tells (s.blankNode path).properties false (some .empty) 0 := by
  simp only [blankNode]
  exact tells_skipped rfl .empty _ .other (by simp)

/-- What the node of a file with an outcome says. -/
theorem Complete.tells_outcome (h : s.Complete os) (hinj : s.Injective e) {o : FileOutcome}
    (ho : o ∈ os) :
    Tells (s.outcomeNode o).properties o.failure?.isSome o.skip? (s.enteredIn o.path).length := by
  simp only [outcomeNode]
  refine o.tells_description _ (fun hnone => ?_) rfl rfl
  have hpaths : (os.map FileOutcome.path).Nodup := h.paths ▸ Plan.nodup_pending h.nodup
  rw [h.enteredIn_eq_nil hinj (h.mem_visible ho), List.length_nil]
  intro o' ho' hpath
  rwa [List.inj_on_of_nodup_map hpaths ho' ho hpath]

end Stages

end CodeGraph
