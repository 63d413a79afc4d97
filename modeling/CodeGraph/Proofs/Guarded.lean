import CodeGraph.Proofs.Integrity
import CodeGraph.Proofs.Schema

/-!
# Ingestion with the check on every property map

The graph checks properties against the schema of their label or type, at every write and before
anything else is done. Here an ingestion is carried out with this check, stage by stage and write by
write. If the digests of project, folders and files are different, no write is ever refused: the
ingestion with the check is the ingestion, whether it returns or stops for another reason.

## Main definitions

* `Guarded.Stop`: why an ingestion with the check gives no result.
* `Guarded.addFile`, `Guarded.accept`, `Guarded.write`, `Guarded.links`: the stages with the check.
* `Guarded.run`: an ingestion with the check.

## Main results

* `Guarded.skeleton_eq`, `Guarded.handleBatches_eq`, `Guarded.links_eq`: no stage is refused.
* `Engine.schema_respected`: an ingestion is never refused, and all records of its graph fit.
-/

namespace CodeGraph

/-- Steps that all succeed are carried out one after the other. -/
theorem Except.foldlM_eq {ε α β : Type} {step? : β → α → Except ε β} {step : β → α → β}
    (I : β → Prop) (xs : List α)
    (hstep : ∀ s, I s → ∀ x ∈ xs, step? s x = .ok (step s x) ∧ I (step s x)) {s : β} (hs : I s) :
    xs.foldlM step? s = .ok (xs.foldl step s) ∧ I (xs.foldl step s) := by
  induction xs generalizing s with
  | nil => exact ⟨rfl, hs⟩
  | cons x xs ih =>
    obtain ⟨hfirst, hnext⟩ := hstep s hs x List.mem_cons_self
    have hrest := ih (fun s hs y hy => hstep s hs y (List.mem_cons_of_mem x hy)) hnext
    rw [List.foldlM_cons, hfirst, List.foldl_cons]
    exact hrest

namespace Guarded

/-- Why an ingestion with the check gives no result. -/
inductive Stop where
  | ingest (err : IngestError)
  | refused (err : StoreError)

/-! ### The skeleton -/

/-- Make sure that a folder has a node below its parent; the folder's identifier comes second. -/
def addFolder (packages : List String) (state : Containment × String) (directory : String) :
    Except StoreError (Containment × String) :=
  let (c, parentId) := state
  match c.folderIds.get? directory with
  | some id => .ok (c, id)
  | none => do
    let n := Containment.folderNode packages directory
    let graph ← insertNode c.graph n
    let graph ← insertRelationship graph (.between .contains parentId n.id)
    return ({ c with graph, folderIds := c.folderIds.insert directory n.id }, n.id)

/-- Add a file below its folders. -/
def addFile (packages : List String) (c : Containment) (path : String) :
    Except StoreError Containment := do
  let (c, parentId) ← (Path.folders path).foldlM (addFolder packages) (c, c.projectId)
  let n := Containment.fileNode path
  let graph ← insertNode c.graph n
  let graph ← insertRelationship graph (.between .contains parentId n.id)
  return { c with graph, fileIds := c.fileIds.insert path n.id }

/-- Add a file if it can be added. -/
def accept (packages : List String) (c : Containment) (path : String) : Except Stop Containment :=
  if c.admits path then (addFile packages c path).mapError .refused
  else .error (.ingest .tooDeep)

/-- The containment skeleton of a plan. -/
def skeleton (request : Request) (plan : Plan) : Except Stop Containment := do
  let project := Containment.projectNode request.projectName request.projectRoot
  let graph ← (insertNode Graph.empty project).mapError .refused
  plan.visible.foldlM (accept (packageDirectories plan.visible))
    { graph, projectId := project.id }

/-- Adding a folder is not refused. -/
theorem addFolder_eq (packages : List String) {state : Containment × String}
    (h : state.1.graph.Sound []) (d : String) :
    addFolder packages state d = .ok (Containment.addFolder packages state d) ∧
      (Containment.addFolder packages state d).1.graph.Sound [] := by
  obtain ⟨c, parentId⟩ := state
  have hnode := Containment.fits_folderNode packages d
  have hedge := Relationship.fits_between .contains parentId (Containment.folderNode packages d).id
  cases hget : c.folderIds.get? d with
  | some id =>
    constructor
    · simp only [addFolder, Containment.addFolder, hget]
    · simpa only [Containment.addFolder, hget] using h
  | none =>
    constructor
    · simp only [addFolder, Containment.addFolder, hget, insertNode_eq hnode,
        insertRelationship_eq hedge, bind, Except.bind, pure, Except.pure]
    · simpa only [Containment.addFolder, hget] using
        (h.insertNode hnode).insertRelationship hedge

/-- Adding a file is not refused. -/
theorem addFile_eq (packages : List String) {c : Containment} (h : c.graph.Sound [])
    (path : String) :
    addFile packages c path = .ok (c.addFile packages path) ∧
      (c.addFile packages path).graph.Sound [] := by
  have hnode := Containment.fits_fileNode path
  obtain ⟨hfolders, hsound⟩ := Except.foldlM_eq
    (fun state : Containment × String => state.1.graph.Sound []) (Path.folders path)
    (fun state hstate d _ => addFolder_eq packages hstate d) (s := (c, c.projectId)) h
  simp only [addFile, Containment.addFile, hfolders, insertNode_eq hnode,
    insertRelationship_eq (Relationship.fits_between _ _ _), bind, Except.bind, pure, Except.pure]
  exact ⟨trivial, (hsound.insertNode hnode).insertRelationship (Relationship.fits_between _ _ _)⟩

/-- Adding files is not refused, and stops where one of them cannot be added. -/
theorem foldlM_accept (packages files : List String) {c : Containment} (h : c.graph.Sound []) :
    files.foldlM (accept packages) c =
        (match files.foldlM (fun (c : Containment) path =>
            if c.admits path then some (c.addFile packages path) else none) c with
          | some c' => .ok c'
          | none => .error (.ingest .tooDeep)) ∧
      ∀ c', files.foldlM (fun (c : Containment) path =>
          if c.admits path then some (c.addFile packages path) else none) c = some c' →
        c'.graph.Sound [] := by
  induction files generalizing c with
  | nil =>
    refine ⟨rfl, fun c' hc' => ?_⟩
    obtain rfl := Option.some.inj hc'
    exact h
  | cons path files ih =>
    obtain ⟨hadd, hsound⟩ := addFile_eq packages h path
    rw [List.foldlM_cons, List.foldlM_cons]
    by_cases hadmits : c.admits path = true
    · simp only [accept, if_pos hadmits, hadd, Except.mapError]
      exact ih hsound
    · simp only [accept, if_neg hadmits]
      exact ⟨rfl, fun c' hc' => by cases hc'⟩

/-- The skeleton is not refused. -/
theorem skeleton_eq (request : Request) (plan : Plan) :
    skeleton request plan = (Engine.skeleton request plan).mapError .ingest ∧
      ∀ c, Engine.skeleton request plan = .ok c → c.graph.Sound [] := by
  have hproject := Containment.fits_projectNode request.projectName request.projectRoot
  obtain ⟨hfold, hsound⟩ := foldlM_accept (packageDirectories plan.visible) plan.visible
    (c := Containment.start request.projectName request.projectRoot)
    (Graph.sound_empty.insertNode hproject)
  have hbuild : Engine.skeleton request plan =
      (match plan.visible.foldlM (fun (c : Containment) path =>
          if c.admits path then some (c.addFile (packageDirectories plan.visible) path) else none)
          (Containment.start request.projectName request.projectRoot) with
        | some c => .ok c
        | none => .error .tooDeep) := rfl
  constructor
  · simp only [skeleton, insertNode_eq hproject, Except.mapError, bind, Except.bind]
    refine hfold.trans ?_
    rw [hbuild]
    split <;> rfl
  · intro c hc
    rw [hbuild] at hc
    split at hc
    · next c' hc' =>
      obtain rfl := Except.ok.inj hc
      exact hsound c' hc'
    · cases hc

/-- If digests are different, every visible file has its node in the skeleton. -/
theorem sound_skeletonOf {request : Request} {plan : Plan}
    (hinj : Set.InjOn Identifier.digest
      {t | t ∈ Containment.structureTexts request.projectName plan.visible})
    (h : (Engine.skeletonOf request plan).graph.Sound []) :
    (Engine.skeletonOf request plan).graph.Sound plan.visible where
  fits := h.fits
  nodup := h.nodup
  known path hpath := by
    refine ⟨Containment.fileNode path, ?_, rfl, rfl⟩
    rw [Engine.skeletonOf, Containment.nodes_build_eq_fresh,
      mem_fresh_iff (Containment.offeredNodes_inj _ hinj)]
    exact ⟨Containment.mem_offeredNodes.mpr (.inr (.inr ⟨path, hpath, rfl⟩)), List.not_mem_nil⟩

/-! ### Parsing -/

/-- Take steps that may be refused, and count those that say that they did something. -/
def countSteps {σ α : Type} (f : σ → α → Except StoreError (σ × Bool)) (s : σ) (xs : List α) :
    Except StoreError (σ × Nat) :=
  xs.foldlM (fun (s, count) x => do
    let (s, done) ← f s x
    return (s, if done then count + 1 else count)) (s, 0)

/-- Counting steps are not refused if none of them is. -/
theorem countSteps_eq {σ α : Type} {f : σ → α → Except StoreError (σ × Bool)}
    {g : σ → α → σ × Bool} (I : σ → Prop) (xs : List α)
    (hstep : ∀ s, I s → ∀ x ∈ xs, f s x = .ok (g s x) ∧ I (g s x).1) {s : σ} (h : I s) :
    countSteps f s xs = .ok (Count.steps g s xs) ∧ I (Count.steps g s xs).1 := by
  refine Except.foldlM_eq (fun p : σ × Nat => I p.1) xs (fun p hp x hx => ?_) h
  obtain ⟨heq, hnext⟩ := hstep p.1 hp x hx
  refine ⟨?_, hnext⟩
  simp only [heq, bind, Except.bind, pure, Except.pure]

/--
Enter a definition of a file; whether it was new. Its properties are checked even if its identifier
is taken.
-/
def enter (fileId : String) (types : List Definition) (v : Inventory) (d : Definition) :
    Except StoreError (Inventory × Bool) := do
  let graph ← insertNode v.graph (Inventory.nodeOf d)
  if v.graph.hasNode d.nodeId then
    return ({ v with duplicates := v.duplicates + 1 }, false)
  else
    let graph ← insertRelationship graph (.between .defines fileId d.nodeId)
    let graph ← match Inventory.membership? types d with
      | some r => insertRelationship graph r
      | none => .ok graph
    return ({ v with
      graph
      registry := v.registry.addDefinition d
      byKind := v.byKind.increment d.kind.name }, true)

/-- Set properties of a node. -/
def describeFile (p : Parsing) (fileId : String) (props : Properties) :
    Except StoreError Parsing := do
  let graph ← describe p.inventory.graph fileId props
  return { p with inventory := { p.inventory with graph } }

/-- Write an excluded file: it is counted, and described if it has a node. -/
def writeExcluded (fileIds contents : OrderedMap String String) (p : Parsing)
    (file : String × SkipReason) : Except StoreError Parsing :=
  let (path, reason) := file
  let p := p.countSkipped reason
  match fileIds.get? path with
  | none => .ok p
  | some id =>
    describeFile p id (skippedProperties reason (hasContent (contents.get? path)) .other [])

/-- Write a parse result: its definitions, then the description of the file. -/
def writeParsed (p : Parsing) (fileId : String) (o : FileOutcome) (file : ParsedFile) :
    Except StoreError Parsing := do
  let (inventory, entered) ← countSteps
    (enter fileId (file.definitions.filter (·.kind.isType))) p.inventory file.definitions
  let p := { p with
    inventory
    processed := p.processed + 1
    parsed := p.parsed.insert o.path file
    queryFailures :=
      p.queryFailures ++ file.queryErrors.map (QueryFailure.ofReport o.path file.language) }
  describeFile p fileId (parsedProperties o.category file entered)

/-- Write the outcome of a file. -/
def write (fileIds contents : OrderedMap String String) (p : Parsing) (o : FileOutcome) :
    Except StoreError Parsing :=
  let fileId := fileIds.getD o.path ""
  match o.result with
  | .parsed file => writeParsed p fileId o file
  | .failed failure =>
    describeFile
      { p with failed := p.failed + 1, parseFailures := p.parseFailures ++ [failure] } fileId
      (failedProperties o failure)
  | .skipped reason =>
    describeFile (p.countSkipped reason) fileId
      (skippedProperties reason (hasContent (contents.get? o.path)) o.category
        (contentProperties o.contentHash o.fileSize))

section Parsing

variable {files : List String} {fileIds contents : OrderedMap String String} {p : Parsing}

/-- Entering a definition is not refused. -/
theorem enter_eq (fileId : String) (types : List Definition) {v : Inventory}
    (h : v.graph.Sound files) (d : Definition) :
    enter fileId types v d = .ok (v.enter fileId types d) ∧
      (v.enter fileId types d).1.graph.Sound files := by
  have hnode := Inventory.fits_nodeOf d
  have hedge := Relationship.fits_between .defines fileId d.nodeId
  have hsound := (h.insertNode hnode).insertRelationship hedge
  by_cases htaken : v.graph.hasNode d.nodeId = true
  · constructor
    · simp only [enter, Inventory.enter, insertNode_eq hnode, if_pos htaken, bind, Except.bind, pure,
        Except.pure]
    · simpa only [Inventory.enter, if_pos htaken] using h
  · cases hmember : Inventory.membership? types d with
    | none =>
      constructor
      · simp only [enter, Inventory.enter, Inventory.place, insertNode_eq hnode, if_neg htaken,
          insertRelationship_eq hedge, hmember, bind, Except.bind, pure, Except.pure]
      · simpa only [Inventory.enter, Inventory.place, if_neg htaken, hmember] using hsound
    | some r =>
      have hr := Inventory.fits_of_membership? hmember
      constructor
      · simp only [enter, Inventory.enter, Inventory.place, insertNode_eq hnode, if_neg htaken,
          insertRelationship_eq hedge, hmember, insertRelationship_eq hr, bind, Except.bind, pure,
          Except.pure]
      · simpa only [Inventory.enter, Inventory.place, if_neg htaken, hmember] using
          hsound.insertRelationship hr

/-- A description of a known file is not refused. -/
theorem describeFile_eq (h : p.inventory.graph.Sound files) {path : String} (hpath : path ∈ files)
    {props : Properties} (hprops : NodeKind.file.checkProperties props.fields = .ok props) :
    describeFile p (Containment.fileId path) props =
        .ok (p.describe (Containment.fileId path) props) ∧
      (p.describe (Containment.fileId path) props).inventory.graph.Sound files := by
  obtain ⟨n, hn, hid, hlabel⟩ := h.exists_node? hpath
  rw [← hlabel] at hprops
  rw [← hid] at hn ⊢
  constructor
  · simp only [describeFile, describe_eq hn hprops, bind, Except.bind, pure, Except.pure]
    rfl
  · exact h.setProperties hn hprops

/-- Writing an excluded file is not refused. -/
theorem writeExcluded_eq (h : p.inventory.graph.Sound files)
    (hids : ∀ path id, fileIds.get? path = some id →
      path ∈ files ∧ id = Containment.fileId path) (file : String × SkipReason) :
    writeExcluded fileIds contents p file = .ok (p.writeExcluded fileIds contents file) ∧
      (p.writeExcluded fileIds contents file).inventory.graph.Sound files := by
  obtain ⟨path, reason⟩ := file
  cases hget : fileIds.get? path with
  | none =>
    simp only [writeExcluded, Parsing.writeExcluded, hget]
    exact ⟨trivial, h⟩
  | some id =>
    obtain ⟨hpath, rfl⟩ := hids path id hget
    simp only [writeExcluded, Parsing.writeExcluded, hget]
    exact describeFile_eq (p := p.countSkipped reason) h hpath
      (fits_skippedProperties reason _ _ fun k hk => absurd hk List.not_mem_nil)

/-- Writing the outcome of a known file is not refused. -/
theorem write_eq (h : p.inventory.graph.Sound files) {o : FileOutcome} (hpath : o.path ∈ files)
    (hid : fileIds.getD o.path "" = Containment.fileId o.path) :
    write fileIds contents p o = .ok (p.write fileIds contents o) ∧
      (p.write fileIds contents o).inventory.graph.Sound files := by
  have hfits := o.fits_description contents
  simp only [write, Parsing.write, hid]
  cases hresult : o.result with
  | parsed file =>
    simp only [FileOutcome.description, hresult] at hfits
    obtain ⟨hentered, hsound⟩ := countSteps_eq
      (fun v : Inventory => v.graph.Sound files) file.definitions
      (fun v hv d _ => enter_eq (Containment.fileId o.path)
        (file.definitions.filter (·.kind.isType)) hv d) h
    simp only [writeParsed, hentered, bind, Except.bind]
    exact describeFile_eq hsound hpath (hfits _)
  | failed failure =>
    simp only [FileOutcome.description, hresult] at hfits
    exact describeFile_eq
      (p := { p with failed := p.failed + 1, parseFailures := p.parseFailures ++ [failure] }) h
      hpath (hfits 0)
  | skipped reason =>
    simp only [FileOutcome.description, hresult] at hfits
    exact describeFile_eq (p := p.countSkipped reason) h hpath (hfits 0)

end Parsing

/-- The state of the parsing stage before the first batch. -/
def beforeParsing (request : Request) (plan : Plan) (c : Containment) :
    Except StoreError Parsing :=
  plan.excluded.foldlM (writeExcluded c.fileIds request.fileContents)
    { inventory :=
        { graph := c.graph
          registry := plan.visible.foldl Registry.registerFile Registry.empty } }

variable (e : Engine)

/-- Handle and write batches; the checks left over. -/
def handleBatches (s : Selection) (stalled : List String)
    (fileIds contents : OrderedMap String String) :
    List (List String) → Checks → Parsing → Cache → Except Stop (Parsing × Checks) × Cache
  | [], checks, p, cache => (.ok (p, checks), cache)
  | batch :: rest, checks, p, cache =>
    match checks.pass .parsing with
    | .error err => (.error (.ingest err), cache)
    | .ok checks =>
      match e.handleBatch s stalled contents batch cache with
      | (.error err, cache) => (.error (.ingest err), cache)
      | (.ok outcomes, cache) =>
        match outcomes.foldlM (write fileIds contents) p with
        | .error err => (.error (.refused err), cache)
        | .ok p =>
          match cache.relieve? with
          | none => (.error (.ingest .budget), cache)
          | some (cache, _) => handleBatches s stalled fileIds contents rest checks p cache

/-- Writing batches of known files is not refused. -/
theorem handleBatches_eq {files : List String} (s : Selection) (stalled : List String)
    {fileIds : OrderedMap String String} (contents : OrderedMap String String)
    (hids : ∀ path ∈ files, fileIds.getD path "" = Containment.fileId path)
    {groups : List (List String)} (hgroups : ∀ path ∈ groups.flatten, path ∈ files)
    (checks : Checks) {p : Parsing} (h : p.inventory.graph.Sound files) (cache : Cache) :
    handleBatches e s stalled fileIds contents groups checks p cache =
        ((e.handleBatches s stalled fileIds contents groups checks p cache).1.mapError .ingest,
          (e.handleBatches s stalled fileIds contents groups checks p cache).2) ∧
      ∀ p' checks', (e.handleBatches s stalled fileIds contents groups checks p cache).1 =
        .ok (p', checks') → p'.inventory.graph.Sound files := by
  induction groups generalizing checks p cache with
  | nil =>
    refine ⟨rfl, fun p' checks' hok => ?_⟩
    obtain ⟨rfl, -⟩ := Prod.mk.inj (Except.ok.inj hok)
    exact h
  | cons batch rest ih =>
    rw [List.flatten_cons] at hgroups
    simp only [handleBatches, Engine.handleBatches]
    cases checks.pass .parsing with
    | error err => exact ⟨rfl, fun _ _ hok => by cases hok⟩
    | ok checks =>
      dsimp only
      cases hbatch : e.handleBatch s stalled contents batch cache with
      | mk r mid =>
        cases r with
        | error err => exact ⟨rfl, fun _ _ hok => by cases hok⟩
        | ok outcomes =>
          have hpaths := Engine.path_of_handleBatch hbatch
          have hstep : ∀ p : Parsing, p.inventory.graph.Sound files → ∀ o ∈ outcomes,
              write fileIds contents p o = .ok (p.write fileIds contents o) ∧
                (p.write fileIds contents o).inventory.graph.Sound files := by
            intro p hp o ho
            have ho' := hgroups o.path (List.mem_append_left _ (hpaths o ho))
            exact write_eq hp ho' (hids o.path ho')
          obtain ⟨hwrite, hsound⟩ := Except.foldlM_eq _ outcomes hstep h
          simp only [hwrite]
          cases mid.relieve? with
          | none => exact ⟨rfl, fun _ _ hok => by cases hok⟩
          | some relieved =>
            exact ih (fun path hpath => hgroups path (List.mem_append_right _ hpath)) checks hsound
              relieved.1

/-! ### Links -/

/-- Append relationships one after the other. -/
def insertRelationships (g : Graph) (rs : List Relationship) : Except StoreError Graph :=
  rs.foldlM insertRelationship g

/-- The links of a finished parsing stage, with a check for cancellation before each resolution. -/
def links (c : Containment) (p : Parsing) (checks : Checks) : Except Stop Links := do
  let checks ← (checks.pass .imports).mapError .ingest
  let imports := Imports.ofFiles p.inventory.registry p.parsed
  let withImports ← (insertRelationships p.inventory.graph
    (imports.relationships c.fileIds)).mapError .refused
  let checks ← (checks.pass .heritage).mapError .ingest
  let heritage := Heritage.ofFiles p.inventory.registry imports.map withImports p.parsed
  let withHeritage ← (insertRelationships withImports heritage.relationships).mapError .refused
  let checks ← (checks.pass .calls).mapError .ingest
  let calls := Calls.ofFiles
    { registry := p.inventory.registry
      imports := imports.map
      extraBuiltins := e.settings.extraBuiltins
      maxHops := e.settings.maxReexportDepth } withHeritage c.fileIds p.parsed
  let (graph, callEdges) ←
    (countSteps addRelationship withHeritage calls.relationships).mapError .refused
  let _ ← (checks.pass .validation).mapError .ingest
  return { imports, heritage, calls, callEdges, graph }

section Links

variable {files : List String} {g : Graph}

/-- Relationships that fit are not refused. -/
theorem insertRelationships_eq (h : g.Sound files) {rs : List Relationship}
    (hrs : ∀ r ∈ rs, r.Fits) :
    insertRelationships g rs = .ok (rs.foldl Graph.insertRelationship g) ∧
      (rs.foldl Graph.insertRelationship g).Sound files :=
  Except.foldlM_eq (fun g : Graph => g.Sound files) rs
    (fun g hg r hr => ⟨insertRelationship_eq (hrs r hr) g, hg.insertRelationship (hrs r hr)⟩) h

/-- No import is refused. -/
theorem imports_eq (h : g.Sound files) (i : Imports) (fileIds : OrderedMap String String) :
    insertRelationships g (i.relationships fileIds) = .ok (i.addTo fileIds g) ∧
      (i.addTo fileIds g).Sound files :=
  insertRelationships_eq h fun _ hr => Imports.fits_of_mem hr

/-- No heritage is refused. -/
theorem heritage_eq (h : g.Sound files) (r : Registry) (m : ImportMap) (parsed : ParsedFiles) :
    insertRelationships g (Heritage.ofFiles r m g parsed).relationships =
        .ok ((Heritage.ofFiles r m g parsed).addTo g) ∧
      ((Heritage.ofFiles r m g parsed).addTo g).Sound files :=
  insertRelationships_eq h fun _ hr => Heritage.fits_of_mem hr

/-- No call is refused. -/
theorem calls_eq (h : g.Sound files) (calls : Calls) :
    countSteps addRelationship g calls.relationships = .ok (calls.addTo g) ∧
      (calls.addTo g).1.Sound files :=
  countSteps_eq (fun g : Graph => g.Sound files) calls.relationships
    (fun g hg _ hr => ⟨addRelationship_eq (Calls.fits_of_mem hr) g,
      hg.insertRelationship (Calls.fits_of_mem hr)⟩) h

/-- No link is refused. -/
theorem links_eq (c : Containment) {p : Parsing} (h : p.inventory.graph.Sound files)
    (checks : Checks) :
    links e c p checks =
        ((checks.passAll [.imports, .heritage, .calls, .validation]).mapError .ingest).map
          (fun _ => e.links c p) ∧
      (e.links c p).graph.Sound files := by
  obtain ⟨himports, hsound⟩ :=
    imports_eq h (Imports.ofFiles p.inventory.registry p.parsed) c.fileIds
  obtain ⟨hheritage, hsound⟩ := heritage_eq hsound p.inventory.registry
    (Imports.ofFiles p.inventory.registry p.parsed).map p.parsed
  obtain ⟨hcalls, hsound⟩ := calls_eq hsound (Calls.ofFiles
    { registry := p.inventory.registry
      imports := (Imports.ofFiles p.inventory.registry p.parsed).map
      extraBuiltins := e.settings.extraBuiltins
      maxHops := e.settings.maxReexportDepth } _ c.fileIds p.parsed)
  refine ⟨?_, hsound⟩
  simp only [links, Checks.passAll, List.foldlM_cons, List.foldlM_nil, bind, Except.bind,
    Except.mapError, himports, hheritage, hcalls]
  cases checks.pass .imports with
  | error err => rfl
  | ok checks =>
    dsimp only
    cases checks.pass .heritage with
    | error err => rfl
    | ok checks =>
      dsimp only
      cases checks.pass .calls with
      | error err => rfl
      | ok checks =>
        dsimp only
        cases checks.pass .validation with
        | error err => rfl
        | ok checks => rfl

end Links

/-! ### Whole ingestions -/

/-- The skeleton of a plan, with the checks left before the first batch. -/
def begun (request : Request) (plan : Plan) (checks : Checks) :
    Except Stop (Containment × Checks) := do
  let checks ← (checks.pass .structure).mapError .ingest
  let c ← skeleton request plan
  let checks ← (checks.pass .parsing).mapError .ingest
  return (c, checks)

/-- The result of a finished ingestion; `before` is the cache at the start. -/
def finish (p : Parsing) (l : Links) (before cache : Cache) : IngestResult where
  store := { graph := l.graph, frozen := true }
  report := Engine.report p l cache
  cacheHits := cache.files.region.hits - before.files.region.hits
  cacheMisses := cache.files.region.misses - before.files.region.misses

/-- Carry a plan out, from the first check for cancellation on. -/
def execute (request : Request) (plan : Plan) (i : Interruptions) (cache : Cache) :
    Except Stop IngestResult × Cache :=
  match begun request plan i.cancelAfter with
  | .error err => (.error err, cache)
  | .ok (c, checks) =>
    match beforeParsing request plan c with
    | .error err => (.error (.refused err), cache)
    | .ok p =>
      match handleBatches e plan.selection i.stalled c.fileIds request.fileContents
          (batches e.settings.batchSize plan.pending) checks p cache with
      | (.error err, after) => (.error err, after)
      | (.ok (p, checks), after) =>
        match links e c p checks with
        | .error err => (.error err, after)
        | .ok l => (.ok (finish p l cache after), after)

/-- One ingestion with the check. -/
def run (request : Request) (i : Interruptions) (cache : Cache) :
    Except Stop IngestResult × Cache :=
  match Plan.ofRequest e.settings request with
  | .error err => (.error (.ingest err), cache)
  | .ok plan => execute e request plan i cache

/-- The way to the first batch is not refused. -/
theorem begun_eq (request : Request) (plan : Plan) (checks : Checks) :
    begun request plan checks = (Engine.begun request plan checks).mapError .ingest ∧
      ∀ c left, Engine.begun request plan checks = .ok (c, left) →
        c = Engine.skeletonOf request plan ∧ c.graph.Sound [] := by
  obtain ⟨hskeleton, hsound⟩ := skeleton_eq request plan
  have hbuilt : ∀ c, Engine.skeleton request plan = .ok c → c = Engine.skeletonOf request plan := by
    intro c hc
    rw [Engine.skeleton_eq] at hc
    split at hc
    · exact (Except.ok.inj hc).symm
    · cases hc
  simp only [begun, Engine.begun, hskeleton, bind, Except.bind, Except.mapError]
  cases checks.pass .structure with
  | error err => exact ⟨rfl, fun _ _ h => by cases h⟩
  | ok checks =>
    dsimp only
    cases hc : Engine.skeleton request plan with
    | error err => exact ⟨rfl, fun _ _ h => by cases h⟩
    | ok c =>
      dsimp only
      cases checks.pass .parsing with
      | error err => exact ⟨rfl, fun _ _ h => by cases h⟩
      | ok checks =>
        refine ⟨rfl, fun c' left h => ?_⟩
        obtain ⟨rfl, -⟩ := Prod.mk.inj (Except.ok.inj h)
        exact ⟨hbuilt c hc, hsound c hc⟩

section Ingestion

variable {request : Request} {plan : Plan}

/-- Descriptions of excluded files are not refused. -/
theorem beforeParsing_eq (h : (Engine.skeletonOf request plan).graph.Sound plan.visible) :
    beforeParsing request plan (Engine.skeletonOf request plan) =
        .ok (Engine.beforeParsing request plan (Engine.skeletonOf request plan)) ∧
      (Engine.beforeParsing request plan
        (Engine.skeletonOf request plan)).inventory.graph.Sound plan.visible := by
  have hids : ∀ path id, (Engine.skeletonOf request plan).fileIds.get? path = some id →
      path ∈ plan.visible ∧ id = Containment.fileId path := by
    intro path id hid
    rw [Engine.skeletonOf, Containment.get?_fileIds_build] at hid
    obtain ⟨hpath, hid⟩ := Option.ite_none_right_eq_some.mp hid
    exact ⟨hpath, (Option.some.inj hid).symm⟩
  exact Except.foldlM_eq (fun p : Parsing => p.inventory.graph.Sound plan.visible) _
    (fun p hp file _ => writeExcluded_eq hp hids file) h

/-- Carrying a plan out is not refused, and what comes out fits. -/
theorem execute_eq (hinj : Set.InjOn Identifier.digest
      {t | t ∈ Containment.structureTexts request.projectName plan.visible})
    (i : Interruptions) (cache : Cache) :
    execute e request plan i cache = ((e.execute request plan i cache).1.mapError .ingest,
        (e.execute request plan i cache).2) ∧
      ∀ res, (e.execute request plan i cache).1 = .ok res → res.store.graph.Fits := by
  obtain ⟨hbegun, hstart⟩ := begun_eq request plan i.cancelAfter
  simp only [execute, Engine.execute, hbegun]
  cases hb : Engine.begun request plan i.cancelAfter with
  | error err => exact ⟨rfl, fun _ h => by cases h⟩
  | ok start =>
    obtain ⟨c, checks⟩ := start
    obtain ⟨rfl, hempty⟩ := hstart c checks hb
    obtain ⟨hbefore, hsound⟩ := beforeParsing_eq (sound_skeletonOf hinj hempty)
    have hids : ∀ path ∈ plan.visible,
        (Engine.skeletonOf request plan).fileIds.getD path "" = Containment.fileId path := by
      intro path hpath
      rw [OrderedMap.getD, Engine.skeletonOf, Containment.get?_fileIds_build, if_pos hpath]
      rfl
    have hpending : ∀ path ∈ (batches e.settings.batchSize plan.pending).flatten,
        path ∈ plan.visible := by
      intro path hpath
      rw [flatten_batches] at hpath
      exact Plan.mem_visible_of_mem_pending hpath
    obtain ⟨hbatches, hparsed⟩ := handleBatches_eq e plan.selection i.stalled
      request.fileContents hids hpending checks hsound cache
    simp only [Except.mapError, hbefore, hbatches]
    cases hhandled : e.handleBatches plan.selection i.stalled
        (Engine.skeletonOf request plan).fileIds request.fileContents
        (batches e.settings.batchSize plan.pending) checks
        (Engine.beforeParsing request plan (Engine.skeletonOf request plan)) cache with
    | mk r after =>
      cases r with
      | error err => exact ⟨rfl, fun _ h => by cases h⟩
      | ok parsed =>
        obtain ⟨p, left⟩ := parsed
        have hp := hparsed p left (by rw [hhandled])
        obtain ⟨hlinks, hlinked⟩ := links_eq e (Engine.skeletonOf request plan) hp left
        simp only [hlinks]
        cases left.passAll [.imports, .heritage, .calls, .validation] with
        | error err => exact ⟨rfl, fun _ h => by cases h⟩
        | ok rest =>
          refine ⟨rfl, fun res h => ?_⟩
          obtain rfl := Except.ok.inj h
          exact hlinked.fits

end Ingestion

end Guarded

/--
Properties always fit their schema. Those of every definition pass the check for its label. If the
digests of project, folders and files are different, an ingestion with the check on every write is
never refused: it comes out like the ingestion, whose graph has only records that pass. So does the
graph of every store that operations on untyped data can lead to.
-/
theorem Engine.schema_respected (e : Engine) (request : Request) (i : Interruptions) (cache : Cache)
    (hinj : ∀ plan, Plan.ofRequest e.settings request = .ok plan → Set.InjOn Identifier.digest
      {t | t ∈ Containment.structureTexts request.projectName plan.visible}) :
    (∀ d : Definition, d.kind.label.checkProperties d.properties.fields = .ok d.properties) ∧
      Guarded.run e request i cache = ((e.run request i cache).1.mapError .ingest,
        (e.run request i cache).2) ∧
      (∀ res, (e.run request i cache).1 = .ok res → res.store.graph.Fits) ∧
      ∀ s, Store.Reached s → s.graph.Fits := by
  have hrun : Guarded.run e request i cache = ((e.run request i cache).1.mapError .ingest,
        (e.run request i cache).2) ∧
      ∀ res, (e.run request i cache).1 = .ok res → res.store.graph.Fits := by
    simp only [Guarded.run, Engine.run]
    cases hplan : Plan.ofRequest e.settings request with
    | error err => exact ⟨rfl, fun _ h => by cases h⟩
    | ok plan => exact Guarded.execute_eq e (hinj plan hplan) i cache
  exact ⟨Definition.fits_properties, hrun.1, hrun.2, fun _ hs => hs.sound.fits⟩

/-- The sample comes out of an ingestion with the check, and its graph has a call that fits. -/
theorem Engine.schema_respected_sample :
    ∃ res, (Guarded.run Sample.engine Sample.request {} (Cache.ofSettings {})).1 = .ok res ∧
      res.store.graph.Fits ∧ ∃ r ∈ res.store.graph.relationships, r.kind = .calls := by
  obtain ⟨res, hres, hcall⟩ := Sample.exists_result
  have hinj : ∀ plan, Plan.ofRequest Sample.engine.settings Sample.request = .ok plan →
      Set.InjOn Identifier.digest
        {t | t ∈ Containment.structureTexts Sample.request.projectName plan.visible} := by
    intro plan hplan
    obtain ⟨s, os, h⟩ := Sample.exists_outlined
    obtain rfl := Except.ok.inj (hplan.symm.trans h.planned)
    rw [← h.requested]
    exact h.injective.structure
  obtain ⟨-, hrun, hfits, -⟩ :=
    Engine.schema_respected Sample.engine Sample.request {} (Cache.ofSettings {}) hinj
  refine ⟨res, ?_, hfits res hres, hcall⟩
  rw [hrun, hres]
  rfl

end CodeGraph
