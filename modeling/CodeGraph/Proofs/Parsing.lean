import CodeGraph.Ingest.Parsing
import CodeGraph.Proofs.Inventory

/-!
# What writing outcomes leaves behind

The parsing stage writes one outcome after the other: entries of the file's definitions, then a
description of the file, and some counts. Descriptions touch file nodes only, so that the graph of a
finished stage is the skeleton with all entered definitions, described by all outcomes.

## Main definitions

* `FileOutcome.entries`, `FileOutcome.description`: what an outcome offers and says about its file.
* `Parsing.descriptions`: the descriptions of a sequence of outcomes.
* `Parsing.Written`: what a sequence of outcomes leaves behind.

## Main results

* `Parsing.written_foldl`: a finished parsing stage in terms of its outcomes.
* `Parsing.nodes_foldl_write`: its nodes, if no definition has the identifier of a file.
-/

namespace CodeGraph

open Inventory (Entry entriesOf addEntry entered)

/-! ### One outcome -/

namespace FileOutcome

/-- The parse result of a file that has one. -/
def parsed? (o : FileOutcome) : Option ParsedFile :=
  match o.result with
  | .parsed file => some file
  | _ => none

/-- The failure of a file that failed. -/
def failure? (o : FileOutcome) : Option FileFailure :=
  match o.result with
  | .failed failure => some failure
  | _ => none

/-- The reason of a file that was skipped. -/
def skip? (o : FileOutcome) : Option SkipReason :=
  match o.result with
  | .skipped reason => some reason
  | _ => none

/-- The parse result of a file under its path. -/
def parsedEntry? (o : FileOutcome) : Option (String × ParsedFile) :=
  o.parsed?.map (o.path, ·)

/-- The entries that a file offers. -/
def entries (fileIds : OrderedMap String String) (o : FileOutcome) : List Entry :=
  (o.parsed?.map fun file => entriesOf (fileIds.getD o.path "") file.definitions).getD []

/-- An entry of a file is for a definition of its parse result. -/
theorem exists_of_mem_entries {fileIds : OrderedMap String String} {o : FileOutcome} {x : Entry}
    (h : x ∈ o.entries fileIds) : ∃ f, o.parsed? = some f ∧ ∃ d ∈ f.definitions,
      x = ⟨fileIds.getD o.path "", f.definitions.filter (·.kind.isType), d⟩ := by
  unfold entries at h
  cases hparsed : o.parsed? with
  | none =>
    rw [hparsed] at h
    cases h
  | some f =>
    rw [hparsed] at h
    obtain ⟨d, hd, rfl⟩ := List.mem_map.mp h
    exact ⟨f, rfl, d, hd, rfl⟩

/-- The reports on the queries of a file. -/
def queryFailures (o : FileOutcome) : List QueryFailure :=
  (o.parsed?.map fun file =>
    file.queryErrors.map (QueryFailure.ofReport o.path file.language)).getD []

/-- What is said about a file, given the number of its definitions that were entered. -/
def description (contents : OrderedMap String String) (o : FileOutcome) (count : Nat) :
    Properties :=
  match o.result with
  | .parsed file => parsedProperties o.category file count
  | .failed failure => failedProperties o failure
  | .skipped reason =>
    skippedProperties reason (hasContent (contents.get? o.path)) o.category
      (contentProperties o.contentHash o.fileSize)

end FileOutcome

namespace Parsing

variable (fileIds contents : OrderedMap String String)

/-- Writing an outcome, field by field. -/
theorem write_eq (p : Parsing) (o : FileOutcome) :
    p.write fileIds contents o =
      { inventory :=
          { (o.entries fileIds).foldl addEntry p.inventory with
            graph := ((o.entries fileIds).foldl addEntry p.inventory).graph.setProperties
              (fileIds.getD o.path "")
              (o.description contents
                (entered p.inventory.graph.ids (o.entries fileIds)).length) }
        parsed := p.parsed.insertAll o.parsedEntry?.toList
        processed := p.processed + o.parsed?.toList.length
        failed := p.failed + o.failure?.toList.length
        skipped := (o.skip?.toList.map SkipReason.code).foldl OrderedMap.increment p.skipped
        parseFailures := p.parseFailures ++ o.failure?.toList
        queryFailures := p.queryFailures ++ o.queryFailures } := by
  obtain ⟨path, category, contentHash, fileSize, result⟩ := o
  cases result with
  | parsed file =>
    have hall := p.inventory.addAll_eq (fileIds.getD path "") file.definitions
    rw [Inventory.addAll] at hall
    simp only [write, writeParsed, Inventory.snd_enterAll, hall]
    simp [describe, FileOutcome.entries, FileOutcome.parsed?, FileOutcome.parsedEntry?,
      FileOutcome.failure?, FileOutcome.skip?, FileOutcome.queryFailures, FileOutcome.description,
      OrderedMap.insertAll]
  | failed failure =>
    simp [write, writeFailed, describe, FileOutcome.entries, FileOutcome.parsed?,
      FileOutcome.parsedEntry?, FileOutcome.failure?, FileOutcome.skip?, FileOutcome.queryFailures,
      FileOutcome.description, OrderedMap.insertAll]
  | skipped reason =>
    simp [write, writeSkipped, countSkipped, describe, FileOutcome.entries, FileOutcome.parsed?,
      FileOutcome.parsedEntry?, FileOutcome.failure?, FileOutcome.skip?, FileOutcome.queryFailures,
      FileOutcome.description, OrderedMap.insertAll]

/-! ### Excluded files -/

/-- The descriptions of the excluded files that have nodes. -/
def excludedDescriptions (excluded : List (String × SkipReason)) : List (String × Properties) :=
  excluded.filterMap fun (path, reason) => (fileIds.get? path).map
    (·, skippedProperties reason (hasContent (contents.get? path)) .other [])

/-- What the excluded files leave behind: counts and descriptions. -/
theorem foldl_writeExcluded (p : Parsing) (excluded : List (String × SkipReason)) :
    excluded.foldl (writeExcluded fileIds contents) p =
      { p with
        inventory := { p.inventory with
          graph := p.inventory.graph.describeAll (excludedDescriptions fileIds contents excluded) }
        skipped := (excluded.map (·.2.code)).foldl OrderedMap.increment p.skipped } := by
  induction excluded generalizing p with
  | nil => rfl
  | cons file excluded ih =>
    obtain ⟨path, reason⟩ := file
    rw [List.foldl_cons, ih]
    simp only [excludedDescriptions, List.filterMap_cons, writeExcluded]
    cases fileIds.get? path with
    | none => rfl
    | some id => rfl

/-! ### All outcomes -/

/-- The descriptions of a sequence of outcomes; definitions under taken identifiers do not count. -/
def descriptions : List String → List FileOutcome → List (String × Properties)
  | _, [] => []
  | taken, o :: os =>
    (fileIds.getD o.path "", o.description contents (entered taken (o.entries fileIds)).length)
      :: descriptions (taken ++ (o.entries fileIds).map Entry.id) os

/-- Only which identifiers are taken matters, not how they are listed. -/
theorem descriptions_congr {taken taken' : List String} (h : ∀ id, id ∈ taken ↔ id ∈ taken')
    (os : List FileOutcome) :
    descriptions fileIds contents taken os = descriptions fileIds contents taken' os := by
  induction os generalizing taken taken' with
  | nil => rfl
  | cons o os ih =>
    simp only [descriptions, entered]
    rw [fresh_congr h, ih]
    intro id
    rw [List.mem_append, List.mem_append, h id]

/-- If no identifier is offered by two files, files are described independently of each other. -/
theorem descriptions_eq_map {taken : List String} {os : List FileOutcome}
    (h : os.Pairwise fun o o' => ∀ x ∈ o.entries fileIds, ∀ y ∈ o'.entries fileIds, y.id ≠ x.id) :
    descriptions fileIds contents taken os = os.map fun o => (fileIds.getD o.path "",
      o.description contents (entered taken (o.entries fileIds)).length) := by
  induction os generalizing taken with
  | nil => rfl
  | cons o os ih =>
    obtain ⟨hfirst, hrest⟩ := List.pairwise_cons.mp h
    rw [descriptions, ih hrest, List.map_cons]
    congr 1
    refine List.map_congr_left fun o' ho' => ?_
    rw [entered, fresh_append_left, entered]
    intro y hy hmem
    obtain ⟨x, hx, hid⟩ := List.mem_map.mp hmem
    exact hfirst o' ho' x hx y hy hid.symm

/-- A description that counts definitions is for a file with entered definitions. -/
theorem exists_of_mem_descriptions {taken : List String} {os : List FileOutcome}
    {d : String × Properties} (hd : d ∈ descriptions fileIds contents taken os) :
    ∃ o ∈ os, ∃ count, d = (fileIds.getD o.path "", o.description contents count) ∧
      (count ≠ 0 → ∃ x ∈ entered taken (os.flatMap (FileOutcome.entries fileIds)),
        x ∈ o.entries fileIds) := by
  induction os generalizing taken with
  | nil => cases hd
  | cons o os ih =>
    rw [List.flatMap_cons]
    simp only [entered, fresh_append, List.mem_append]
    rcases List.mem_cons.mp hd with rfl | hd
    · refine ⟨o, List.mem_cons_self, _, rfl, fun hcount => ?_⟩
      obtain ⟨x, hx⟩ := List.exists_mem_of_length_pos (Nat.pos_of_ne_zero hcount)
      exact ⟨x, .inl hx, (mem_of_mem_fresh hx).1⟩
    · obtain ⟨o', ho', count, heq, hentered⟩ := ih hd
      refine ⟨o', List.mem_cons_of_mem o ho', count, heq, fun hcount => ?_⟩
      obtain ⟨x, hx, hmem⟩ := hentered hcount
      exact ⟨x, .inr hx, hmem⟩

/-- What a sequence of outcomes leaves behind, the nodes of the graph apart. -/
structure Written (p p' : Parsing) (os : List FileOutcome) : Prop where
  ids : ∀ id, id ∈ p'.inventory.graph.ids ↔
    id ∈ p.inventory.graph.ids ∨ id ∈ (os.flatMap (FileOutcome.entries fileIds)).map Entry.id
  relationships : p'.inventory.graph.relationships =
    p.inventory.graph.relationships ++ fresh Relationship.id p.inventory.graph.linkIds
      ((entered p.inventory.graph.ids (os.flatMap (FileOutcome.entries fileIds))).flatMap
        Entry.links)
  registry : p'.inventory.registry =
    ((entered p.inventory.graph.ids (os.flatMap (FileOutcome.entries fileIds))).map
      Entry.definition).foldl Registry.addDefinition p.inventory.registry
  duplicates : p'.inventory.duplicates = p.inventory.duplicates
    + ((os.flatMap (FileOutcome.entries fileIds)).length
      - (entered p.inventory.graph.ids (os.flatMap (FileOutcome.entries fileIds))).length)
  byKind : p'.inventory.byKind =
    ((entered p.inventory.graph.ids (os.flatMap (FileOutcome.entries fileIds))).map
      (·.definition.kind.name)).foldl OrderedMap.increment p.inventory.byKind
  parsed : p'.parsed = p.parsed.insertAll (os.filterMap FileOutcome.parsedEntry?)
  processed : p'.processed = p.processed + (os.filterMap FileOutcome.parsed?).length
  failed : p'.failed = p.failed + (os.filterMap FileOutcome.failure?).length
  skipped : p'.skipped =
    ((os.filterMap FileOutcome.skip?).map SkipReason.code).foldl OrderedMap.increment p.skipped
  parseFailures : p'.parseFailures = p.parseFailures ++ os.filterMap FileOutcome.failure?
  queryFailures : p'.queryFailures = p.queryFailures ++ os.flatMap FileOutcome.queryFailures

namespace Written

variable {fileIds contents}

/-- Nothing to write changes nothing. -/
protected theorem refl (p : Parsing) : Written fileIds p p [] := by
  constructor <;> simp [entered, OrderedMap.insertAll]

/-- What one outcome leaves behind. -/
theorem single (p : Parsing) (o : FileOutcome) :
    Written fileIds p (p.write fileIds contents o) [o] := by
  have hfold := Inventory.foldl_addEntry p.inventory (o.entries fileIds)
  rw [write_eq]
  constructor
  case ids =>
    intro id
    simp only [Graph.ids_setProperties, hfold, Graph.mem_ids_foldl_attach, List.map_map,
      List.flatMap_singleton]
    refine ((mem_append_keys_fresh Entry.id p.inventory.graph.ids _ id).symm.trans ?_).symm
    exact List.mem_append
  case relationships =>
    simp only [Graph.relationships_setProperties, hfold, Graph.relationships_foldl_attach,
      List.flatMap_map, List.flatMap_singleton]
    rfl
  case registry => simp only [hfold, List.flatMap_singleton]
  case duplicates => simp only [hfold, List.flatMap_singleton]
  case byKind => simp only [hfold, List.flatMap_singleton]
  case parsed => cases h : o.parsedEntry? <;> simp [h]
  case processed => cases h : o.parsed? <;> simp [h]
  case failed => cases h : o.failure? <;> simp [h]
  case skipped => cases h : o.skip? <;> simp [h]
  case parseFailures => cases h : o.failure? <;> simp [h]
  case queryFailures => simp

/-- The entries of two sequences: what the first leaves free enters from the second. -/
theorem entered_append {p p₁ : Parsing} {os₁ : List FileOutcome} (h₁ : Written fileIds p p₁ os₁)
    (es : List Entry) :
    entered p.inventory.graph.ids (os₁.flatMap (FileOutcome.entries fileIds) ++ es) =
      entered p.inventory.graph.ids (os₁.flatMap (FileOutcome.entries fileIds))
        ++ entered p₁.inventory.graph.ids es := by
  rw [entered, fresh_append, entered, entered]
  congr 1
  refine fresh_congr (fun id => ?_) es
  rw [h₁.ids id, List.mem_append]

/-- Outcomes may be written in two parts. -/
protected theorem trans {p p₁ p₂ : Parsing} {os₁ os₂ : List FileOutcome}
    (h₁ : Written fileIds p p₁ os₁) (h₂ : Written fileIds p₁ p₂ os₂) :
    Written fileIds p p₂ (os₁ ++ os₂) := by
  have hsplit := h₁.entered_append (os₂.flatMap (FileOutcome.entries fileIds))
  have hlen := (fresh_sublist Entry.id p.inventory.graph.ids
    (os₁.flatMap (FileOutcome.entries fileIds))).length_le
  have hlen₂ := (fresh_sublist Entry.id p₁.inventory.graph.ids
    (os₂.flatMap (FileOutcome.entries fileIds))).length_le
  constructor
  case ids =>
    intro id
    rw [h₂.ids, h₁.ids, List.flatMap_append, List.map_append, List.mem_append, or_assoc]
  case relationships =>
    rw [h₂.relationships, h₁.relationships, List.flatMap_append, hsplit, List.flatMap_append,
      fresh_append, List.append_assoc]
    congr 2
    refine fresh_congr (fun id => ?_) _
    rw [Graph.linkIds, h₁.relationships, List.map_append]
    exact (mem_append_keys_fresh Relationship.id _ _ id).trans List.mem_append.symm
  case registry =>
    rw [h₂.registry, h₁.registry, List.flatMap_append, hsplit, List.map_append, List.foldl_append]
  case duplicates =>
    rw [h₂.duplicates, h₁.duplicates, List.flatMap_append, hsplit, List.length_append,
      List.length_append]
    simp only [entered] at hlen hlen₂ ⊢
    omega
  case byKind =>
    rw [h₂.byKind, h₁.byKind, List.flatMap_append, hsplit, List.map_append, List.foldl_append]
  case parsed =>
    rw [h₂.parsed, h₁.parsed, List.filterMap_append, OrderedMap.insertAll, OrderedMap.insertAll,
      OrderedMap.insertAll, List.foldl_append]
  case processed =>
    rw [h₂.processed, h₁.processed, List.filterMap_append, List.length_append]
    omega
  case failed =>
    rw [h₂.failed, h₁.failed, List.filterMap_append, List.length_append]
    omega
  case skipped =>
    rw [h₂.skipped, h₁.skipped, List.filterMap_append, List.map_append, List.foldl_append]
  case parseFailures =>
    rw [h₂.parseFailures, h₁.parseFailures, List.filterMap_append, List.append_assoc]
  case queryFailures =>
    rw [h₂.queryFailures, h₁.queryFailures, List.flatMap_append, List.append_assoc]

end Written

/-- What a sequence of outcomes leaves behind. -/
theorem written_foldl (p : Parsing) (os : List FileOutcome) :
    Written fileIds p (os.foldl (write fileIds contents) p) os := by
  induction os generalizing p with
  | nil => exact .refl p
  | cons o os ih =>
    have hfirst : Written fileIds p (p.write fileIds contents o) [o] := .single p o
    exact hfirst.trans (ih _)

/-- The nodes after one outcome. -/
theorem nodes_write (p : Parsing) (o : FileOutcome) :
    (p.write fileIds contents o).inventory.graph.nodes =
      (p.inventory.graph.nodes
        ++ (entered p.inventory.graph.ids (o.entries fileIds)).map
          fun e => Inventory.nodeOf e.definition).map
        (Node.described [(fileIds.getD o.path "",
          o.description contents (entered p.inventory.graph.ids (o.entries fileIds)).length)]) := by
  have hkept : fresh Node.id p.inventory.graph.ids
      ((entered p.inventory.graph.ids (o.entries fileIds)).map fun e =>
        Inventory.nodeOf e.definition) =
      (entered p.inventory.graph.ids (o.entries fileIds)).map fun e =>
        Inventory.nodeOf e.definition := by
    rw [fresh_map]
    congr 1
    exact fresh_fresh Entry.id p.inventory.graph.ids (o.entries fileIds)
  rw [write_eq, Graph.nodes_setProperties, Inventory.foldl_addEntry]
  simp only [Graph.nodes_foldl_attach, List.map_map]
  rw [← hkept]
  rfl

/--
The nodes of a finished stage: the old ones and those of the entered definitions, all described, if
no definition has the identifier of a described file.
-/
theorem nodes_foldl_write (p : Parsing) (os : List FileOutcome)
    (h : ∀ o ∈ os, ∀ e ∈ os.flatMap (FileOutcome.entries fileIds),
      e.id ≠ fileIds.getD o.path "") :
    (os.foldl (write fileIds contents) p).inventory.graph.nodes =
      (p.inventory.graph.nodes
        ++ (entered p.inventory.graph.ids (os.flatMap (FileOutcome.entries fileIds))).map
          fun e => Inventory.nodeOf e.definition).map
        (Node.described (descriptions fileIds contents p.inventory.graph.ids os)) := by
  induction os generalizing p with
  | nil =>
    have hid : Node.described [] = id := funext Node.described_nil
    simp [entered, descriptions, hid]
  | cons o os ih =>
    have hfirst : Written fileIds p (p.write fileIds contents o) [o] := .single p o
    have hrest : ∀ o' ∈ os, ∀ e ∈ os.flatMap (FileOutcome.entries fileIds),
        e.id ≠ fileIds.getD o'.path "" := by
      intro o' ho' e he
      refine h o' (List.mem_cons_of_mem o ho') e ?_
      rw [List.flatMap_cons]
      exact List.mem_append_right _ he
    have hdescr :
        descriptions fileIds contents (p.write fileIds contents o).inventory.graph.ids os =
          descriptions fileIds contents
            (p.inventory.graph.ids ++ (o.entries fileIds).map Entry.id) os := by
      refine descriptions_congr fileIds contents (fun id => ?_) os
      rw [hfirst.ids, List.mem_append, List.flatMap_singleton]
    have hentered := hfirst.entered_append (os.flatMap (FileOutcome.entries fileIds))
    rw [List.flatMap_singleton] at hentered
    -- nodes that are entered later were not there to be described by the first outcome
    have hlater : ((entered (p.write fileIds contents o).inventory.graph.ids
        (os.flatMap (FileOutcome.entries fileIds))).map fun e => Inventory.nodeOf e.definition).map
        (Node.described [(fileIds.getD o.path "",
          o.description contents (entered p.inventory.graph.ids (o.entries fileIds)).length)]) =
        (entered (p.write fileIds contents o).inventory.graph.ids
          (os.flatMap (FileOutcome.entries fileIds))).map fun e => Inventory.nodeOf e.definition := by
      rw [List.map_map]
      refine List.map_congr_left fun e he => Node.described_of_notMem ?_
      rw [List.map_cons, List.map_nil, List.mem_singleton]
      refine h o List.mem_cons_self e ?_
      rw [List.flatMap_cons]
      exact List.mem_append_right _ (mem_of_mem_fresh he).1
    rw [List.foldl_cons, ih _ hrest, hdescr, nodes_write, ← hlater, List.flatMap_cons, hentered,
      descriptions, ← List.map_append, List.map_map, List.append_assoc, ← List.map_append]
    exact List.map_congr_left fun n _ => (Node.described_append [_] _ n).symm

end Parsing

end CodeGraph
