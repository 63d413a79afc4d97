import CodeGraph.Proofs.Registration

/-!
# When definitions clash

The text behind the identifier of a definition joins kind, path, name and span with colons. Kinds
and numbers hold none, so kind and span can be read off; a path and a name may hold colons, and then
two definitions of different files can have one text: the path of one takes over the start of the
name of the other. Apart from that, a definition is only skipped after one of its own file that is
alike.

## Main definitions

* `Definition.Overlaps`: a path takes over the start of another definition's name.
* `Inventory.Skips`: a definition is only counted as a duplicate.

## Main results

* `Definition.idSource_eq_iff`: when two definitions have the same text.
* `Engine.skips_iff`: which definitions a run skips.
* `Engine.skips_across_files`: two files of which one loses its only definition.
-/

namespace CodeGraph

open Inventory (Entry entriesOf)

/-! ### Texts from their ends -/

/-- Two texts with the same separator agree on what stands after its last occurrence. -/
theorem append_separator_inj_right {xs ys us vs : List Char} {c : Char} (hu : c ∉ us) (hv : c ∉ vs)
    (h : xs ++ c :: us = ys ++ c :: vs) : xs = ys ∧ us = vs := by
  have hrev : us.reverse ++ c :: xs.reverse = vs.reverse ++ c :: ys.reverse := by
    simpa using congrArg List.reverse h
  obtain ⟨hback, hfront⟩ := append_separator_inj (by simpa using hu) (by simpa using hv) hrev
  exact ⟨List.reverse_injective hfront, List.reverse_injective hback⟩

/--
Two texts with a separator agree, or the one separator stands in the back part of the other text.
-/
theorem append_separator_cases {xs ys us vs : List Char} {c : Char}
    (h : xs ++ c :: us = ys ++ c :: vs) :
    (xs = ys ∧ us = vs) ∨ (∃ ms, ys = xs ++ c :: ms ∧ us = ms ++ c :: vs) ∨
      ∃ ms, xs = ys ++ c :: ms ∧ vs = ms ++ c :: us := by
  rcases List.append_eq_append_iff.mp h with ⟨ms, hys, hus⟩ | ⟨ms, hxs, hvs⟩
  · cases ms with
    | nil =>
      obtain ⟨-, rfl⟩ := List.cons.inj hus
      exact .inl ⟨by simpa using hys.symm, rfl⟩
    | cons m ms =>
      obtain ⟨rfl, rfl⟩ := List.cons.inj hus
      exact .inr (.inl ⟨ms, hys, rfl⟩)
  · cases ms with
    | nil =>
      obtain ⟨-, rfl⟩ := List.cons.inj hvs
      exact .inl ⟨by simpa using hxs, rfl⟩
    | cons m ms =>
      obtain ⟨rfl, rfl⟩ := List.cons.inj hvs
      exact .inr (.inr ⟨ms, hxs, rfl⟩)

/-- A place is written as its digits, behind a minus sign if it is negative. -/
theorem toList_toString (n : Int) :
    (toString n).toList =
      if n < 0 then '-' :: Nat.toDigits 10 n.natAbs else Nat.toDigits 10 n.natAbs := by
  show n.repr.toList = _
  rw [Int.repr_eq_if]
  by_cases hn : 0 ≤ n
  · rw [if_pos hn, if_neg (by omega), Nat.repr_eq_ofList_toDigits, String.toList_ofList,
      show n.toNat = n.natAbs by omega]
  · rw [if_neg hn, if_pos (by omega), Nat.repr_eq_ofList_toDigits,
      show (-n).toNat = n.natAbs by omega]
    simp

/-- What is no digit does not occur among digits. -/
theorem notMem_toDigits {c : Char} (hc : c.isDigit = false) (n : Nat) : c ∉ Nat.toDigits 10 n := by
  intro hmem
  rw [Nat.isDigit_of_mem_toDigits (by decide) (by decide) hmem] at hc
  cases hc

/-- A place holds no colon. -/
theorem colon_notMem_toString (n : Int) : ':' ∉ (toString n).toList := by
  rw [toList_toString]
  split
  · rw [List.mem_cons, not_or]
    exact ⟨by decide, notMem_toDigits rfl _⟩
  · exact notMem_toDigits rfl _

/-- Numbers with the same digits are the same. -/
theorem toDigits_inj {m n : Nat} (h : Nat.toDigits 10 m = Nat.toDigits 10 n) : m = n := by
  rw [← Nat.ofDigitChars_ten_toDigits (n := m), h, Nat.ofDigitChars_ten_toDigits]

/-- Places that are written alike are the same. -/
theorem toList_toString_inj {m n : Int} (h : (toString m).toList = (toString n).toList) :
    m = n := by
  have hminus : ∀ k l : Nat, '-' :: Nat.toDigits 10 k ≠ Nat.toDigits 10 l := fun k l heq =>
    notMem_toDigits (c := '-') rfl l (heq ▸ List.mem_cons_self)
  rw [toList_toString, toList_toString] at h
  split at h
  · split at h
    · have hsize := toDigits_inj (List.cons.inj h).2
      omega
    · exact absurd h (hminus _ _)
  · split at h
    · exact absurd h.symm (hminus _ _)
    · have hsize := toDigits_inj h
      omega

/-! ### Texts of definitions -/

namespace Definition

/-- The text of a definition, part by part. -/
theorem toList_idSource_eq (d : Definition) :
    d.idSource.toList = d.kind.name.toList ++ ':' :: ((d.filePath.toList ++ ':' :: d.name.toList
      ++ ':' :: (toString d.startByte).toList) ++ ':' :: (toString d.endByte).toList) := by
  simp [idSource, Identifier.definitionSource, Text.join, List.intercalate_cons_cons,
    show (":" : String).toList = [':'] from rfl]

/--
Of two definitions of the same kind and span, the path of the second takes over the start of the
name of the first: what stands before a colon in the name stands behind one in the path.
-/
def Overlaps (d d' : Definition) : Prop :=
  d.kind = d'.kind ∧ d.startByte = d'.startByte ∧ d.endByte = d'.endByte ∧
    ∃ part, d'.filePath = d.filePath ++ ":" ++ part ∧ d.name = part ++ ":" ++ d'.name

/-- Definitions are of one kind, span and name. -/
theorem sameEntity_iff {d d' : Definition} :
    d.sameEntity d' = true ↔ d.kind = d'.kind ∧ d.startByte = d'.startByte ∧
      d.endByte = d'.endByte ∧ d.name = d'.name := by
  simp [sameEntity, and_assoc]

/-- Definitions that overlap are of different files. -/
theorem Overlaps.filePath_ne {d d' : Definition} (h : d.Overlaps d') :
    d.filePath ≠ d'.filePath := by
  obtain ⟨-, -, -, part, hpath, -⟩ := h
  intro heq
  have hlength := congrArg (fun s : String => s.toList.length) (heq.trans hpath)
  simp only [String.toList_append, List.length_append] at hlength
  have hcolon : (":" : String).toList.length = 1 := rfl
  omega

/-- The text of two definitions that overlap is the same. -/
theorem Overlaps.idSource_eq {d d' : Definition} (h : d.Overlaps d') :
    d.idSource = d'.idSource := by
  obtain ⟨hkind, hstart, hend, part, hpath, hname⟩ := h
  refine String.toList_inj.mp ?_
  rw [toList_idSource_eq, toList_idSource_eq, hkind, hstart, hend, hpath, hname]
  simp [show (":" : String).toList = [':'] from rfl]

/-- Two definitions have the same text exactly if they are alike in one file or overlap. -/
theorem idSource_eq_iff {d d' : Definition} :
    d.idSource = d'.idSource ↔ (d.filePath = d'.filePath ∧ d.sameEntity d' = true) ∨
      d.Overlaps d' ∨ d'.Overlaps d := by
  constructor
  · intro h
    have hkind := kind_eq_of_idSource_eq h
    have htext := congrArg String.toList h
    rw [toList_idSource_eq, toList_idSource_eq] at htext
    -- kind and span are cut off, from the front and from the back
    obtain ⟨-, htext⟩ := append_separator_inj (DefinitionKind.colon_notMem_name _)
      (DefinitionKind.colon_notMem_name _) htext
    obtain ⟨htext, hend⟩ := append_separator_inj_right (colon_notMem_toString _)
      (colon_notMem_toString _) htext
    obtain ⟨htext, hstart⟩ := append_separator_inj_right (colon_notMem_toString _)
      (colon_notMem_toString _) htext
    have hend' : d.endByte = d'.endByte := toList_toString_inj hend
    have hstart' : d.startByte = d'.startByte := toList_toString_inj hstart
    have hpart : ∀ {s s' : String} {ms : List Char}, s.toList = s'.toList ++ ':' :: ms →
        s = s' ++ ":" ++ String.ofList ms := by
      intro s s' ms hs
      refine String.toList_inj.mp ?_
      simp [hs, show (":" : String).toList = [':'] from rfl]
    have hrest : ∀ {s s' : String} {ms : List Char}, s.toList = ms ++ ':' :: s'.toList →
        s = String.ofList ms ++ ":" ++ s' := by
      intro s s' ms hs
      refine String.toList_inj.mp ?_
      simp [hs, show (":" : String).toList = [':'] from rfl]
    rcases append_separator_cases htext with ⟨hpath, hname⟩ | ⟨ms, hpath, hname⟩ |
      ⟨ms, hpath, hname⟩
    · exact .inl ⟨String.toList_inj.mp hpath,
        sameEntity_iff.mpr ⟨hkind, hstart', hend', String.toList_inj.mp hname⟩⟩
    · exact .inr (.inl ⟨hkind, hstart', hend', String.ofList ms, hpart hpath, hrest hname⟩)
    · exact .inr (.inr ⟨hkind.symm, hstart'.symm, hend'.symm, String.ofList ms, hpart hpath,
        hrest hname⟩)
  · rintro (⟨hpath, hsame⟩ | hoverlap | hoverlap)
    · obtain ⟨hkind, hstart, hend, hname⟩ := sameEntity_iff.mp hsame
      rw [idSource, idSource, hkind, hpath, hname, hstart, hend]
    · exact hoverlap.idSource_eq
    · exact hoverlap.idSource_eq.symm

end Definition

/-! ### Skipped definitions -/

namespace Inventory

/-- An entry is skipped: the duplicates are counted, and nothing else changes. -/
def Skips (v : Inventory) (x : Entry) : Prop :=
  v.addEntry x = { v with duplicates := v.duplicates + 1 }

/-- An entry is skipped exactly if its identifier is taken. -/
theorem skips_iff_mem_ids (v : Inventory) (x : Entry) : v.Skips x ↔ x.id ∈ v.graph.ids := by
  rw [Skips, addEntry, enter, ← Graph.hasNode_iff, Entry.id]
  by_cases hnode : v.graph.hasNode x.definition.nodeId = true
  · rw [if_pos hnode]
    exact ⟨fun _ => hnode, fun _ => rfl⟩
  · rw [if_neg hnode]
    constructor
    · intro h
      have hcount : v.duplicates = v.duplicates + 1 := congrArg Inventory.duplicates h
      omega
    · intro h
      exact absurd h hnode

/-- After some entries their identifiers are taken. -/
theorem mem_ids_foldl_addEntry (v : Inventory) (es : List Entry) (id : String) :
    id ∈ (es.foldl addEntry v).graph.ids ↔ id ∈ v.graph.ids ∨ id ∈ es.map Entry.id := by
  rw [foldl_addEntry, Graph.mem_ids_foldl_attach, List.map_map, ← List.mem_append]
  exact mem_append_keys_fresh Entry.id v.graph.ids es id

end Inventory

namespace Stages

variable {s : Stages} {os : List FileOutcome} {e : Engine}

/-- The inventory before the first file. -/
def start (s : Stages) : Inventory :=
  (Engine.beforeParsing s.request s.plan s.skeleton).inventory

/-- Before the first file the identifiers of the skeleton are taken. -/
theorem ids_start (s : Stages) : s.start.graph.ids = s.skeleton.graph.ids := by
  rw [start, beforeParsing_eq, Graph.ids_describeAll]

/-- An entry is skipped exactly if an earlier one has the same text. -/
theorem Complete.skips_iff_exists (h : s.Complete os) (hinj : s.Injective e)
    {before after : List Entry} {x : Entry} (hsplit : s.entries = before ++ x :: after) :
    (before.foldl Inventory.addEntry s.start).Skips x ↔
      ∃ y ∈ before, y.definition.idSource = x.definition.idSource := by
  have hx : x ∈ s.entries := by simp [hsplit]
  have hbefore : ∀ y ∈ before, y ∈ s.entries := fun y hy => by simp [hsplit, hy]
  rw [Inventory.skips_iff_mem_ids, Inventory.mem_ids_foldl_addEntry, ids_start, List.mem_map]
  constructor
  · rintro (hskeleton | ⟨y, hy, hid⟩)
    · exact absurd hskeleton (h.id_notMem_skeleton hinj.nodes hx)
    · exact ⟨y, hy, (h.id_eq_iff hinj.nodes hx (hbefore y hy)).mp hid⟩
  · rintro ⟨y, hy, htext⟩
    exact .inr ⟨y, hy, (h.id_eq_iff hinj.nodes hx (hbefore y hy)).mpr htext⟩

/-- If there are no duplicates, definitions have different identifiers. -/
theorem Complete.nodup_of_duplicates_eq_zero (h : s.Complete os)
    (hzero : s.parsing.inventory.duplicates = 0) : (s.definitions.map Definition.nodeId).Nodup := by
  have hall : s.entered = s.entries := by
    refine (fresh_sublist Entry.id s.skeleton.graph.ids s.entries).eq_of_length ?_
    have hlength := h.length_entered_add
    rw [hzero, Nat.add_zero, ← s.length_entries] at hlength
    exact hlength
  have hids : (s.entered.map Entry.id).Nodup := nodup_keys_fresh Entry.id _ s.entries
  rw [hall] at hids
  rw [← s.map_definition_entries, List.map_map]
  exact hids

/-- Registry and counts of a run are what its entries leave behind, one after the other. -/
theorem Complete.foldl_addEntry_start (h : s.Complete os) :
    (s.entries.foldl Inventory.addEntry s.start).registry = s.parsing.inventory.registry ∧
      (s.entries.foldl Inventory.addEntry s.start).duplicates =
        s.parsing.inventory.duplicates := by
  rw [Inventory.foldl_addEntry, h.written.registry, h.written.duplicates, h.entries_eq]
  exact ⟨rfl, rfl⟩

end Stages

/--
A run enters the definitions of the parsed files one after the other. It skips one exactly if an
earlier definition of the same file has the same kind, name and span, or an earlier one of another
file overlaps it; and so do any two definitions of the run with the same text.
-/
theorem Engine.skips_iff (e : Engine) (request : Request) (i : Interruptions) {cache : Cache}
    (hcache : cache.Reachable) {res : IngestResult} (hrun : (e.run request i cache).1 = .ok res)
    (hinj : Set.InjOn Identifier.digest {t | t ∈ e.hashed request i cache}) :
    ∃ s after, e.stages? request i cache = some s ∧
      res = e.finish s.skeleton s.parsing cache after ∧
      (s.entries.foldl Inventory.addEntry s.start).registry = s.parsing.inventory.registry ∧
      (s.entries.foldl Inventory.addEntry s.start).duplicates = res.report.duplicates ∧
      s.entries.map Entry.definition = e.definitions request i cache ∧
      (∀ before x rest, s.entries = before ++ x :: rest →
        ((before.foldl Inventory.addEntry s.start).Skips x ↔ ∃ y ∈ before,
          (y.definition.filePath = x.definition.filePath ∧
            y.definition.sameEntity x.definition = true) ∨
          y.definition.Overlaps x.definition ∨ x.definition.Overlaps y.definition)) ∧
      ∀ d ∈ e.definitions request i cache, ∀ d' ∈ e.definitions request i cache,
        (d.idSource = d'.idSource ↔ (d.filePath = d'.filePath ∧ d.sameEntity d' = true) ∨
          d.Overlaps d' ∨ d'.Overlaps d) := by
  obtain ⟨s, os, after, hstages, rfl, -, hs, rfl⟩ := Engine.exists_complete hcache.sound hrun
  have hinj' : s.Injective e := Stages.injective_of_hashed hstages hinj
  obtain ⟨hregistry, hduplicates⟩ := hs.foldl_addEntry_start
  refine ⟨s, after, hstages, rfl, hregistry, hduplicates, ?_, fun before x rest hsplit => ?_,
    fun d _ d' _ => Definition.idSource_eq_iff⟩
  · rw [Engine.definitions, hstages]
    exact s.map_definition_entries
  · rw [hs.skips_iff_exists hinj' hsplit]
    exact exists_congr fun y => and_congr_right fun _ => Definition.idSource_eq_iff

/-- The first definition of the sample is not skipped. -/
theorem Engine.skips_iff_sample :
    ∃ s, Sample.engine.stages? Sample.request {} (Cache.ofSettings {}) = some s ∧
      ∀ x rest, s.entries = x :: rest → ¬s.start.Skips x := by
  obtain ⟨res, hres, -⟩ := Sample.exists_result
  obtain ⟨s, after, hstages, -, -, -, -, hskips, -⟩ :=
    Engine.skips_iff _ _ _ (Cache.reachable_ofSettings {}) hres Sample.injOn_hashed
  refine ⟨s, hstages, fun x rest hsplit hskip => ?_⟩
  obtain ⟨y, hy, -⟩ := (hskips [] x rest hsplit).mp hskip
  cases hy

/-- Two files: what is an image and its version in one is part of the path in the other. -/
def clashRequest : Request :=
  { filePaths := ["Dockerfile.web", "Dockerfile.web:node"]
    fileContents := ⟨[("Dockerfile.web", "FROM node:18"),
      ("Dockerfile.web:node", "FROM 18     ")]⟩ }

/-- Two files define one thing each, and one of these definitions is skipped. -/
theorem Engine.skips_across_files :
    ∃ res d d', (({} : Engine).run clashRequest {} (Cache.ofSettings {})).1 = .ok res ∧
      ({} : Engine).definitions clashRequest {} (Cache.ofSettings {}) = [d, d'] ∧
      d.filePath ≠ d'.filePath ∧ d.idSource = d'.idSource ∧ res.report.duplicates ≠ 0 := by
  have hfound : (({} : Engine).definitions clashRequest {} (Cache.ofSettings {})).map
      (fun d => (d.filePath, d.idSource)) =
      [("Dockerfile.web", "variable:Dockerfile.web:node:18:0:12"),
       ("Dockerfile.web:node", "variable:Dockerfile.web:node:18:0:12")] := by
    decide +kernel
  have hreturns : (({} : Engine).run clashRequest {} (Cache.ofSettings {})).1.toBool = true := by
    decide +kernel
  cases hrun : (({} : Engine).run clashRequest {} (Cache.ofSettings {})).1 with
  | error err =>
    rw [hrun] at hreturns
    cases hreturns
  | ok res =>
    obtain ⟨s, os, after, hstages, -, -, hs, rfl⟩ :=
      Engine.exists_complete (Cache.reachable_ofSettings {}).sound hrun
    obtain ⟨d, d', hpair, hd, hd'⟩ : ∃ d d',
        ({} : Engine).definitions clashRequest {} (Cache.ofSettings {}) = [d, d'] ∧
        (d.filePath, d.idSource) = ("Dockerfile.web", "variable:Dockerfile.web:node:18:0:12") ∧
        (d'.filePath, d'.idSource) =
          ("Dockerfile.web:node", "variable:Dockerfile.web:node:18:0:12") := by
      obtain ⟨d, tail, hlist, hd, htail⟩ := List.map_eq_cons_iff.mp hfound
      obtain ⟨d', rest, rfl, hd', hrest⟩ := List.map_eq_cons_iff.mp htail
      rw [List.map_eq_nil_iff.mp hrest] at hlist
      exact ⟨d, d', hlist, hd, hd'⟩
    obtain ⟨hpath, htext⟩ := Prod.mk.inj hd
    obtain ⟨hpath', htext'⟩ := Prod.mk.inj hd'
    refine ⟨_, d, d', rfl, hpair, ?_, htext.trans htext'.symm, ?_⟩
    · rw [hpath, hpath']
      decide
    · intro hzero
      have hnodup := hs.nodup_of_duplicates_eq_zero hzero
      rw [Engine.definitions, hstages] at hpair
      have hall : ∀ x ∈ s.definitions, x.nodeId = Identifier.digest x.idSource := by
        intro x hx
        obtain ⟨⟨path, f⟩, hf, hx⟩ := List.mem_flatMap.mp hx
        exact ((hs.exists_of_mem_files hf).2.2.definitions x hx).nodeId
      rw [show s.definitions = [d, d'] from hpair] at hnodup hall
      rw [List.map_cons, List.map_singleton, hall d (by simp), hall d' (by simp), htext, htext']
        at hnodup
      exact (List.nodup_cons.mp hnodup).1 List.mem_cons_self

end CodeGraph
