import CodeGraph.Proofs.RelativeModules

/-!
# Imports that climb out of the project

A relative import may go up more directories than there are above the importing file. The steps of a
script then lead above the root, and there is no candidate. A module's level is counted by taking
the directory again and again, which stops at the root, so that the import is read as one that
starts there.

## Main definitions

* `Path.climbs`: the number of steps up that a module text begins with.

## Main results

* `Path.reach?_eq_none`: more steps up than there are directories lead above the root.
* `Registry.climbing_out`: imports with more steps up than there are directories.
-/

namespace CodeGraph

/-! ### Texts -/

namespace Text

/-- What follows does not change how a text begins. -/
theorem startsWith_append {start s : String} (h : startsWith start s = true) (t : String) :
    startsWith start (s ++ t) = true := by
  rw [startsWith, List.isPrefixOf_iff_prefix] at h ⊢
  rw [String.toList_append]
  exact h.trans (List.prefix_append _ _)

/-- A text without slashes does not begin with one. -/
theorem startsWith_of_notMem {s : String} (h : '/' ∉ s.toList) : startsWith "/" s = false :=
  Bool.eq_false_iff.mpr fun hstart =>
    h (List.mem_of_mem_head? ((startsWith_iff_head? rfl s).mp hstart))

/-- A piece of a text holds nothing but what the text holds. -/
theorem mem_of_mem_splitOn {sep c : Char} {cs piece : List Char} (h : piece ∈ cs.splitOn sep)
    (hc : c ∈ piece) : c ∈ cs := by
  induction cs generalizing piece with
  | nil =>
    rw [List.splitOn_nil, List.mem_singleton] at h
    exact absurd hc (h ▸ List.not_mem_nil)
  | cons d ds ih =>
    rw [List.splitOn_cons_eq_if_modifyHead] at h
    obtain ⟨first, rest, heq⟩ := List.exists_cons_of_ne_nil (List.splitOn_ne_nil sep ds)
    rw [heq] at h ih
    split at h
    · rcases List.mem_cons.mp h with rfl | h
      · cases hc
      · exact List.mem_cons_of_mem d (ih h hc)
    · rw [List.modifyHead_cons] at h
      rcases List.mem_cons.mp h with rfl | h
      · rcases List.mem_cons.mp hc with rfl | hc
        · exact List.mem_cons_self
        · exact List.mem_cons_of_mem d (ih List.mem_cons_self hc)
      · exact List.mem_cons_of_mem d (ih (List.mem_cons_of_mem first h) hc)

/-- Behind a piece without slashes a text does not end with one. -/
theorem endsWith_append (s : String) {piece : String} (hne : piece ≠ "")
    (h : '/' ∉ piece.toList) : endsWith "/" (s ++ piece) = false := by
  refine Bool.eq_false_iff.mpr fun hend => ?_
  obtain ⟨front, c, hpiece⟩ := (List.eq_nil_or_concat piece.toList).resolve_left
    (mt String.toList_eq_nil_iff.mp hne)
  obtain ⟨rest, hrest⟩ := List.isSuffixOf_iff_suffix.mp hend
  rw [String.toList_append, hpiece, List.concat_eq_append, ← List.append_assoc] at hrest
  obtain rfl : '/' = c := by simpa using (List.append_inj' hrest rfl).2
  exact h (by simp [hpiece])

end Text

namespace Path

/-! ### Steps above the root -/

/-- The number of steps up that a module text begins with; steps that stay do not count. -/
def climbs (moduleName : String) : Nat :=
  (((Text.segments '/' moduleName).filter (· ≠ ".")).takeWhile (· = "..")).length

/-- Steps that stay may be left out. -/
theorem foldlM_step?_filter (cs dir : List String) :
    ((cs.filter (· ≠ "")).filter (· ≠ ".")).foldlM step? dir = cs.foldlM step? dir := by
  induction cs generalizing dir with
  | nil => rfl
  | cons c cs ih =>
    by_cases hempty : c = ""
    · subst hempty
      exact ih dir
    by_cases hdot : c = "."
    · subst hdot
      exact ih dir
    · rw [List.filter_cons_of_pos (by simpa using hempty),
        List.filter_cons_of_pos (by simpa using hdot), List.foldlM_cons, List.foldlM_cons]
      exact congrArg _ (funext ih)

/-- Steps lead down by no more than the number of their components. -/
theorem length_le_of_foldlM {cs dir dir' : List String} (h : cs.foldlM step? dir = some dir') :
    dir'.length ≤ dir.length + (cs.filter (· ≠ "")).length := by
  induction cs generalizing dir with
  | nil =>
    obtain rfl := Option.some.inj h
    exact Nat.le_refl _
  | cons c cs ih =>
    rw [List.foldlM_cons] at h
    obtain ⟨next, hstep, hrest⟩ := Option.bind_eq_some_iff.mp h
    have hle := ih hrest
    by_cases hempty : c = ""
    · subst hempty
      obtain rfl := Option.some.inj hstep
      exact hle
    · have hnext : next.length ≤ dir.length + 1 := by
        have hcases := leadsTo_step? dir c
        rw [hstep] at hcases
        cases hcases with
        | stay _ => exact Nat.le_succ _
        | down _ _ _ => rw [List.length_append, List.length_singleton]
        | up _ =>
          rw [List.length_dropLast]
          omega
      rw [List.filter_cons_of_pos (by simpa using hempty), List.length_cons]
      omega

/-- More steps up than a directory has components lead above the root. -/
theorem foldlM_replicate_up {dir : List String} {n : Nat} (h : dir.length < n) :
    (List.replicate n "..").foldlM step? dir = none := by
  induction n generalizing dir with
  | zero => exact absurd h (Nat.not_lt_zero _)
  | succ n ih =>
    rw [List.replicate_succ, List.foldlM_cons]
    by_cases hroot : dir = []
    · subst hroot
      rfl
    · have hpos := List.length_pos_iff.mpr hroot
      have hstep : step? dir ".." = some dir.dropLast := by
        simp [step?, hroot]
      rw [hstep]
      exact ih (by rw [List.length_dropLast]; omega)

/-- A module text that climbs higher than the root leads nowhere. -/
theorem reach?_eq_none {importer moduleName : String} (h : depth importer < climbs moduleName) :
    reach? importer moduleName = none := by
  rw [reach?, List.foldlM_append]
  cases hdir : (Text.split '/' (directory importer)).foldlM step? [] with
  | none => rfl
  | some dir =>
    have hle := length_le_of_foldlM hdir
    rw [List.length_nil, Nat.zero_add] at hle
    show (Text.split '/' moduleName).foldlM step? dir = none
    have hup : ((Text.segments '/' moduleName).filter (· ≠ ".")).takeWhile (· = "..") =
        List.replicate (climbs moduleName) ".." :=
      List.eq_replicate_of_mem fun c hc => by simpa using List.mem_takeWhile_imp hc
    rw [← foldlM_step?_filter, ← Text.segments, ← List.takeWhile_append_dropWhile
      (p := fun c => decide (c = "..")) (l := (Text.segments '/' moduleName).filter (· ≠ ".")),
      hup, List.foldlM_append, foldlM_replicate_up (Nat.lt_of_le_of_lt hle h)]
    rfl

/-! ### Rooted importers -/

/-- The directory of a rooted path is rooted. -/
theorem startsWith_directory {path : String} (h : Text.startsWith "/" path = true) :
    Text.startsWith "/" (directory path) = true := by
  rw [Text.startsWith_iff_head? (c := '/') rfl] at h ⊢
  have hne : directory path ≠ "" := by
    intro hempty
    rcases Text.exists_last_slash path with hslash | ⟨dir, last, rfl, hslash⟩
    · exact hslash (List.mem_of_mem_head? h)
    · rw [directory_append_slash_eq dir hslash] at hempty
      split at hempty
      · simp at hempty
      · next hall =>
        obtain ⟨n, hn⟩ := Text.exists_trimEndWhile_append (dir ++ "/" ++ "")
        rw [hempty, String.empty_append] at hn
        exact hall (by simp [hn, Text.replicate])
  obtain ⟨rest, hrest⟩ := directory_leading path
  rw [← hrest, List.head?_append_of_ne_nil _ (mt String.toList_eq_nil_iff.mp hne)] at h
  exact h

/-- A collapsed path is rooted if the path was. -/
theorem startsWith_collapse {path : String} (h : Text.startsWith "/" path = true) :
    Text.startsWith "/" (collapse path) = true := by
  rw [Text.startsWith_iff_head? (c := '/') rfl] at h ⊢
  have hslashes : (path.toList.takeWhile (· = '/')).length ≠ 0 := by
    cases hcs : path.toList with
    | nil => simp [hcs] at h
    | cons c cs =>
      obtain rfl : c = '/' := by simpa [hcs] using h
      simp
  have hlead : ∀ lead rest : String, lead = "/" ∨ lead = "//" →
      (if lead ++ rest = "" then "." else lead ++ rest).toList.head? = some '/' := by
    rintro lead rest (rfl | rfl) <;> simp
  refine hlead _ _ ?_
  rw [if_neg hslashes]
  split
  · exact .inr rfl
  · exact .inl rfl

end Path

/-- A relative module of a rooted importer is looked for at a rooted path. -/
theorem startsWith_scriptBase {importer moduleName : String}
    (himporter : Text.startsWith "/" importer = true)
    (hrelative : Text.startsWith "." moduleName = true) :
    Text.startsWith "/" (scriptBase importer moduleName) = true := by
  rw [scriptBase, if_pos hrelative]
  apply Path.startsWith_collapse
  have hdir := Path.startsWith_directory himporter
  rw [Path.join, if_neg (mt (Text.startsWith_iff_head? rfl _).mp
    (head?_ne_slash_of_relative hrelative))]
  split
  · exact Text.startsWith_append hdir _
  · exact Text.startsWith_append (Text.startsWith_append hdir _) _

/-- The candidates for a rooted importer are rooted. -/
theorem startsWith_of_mem_scriptCandidates {importer moduleName c : String}
    (himporter : Text.startsWith "/" importer = true)
    (hrelative : Text.startsWith "." moduleName = true)
    (hc : c ∈ scriptCandidates importer moduleName) : Text.startsWith "/" c = true := by
  have hbase := startsWith_scriptBase himporter hrelative
  obtain ⟨rest, hrest⟩ : ∃ rest, (scriptBase importer moduleName).toList = '/' :: rest := by
    obtain ⟨rest, hrest⟩ := List.isPrefixOf_iff_prefix.mp hbase
    exact ⟨rest, hrest.symm⟩
  have hinside : Text.startsWith "../" (scriptBase importer moduleName) = false ∧
      scriptBase importer moduleName ≠ ".." := by
    constructor
    · rw [Text.startsWith, hrest]
      rfl
    · intro heq
      rw [heq] at hrest
      simp at hrest
  rcases (mem_scriptCandidates rfl hinside).mp hc
    with rfl | ⟨-, e, -, rfl⟩ | ⟨e, -, rfl⟩ | ⟨e, -, rfl⟩
  · exact hbase
  · obtain ⟨front, pieces, last, heq, hlast, hstem, -⟩ :=
      Path.exists_name (scriptBase importer moduleName)
    have hfront : Text.startsWith "/" front = true := by
      rw [heq, Text.startsWith_iff_head? (c := '/') rfl, String.toList_append] at hbase
      rw [Text.startsWith_iff_head? (c := '/') rfl]
      cases hcs : front.toList with
      | nil =>
        rw [hcs, List.nil_append] at hbase
        exact absurd (List.mem_of_mem_head? hbase) hlast
      | cons c cs => simpa [hcs] using hbase
    rw [hstem]
    exact Text.startsWith_append (Text.startsWith_append hfront _) _
  · exact Text.startsWith_append hbase _
  · exact Text.startsWith_append (Text.startsWith_append hbase _) _

/-! ### Levels -/

/-- A level that is higher than the root counts as one that reaches it. -/
theorem pythonBase_of_depth_lt {importer : String} {level : Int}
    (h : (Path.depth importer : Int) + 1 < level) (moduleName : String) :
    pythonBase importer moduleName level =
      pythonBase importer moduleName (Path.depth importer + 1) := by
  have htoNat : ((Path.depth importer : Int) + 1).toNat = Path.depth importer + 1 := by
    omega
  rw [pythonBase, pythonBase, if_pos (by omega), if_pos (by omega), htoNat,
    (Path.climb_of_depth_lt (by omega : Path.depth importer < level.toNat)).1]

/-- Steps without slashes are joined by slashes. -/
theorem Path.foldl_join {parts : List String} (h : ∀ p ∈ parts, p ≠ "" ∧ '/' ∉ p.toList)
    {base : String} (hne : base ≠ "") (hend : Text.endsWith "/" base = false) :
    parts.foldl join base = Text.join "/" (base :: parts) := by
  induction parts generalizing base with
  | nil => rw [List.foldl_nil, Text.join_singleton]
  | cons p ps ih =>
    obtain ⟨hp, hslash⟩ := h p List.mem_cons_self
    have hjoin : join base p = base ++ "/" ++ p := by
      rw [join, Text.startsWith_of_notMem hslash, if_neg Bool.false_ne_true,
        if_neg (by simp [hne, hend])]
    rw [List.foldl_cons, hjoin, ih (fun q hq => h q (List.mem_cons_of_mem p hq)) (by simp [hp])
      (Text.endsWith_append _ hp hslash)]
    cases ps with
    | nil => simp [Text.join_cons_of_ne_nil]
    | cons q qs => simp [Text.join_cons_of_ne_nil, String.append_assoc]

/-- From the root, a module is looked for where an absolute import looks for it. -/
theorem pythonBase_eq_absolute {importer moduleName : String} {level : Int}
    (himporter : Text.startsWith "/" importer = false) (hslash : '/' ∉ moduleName.toList)
    (h : (Path.depth importer : Int) + 1 < level) :
    pythonBase importer moduleName level = pythonBase importer moduleName 0 := by
  have hparts : ∀ p ∈ Text.segments '.' moduleName, p ≠ "" ∧ '/' ∉ p.toList := by
    intro p hp
    obtain ⟨hmem, hne⟩ := List.mem_filter.mp hp
    obtain ⟨cs, hcs, rfl⟩ := List.mem_map.mp hmem
    refine ⟨of_decide_eq_true hne, fun hin => hslash ?_⟩
    exact Text.mem_of_mem_splitOn hcs (by simpa using hin)
  rw [pythonBase, pythonBase, if_pos (by omega), if_neg (by decide),
    Path.climb_eq_empty himporter (by omega)]
  cases hcases : Text.segments '.' moduleName with
  | nil => rfl
  | cons p ps =>
    rw [hcases] at hparts
    obtain ⟨hp, hpslash⟩ := hparts p List.mem_cons_self
    have hfirst : Path.join "" p = p := by
      rw [Path.join, Text.startsWith_of_notMem hpslash, if_neg Bool.false_ne_true,
        if_pos (by simp), String.empty_append]
    have hend := Text.endsWith_append "" hp hpslash
    rw [String.empty_append] at hend
    rw [List.foldl_cons, hfirst]
    exact Path.foldl_join (fun q hq => hparts q (List.mem_cons_of_mem p hq)) hp hend

/-! ### Imports -/

namespace Registry

/-- A module import depends on its level through the path that it means only. -/
theorem resolveImport_python_congr (r : Registry) {importer : String} {spec : ImportSpec}
    {level : Int} (h : pythonBase importer spec.moduleName spec.level =
      pythonBase importer spec.moduleName level) :
    r.resolveImport importer "python" spec =
      r.resolveImport importer "python" { spec with level := level } := by
  rw [resolveImport, resolveImport, if_pos rfl, if_pos rfl, resolvePython, resolvePython, h]

/--
A script import that climbs higher than the root is not resolved; if the importer itself is given by
a rooted path, it is at least not resolved exactly to a file below the root. A module import whose
level is higher than the root is resolved as if it reached the root and no further, and hence like
an absolute import of the same module.
-/
theorem climbing_out (arrivals : List Arrival) (importer : String) (spec : ImportSpec) :
    let r := arrivals.foldl receive empty
    (∀ language, language ≠ "python" → language ≠ "java" →
      Text.startsWith "." spec.moduleName = true →
      Path.depth importer < Path.climbs spec.moduleName →
      (Text.startsWith "/" importer = false → r.resolveImport importer language spec = []) ∧
      ∀ t ∈ r.resolveImport importer language spec, t.resolution.strategy = .exact →
        Text.startsWith "/" importer = true ∧
        Text.startsWith "/" t.resolution.target = true) ∧
    ((Path.depth importer : Int) + 1 < spec.level →
      r.resolveImport importer "python" spec =
        r.resolveImport importer "python" { spec with level := Path.depth importer + 1 } ∧
      (Text.startsWith "/" importer = false → '/' ∉ spec.moduleName.toList →
        r.resolveImport importer "python" spec =
          r.resolveImport importer "python" { spec with level := 0 })) := by
  intro r
  refine ⟨fun language hpython hjava hrelative hclimbs => ?_, fun hlevel => ⟨?_, ?_⟩⟩
  · have hnone : Text.startsWith "/" importer = false →
        r.resolveImport importer language spec = [] := by
      intro himporter
      rw [resolveImport_script hpython hjava, scriptCandidates_of_reach_none himporter hrelative
        (Path.reach?_eq_none hclimbs)]
      cases hbare : isBareModule spec.moduleName <;> rfl
    refine ⟨hnone, fun t ht hexact => ?_⟩
    cases himporter : Text.startsWith "/" importer with
    | false =>
      rw [hnone himporter] at ht
      cases ht
    | true =>
      obtain ⟨files, ds, h, -⟩ := exists_holds arrivals
      rw [resolveImport_script hpython hjava] at ht
      obtain ⟨res, hres, rfl⟩ := Option.map_eq_some_iff.mp (Option.mem_toList.mp ht)
      obtain ⟨-, -, c, hc, -, hmatch⟩ := h.fits_of_resolvePath hres
      rw [show res.strategy = .exact from hexact] at hmatch
      refine ⟨rfl, ?_⟩
      rw [show (ImportTarget.ofNames res spec.names).resolution.target = c from hmatch]
      exact startsWith_of_mem_scriptCandidates himporter hrelative hc
  · exact r.resolveImport_python_congr (pythonBase_of_depth_lt hlevel spec.moduleName)
  · intro himporter hslash
    exact r.resolveImport_python_congr (pythonBase_eq_absolute himporter hslash hlevel)

/-- From a directory below the root, two steps up lead out, and three dots count as two. -/
theorem climbing_out_nested :
    let r := [Arrival.file "pkg/app.js", .file "pkg/a.py", .file "x.py"].foldl receive empty
    let script : ImportSpec := { moduleName := "./../../x" }
    let module : ImportSpec := { moduleName := "x", level := 3 }
    (Text.startsWith "/" "pkg/app.js" = false ∧ Text.startsWith "." script.moduleName = true ∧
      Path.depth "pkg/app.js" < Path.climbs script.moduleName ∧
      r.resolveImport "pkg/app.js" "javascript" script = []) ∧
    (Path.depth "pkg/a.py" : Int) + 1 < module.level ∧
    r.resolveImport "pkg/a.py" "python" module =
      r.resolveImport "pkg/a.py" "python" { module with level := 2 } ∧
    r.resolveImport "pkg/a.py" "python" module =
      r.resolveImport "pkg/a.py" "python" { module with level := 0 } := by
  intro r script module
  have hclimbs : Path.depth "pkg/app.js" < Path.climbs script.moduleName := by decide
  have hlevel : (Path.depth "pkg/a.py" : Int) + 1 < module.level := by decide
  have hdepth : Path.depth "pkg/a.py" = 1 := by decide
  obtain ⟨hscript, -⟩ := (climbing_out _ "pkg/app.js" script).1 "javascript" (by decide) (by decide)
    (by decide) hclimbs
  obtain ⟨hroot, habsolute⟩ := (climbing_out [.file "pkg/app.js", .file "pkg/a.py", .file "x.py"]
    "pkg/a.py" module).2 hlevel
  rw [hdepth] at hroot
  exact ⟨⟨by decide, by decide, hclimbs, hscript (by decide)⟩, hlevel, hroot,
    habsolute (by decide) (by decide)⟩

/-- A level that is higher than the root leads to a file in it, found exactly. -/
theorem climbing_level_found :
    let r := [Arrival.file "a.py", .file "x.py"].foldl receive empty
    let spec : ImportSpec :=
      { moduleName := "x", level := 2, names := [{ localName := "y", importedName := "y" }] }
    (Path.depth "a.py" : Int) + 1 < spec.level ∧
    (r.resolveImport "a.py" "python" spec).map ImportTarget.resolution = [.found "x.py" .exact] := by
  decide

end Registry

end CodeGraph
