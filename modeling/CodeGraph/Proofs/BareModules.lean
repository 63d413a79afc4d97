import CodeGraph.Proofs.Matching
import CodeGraph.Proofs.Suffixes
import Mathlib.Data.Finset.Preimage
import Mathlib.Data.Fintype.EquivFin

/-!
# Imports of packages by name

The module text of a script that is no path names a package. Such a module is looked for among the
files under the candidate paths and under their trailing parts, but a name alone should not do: any
project has many index files. A trailing part always has two pieces, though one of them may be
empty, and this is cut off with the slash. Whether a name alone can do is a matter of the module
text, of its last two pieces.

## Main results

* `mem_scriptCandidates`: the candidates of a module inside the project.
* `endsNamed_of_mem_scriptCandidates`: what candidates owe to the module text.
* `Registry.bareModule_named_iff`: which package names are never matched by name alone.
-/

namespace CodeGraph

/-! ### Imports of scripts -/

namespace Registry

/-- An import of a script has the target that its candidates mean. -/
theorem resolveImport_script {language : String} (hpython : language ≠ "python")
    (hjava : language ≠ "java") (r : Registry) (importer : String) (spec : ImportSpec) :
    r.resolveImport importer language spec =
      ((r.resolvePath importer (scriptCandidates importer spec.moduleName) language
        (!isBareModule spec.moduleName)).map (ImportTarget.ofNames · spec.names)).toList := by
  rw [resolveImport, if_neg hpython, if_neg hjava, resolveScript]

end Registry

/-! ### Candidates -/

/-- The extensions of script files are not empty and hold no slash. -/
theorem extension_plain {e : String} (h : e ∈ scriptExtensions) : e ≠ "" ∧ '/' ∉ e.toList := by
  revert e
  decide

/-- The sources of emitted files are script files. -/
theorem mem_scriptExtensions_of_emitting {e : String} (h : e ∈ emittingExtensions) :
    e ∈ scriptExtensions := by
  revert e
  decide

/-- An index file lies in the directory of its module. -/
theorem append_index (base e : String) : base ++ "/index" ++ e = base ++ "/" ++ ("index" ++ e) := by
  have hindex : ("/index" : String) = "/" ++ "index" := by decide
  rw [hindex]
  simp only [String.append_assoc]

/-- The candidates of a module inside the project. -/
theorem mem_scriptCandidates {importer moduleName base c : String}
    (hbase : scriptBase importer moduleName = base)
    (hinside : Text.startsWith "../" base = false ∧ base ≠ "..") :
    c ∈ scriptCandidates importer moduleName ↔
      c = base ∨
      (Path.extension base ∈ emittedExtensions ∧
        ∃ e ∈ emittingExtensions, c = Path.stem base ++ e) ∨
      (∃ e ∈ scriptExtensions, c = base ++ e) ∨
      ∃ e ∈ scriptExtensions, c = base ++ "/index" ++ e := by
  have houtside : ¬((Text.startsWith "../" base || base = "..") = true) := by
    simp [hinside.1, hinside.2]
  simp only [scriptCandidates, hbase, if_neg houtside, List.mem_append, List.mem_cons, List.mem_map,
    eq_comm (a := c)]
  by_cases hext : Path.extension base ∈ emittedExtensions
  · simp [hext, or_assoc]
  · simp [hext, or_assoc]

/-- A package name begins with neither a dot nor a slash. -/
theorem isBareModule_iff {moduleName : String} :
    isBareModule moduleName = true ↔
      moduleName.toList.head? ≠ some '.' ∧ moduleName.toList.head? ≠ some '/' := by
  rw [isBareModule, Bool.and_eq_true, Bool.not_eq_true', Bool.not_eq_true',
    ← Bool.not_eq_true, ← Bool.not_eq_true, Text.startsWith_iff_head? (c := '.') rfl,
    Text.startsWith_iff_head? (c := '/') rfl]

/-- A package name is looked for as it is. -/
theorem scriptBase_of_bare {moduleName : String} (h : isBareModule moduleName = true)
    (importer : String) : scriptBase importer moduleName = moduleName := by
  obtain ⟨hdot, hslash⟩ := isBareModule_iff.mp h
  rw [scriptBase, if_neg (mt (Text.startsWith_iff_head? rfl _).mp hdot), Text.trimStartWhile]
  apply String.toList_inj.mp
  rw [String.toList_ofList]
  cases hcs : moduleName.toList with
  | nil => rfl
  | cons c cs =>
    rw [hcs] at hslash
    exact List.dropWhile_cons_of_neg (by simpa using hslash)

/-- A package name does not lead out of the project. -/
theorem inside_of_bare {moduleName : String} (h : isBareModule moduleName = true) :
    Text.startsWith "../" moduleName = false ∧ moduleName ≠ ".." := by
  obtain ⟨hdot, -⟩ := isBareModule_iff.mp h
  constructor
  · refine Bool.eq_false_iff.mpr fun hstart => hdot ?_
    obtain ⟨rest, hrest⟩ := List.isPrefixOf_iff_prefix.mp hstart
    rw [← hrest]
    rfl
  · rintro rfl
    exact hdot rfl

/-- Without its extension a path has the same directory. -/
theorem Path.stem_append_slash (dir : String) {last : String} (h : '/' ∉ last.toList) :
    stem (dir ++ "/" ++ last) = dir ++ "/" ++ stem last := by
  have hle := extensionLength_le last.toList
  rw [stem, name_append_slash dir h, stem, name_of_notMem h]
  apply String.toList_inj.mp
  simp only [Text.dropEnd, String.toList_append, String.toList_ofList]
  rw [List.length_append, Nat.add_sub_assoc hle, List.take_length_add_append]

/-- A path is its name behind some pieces, whatever the name. -/
theorem Path.exists_name (path : String) :
    ∃ front pieces last, path = front ++ last ∧ '/' ∉ last.toList ∧
      Path.stem path = front ++ Path.stem last ∧
      ∀ x : String, '/' ∉ x.toList → Text.split '/' (front ++ x) = pieces ++ [x] := by
  rcases Text.exists_last_slash path with h | ⟨dir, last, rfl, h⟩
  · refine ⟨"", [], path, by simp, h, by simp, fun x hx => ?_⟩
    rw [String.empty_append, Text.split_of_notMem hx, List.nil_append]
  · refine ⟨dir ++ "/", Text.split '/' dir, last, rfl, h, ?_, fun x hx => ?_⟩
    · exact stem_append_slash dir h
    · rw [Text.split_append_slash, Text.split_of_notMem hx]

/-- The candidates for a package name end with named pieces if it does so itself. -/
theorem endsNamed_of_mem_scriptCandidates {importer moduleName c : String}
    (hbare : isBareModule moduleName = true) (h : Path.EndsNamed moduleName)
    (hc : c ∈ scriptCandidates importer moduleName) : Path.EndsNamed c := by
  obtain ⟨front, pieces, last, rfl, hlast, hstem, hsplit⟩ := Path.exists_name moduleName
  obtain ⟨hne, habove⟩ := (Path.endsNamed_iff_of_split (hsplit last hlast)).mp h
  -- another name in the place of the last one
  have hother : ∀ x e : String, '/' ∉ x.toList → e ∈ scriptExtensions →
      Path.EndsNamed (front ++ (x ++ e)) := by
    intro x e hx he
    obtain ⟨hempty, hslash⟩ := extension_plain he
    refine (Path.endsNamed_iff_of_split (hsplit (x ++ e) ?_)).mpr ⟨?_, habove⟩
    · simp [hx, hslash]
    · simp [hempty]
  rcases (mem_scriptCandidates (scriptBase_of_bare hbare importer) (inside_of_bare hbare)).mp hc
    with rfl | ⟨-, e, he, rfl⟩ | ⟨e, he, rfl⟩ | ⟨e, he, rfl⟩
  · exact h
  · have hstemmed : '/' ∉ (Path.stem last).toList := by
      simp only [Path.stem, Text.dropEnd, String.toList_ofList]
      exact fun hmem => hlast (List.mem_of_mem_take hmem)
    rw [hstem, String.append_assoc]
    exact hother _ e hstemmed (mem_scriptExtensions_of_emitting he)
  · rw [String.append_assoc]
    exact hother last e hlast he
  · obtain ⟨-, hslash⟩ := extension_plain he
    have hindex : '/' ∉ ("index" ++ e).toList := by
      simp [hslash]
    have hpieces : Text.split '/' (front ++ last ++ "/index" ++ e) =
        (pieces ++ [last]) ++ ["index" ++ e] := by
      rw [append_index, Text.split_append_slash, hsplit last hlast, Text.split_of_notMem hindex]
    rw [Path.endsNamed_iff_of_split hpieces]
    exact ⟨by simp, by simpa using hne⟩

/-- Among the candidates for another package name is one with an empty piece before its name. -/
theorem exists_candidate_of_not_endsNamed {moduleName : String}
    (hbare : isBareModule moduleName = true) (h : ¬Path.EndsNamed moduleName)
    (importer : String) :
    ∃ c ∈ scriptCandidates importer moduleName, c ≠ importer ∧
      ∃ front name, Text.split '/' c = front ++ ["", name] ∧ name ≠ "" := by
  have hmem {c : String} := mem_scriptCandidates (c := c)
    (scriptBase_of_bare hbare importer) (inside_of_bare hbare)
  -- of two extensions one does not give the importer
  have hchoice : ∀ base : String, ∃ e ∈ scriptExtensions, base ++ e ≠ importer := by
    intro base
    by_cases himporter : base ++ ".ts" = importer
    · refine ⟨".tsx", by decide, fun heq => ?_⟩
      have hsame : ".ts" = ".tsx" := (String.append_right_inj base).mp (himporter.trans heq.symm)
      exact absurd hsame (by decide)
    · exact ⟨".ts", by decide, himporter⟩
  obtain ⟨front, pieces, last, rfl, hlast, -, hsplit⟩ := Path.exists_name moduleName
  rw [Path.endsNamed_iff_of_split (hsplit last hlast), not_and_or, not_not, not_not] at h
  rcases Decidable.em (last = "") with rfl | hne
  · obtain ⟨e, he, hother⟩ := hchoice (front ++ "" ++ "/index")
    obtain ⟨-, hslash⟩ := extension_plain he
    have hindex : '/' ∉ ("index" ++ e).toList := by
      simp [hslash]
    refine ⟨_, hmem.mpr (.inr (.inr (.inr ⟨e, he, rfl⟩))), hother, pieces, "index" ++ e, ?_,
      by simp⟩
    rw [append_index, Text.split_append_slash, hsplit "" hlast, Text.split_of_notMem hindex]
    simp
  · obtain ⟨above, rfl⟩ := List.getLast?_eq_some_iff.mp (h.resolve_left hne)
    obtain ⟨e, he, hother⟩ := hchoice (front ++ last)
    obtain ⟨-, hslash⟩ := extension_plain he
    refine ⟨_, hmem.mpr (.inr (.inr (.inl ⟨e, he, rfl⟩))), hother, above, last ++ e, ?_,
      by simp [hne]⟩
    rw [String.append_assoc, hsplit (last ++ e) (by simp [hlast, hslash])]
    simp

/-! ### Files -/

/-- There is always a directory with another name. -/
theorem Text.exists_fresh (taken : List String) : ∃ x : String, '/' ∉ x.toList ∧ x ∉ taken := by
  have hinj : Function.Injective fun n : Nat => Text.replicate n 'x' := by
    intro m n heq
    simpa [Text.replicate] using congrArg (List.length ∘ String.toList) heq
  obtain ⟨n, hn⟩ := Infinite.exists_notMem_finset
    (taken.toFinset.preimage (fun n : Nat => Text.replicate n 'x') hinj.injOn)
  refine ⟨Text.replicate n 'x', ?_, by simpa using hn⟩
  rw [Text.replicate, String.toList_ofList]
  exact fun hmem => absurd (List.eq_of_mem_replicate hmem) (by decide)

/-- A file in a directory that no candidate knows neither is a candidate nor ends like one. -/
theorem not_sameEnd_of_unknown (dir name : String) {c : String} (hslash : '/' ∉ dir.toList)
    (hname : '/' ∉ name.toList) (hunknown : dir ∉ Text.split '/' c) :
    dir ++ "/" ++ name ≠ c ∧ ¬Path.SameEnd (dir ++ "/" ++ name) c := by
  have hpath : Text.split '/' (dir ++ "/" ++ name) = [dir, name] := by
    rw [Text.split_append_slash, Text.split_of_notMem hslash, Text.split_of_notMem hname]
    rfl
  constructor
  · rintro rfl
    exact hunknown (hpath ▸ List.mem_cons_self)
  · rintro ⟨a, b, hab, hin⟩
    rw [hpath] at hab
    obtain rfl : a = dir := (List.cons.inj (hab.eq_of_length rfl)).1
    exact hunknown (List.mem_of_mem_filter (hin.mem List.mem_cons_self))

namespace Registry

/-- If the last pieces of a package name are not named, some file is taken by its name. -/
theorem exists_taken_of_not_endsNamed {moduleName : String}
    (hbare : isBareModule moduleName = true) (h : ¬Path.EndsNamed moduleName)
    (importer language : String) :
    ∃ path res, (receive empty (.file path)).resolvePath importer
        (scriptCandidates importer moduleName) language false = some res ∧ res.target = path ∧
      ∀ c ∈ scriptCandidates importer moduleName, path ≠ c ∧ ¬Path.SameEnd path c := by
  obtain ⟨c, hc, hother, front, name, hpieces, hname⟩ :=
    exists_candidate_of_not_endsNamed hbare h importer
  have hnoslash : '/' ∉ name.toList := by
    have hmem : name ∈ Text.split '/' c := hpieces ▸ List.mem_append_right front (by simp)
    exact Text.notMem_of_mem_split hmem
  obtain ⟨dir, hslash, hfresh⟩ := Text.exists_fresh (Text.split '/' importer ++
    (scriptCandidates importer moduleName).flatMap (Text.split '/'))
  rw [List.mem_append, not_or, List.mem_flatMap] at hfresh
  obtain ⟨files, ds, hholds, hfiles⟩ := exists_holds [.file (dir ++ "/" ++ name)]
  have hfits : Resolution.Fits files importer (scriptCandidates importer moduleName) language false
      (.found (dir ++ "/" ++ name) .rootRelative) := by
    refine ⟨(hfiles _).mpr (by simp [Arrival.path]), ?_, c, hc, ⟨?_, hother⟩,
      Path.exists_suffix_of_name dir hpieces hname⟩
    · exact (not_sameEnd_of_unknown dir _ hslash hnoslash hfresh.1).1
    · rintro rfl
      have hlength := congrArg List.length hpieces
      rw [Text.split_of_notMem (by simp), List.length_append] at hlength
      simp only [List.length_cons, List.length_nil] at hlength
      omega
  obtain ⟨res, hres, -⟩ := hholds.exists_resolvePath hfits
  refine ⟨_, res, hres, ?_, fun c hc => not_sameEnd_of_unknown dir _ hslash hnoslash fun hmem =>
    hfresh.2 ⟨c, hc, hmem⟩⟩
  simpa [Arrival.path] using (hfiles _).mp (hholds.mem_of_resolvePath hres).1

/--
A package name is never matched by the name of a file alone exactly if its last two pieces, or its
only one, are not empty: then every file that it means in any project is one of its candidates, or
ends with the last two named pieces of one. For any other package name there is a project in which
a file is taken that has no more than its name in common with a candidate.
-/
theorem bareModule_named_iff (importer language : String) (spec : ImportSpec)
    (hpython : language ≠ "python") (hjava : language ≠ "java")
    (hbare : isBareModule spec.moduleName = true) :
    (∀ arrivals : List Arrival,
      ∀ t ∈ (arrivals.foldl receive empty).resolveImport importer language spec,
        t.resolution.target ∈ scriptCandidates importer spec.moduleName ∨
        ∃ c ∈ scriptCandidates importer spec.moduleName, Path.SameEnd t.resolution.target c) ↔
      Path.EndsNamed spec.moduleName := by
  simp only [resolveImport_script hpython hjava, hbare, Bool.not_true]
  constructor
  · intro h
    by_contra hloose
    obtain ⟨path, res, hres, rfl, hunlike⟩ :=
      exists_taken_of_not_endsNamed hbare hloose importer language
    rcases h [.file res.target] (.ofNames res spec.names)
      (Option.mem_toList.mpr (by rw [List.foldl_cons, List.foldl_nil, hres]; rfl))
      with hexact | ⟨c, hc, hend⟩
    · exact (hunlike _ hexact).1 rfl
    · exact (hunlike c hc).2 hend
  · intro hnamed arrivals t ht
    obtain ⟨files, ds, h, -⟩ := exists_holds arrivals
    obtain ⟨res, hres, rfl⟩ := Option.map_eq_some_iff.mp (Option.mem_toList.mp ht)
    obtain ⟨-, -, c, hc, -, hmatch⟩ := h.fits_of_resolvePath hres
    cases hstrategy : res.strategy <;> rw [hstrategy] at hmatch
    case exact => exact .inl ((show res.target = c from hmatch) ▸ hc)
    case rootRelative =>
      obtain ⟨s, hs, hsuffix⟩ := hmatch
      exact .inr ⟨c, hc, (endsNamed_of_mem_scriptCandidates hbare hnamed hc).sameEnd hs hsuffix⟩
    case basename => cases hmatch.1

/-- An empty piece further up in a package name does no harm. -/
theorem bareModule_named_iff_doubled :
    let spec : ImportSpec := { moduleName := "lib//utils/format" }
    ("typescript" ≠ "python" ∧ "typescript" ≠ "java") ∧ isBareModule spec.moduleName = true ∧
    ∀ arrivals : List Arrival,
      ∀ t ∈ (arrivals.foldl receive empty).resolveImport "web/app.ts" "typescript" spec,
        t.resolution.target ∈ scriptCandidates "web/app.ts" spec.moduleName ∨
        ∃ c ∈ scriptCandidates "web/app.ts" spec.moduleName,
          Path.SameEnd t.resolution.target c := by
  refine ⟨by decide, by decide, ?_⟩
  exact (bareModule_named_iff "web/app.ts" "typescript" { moduleName := "lib//utils/format" }
    (by decide) (by decide) (by decide)).mpr (by decide +kernel)

/-- With a slash at its end, a package name is matched by any index file. -/
theorem bareModule_guessed :
    let r := [Arrival.file "src/app.js", .file "src/index.ts"].foldl receive empty
    let spec : ImportSpec := { moduleName := "punycode/" }
    isBareModule spec.moduleName = true ∧
    (r.resolveImport "src/app.js" "javascript" spec).map ImportTarget.resolution =
      [.found "src/index.ts" .rootRelative] ∧
    "src/index.ts" ∉ scriptCandidates "src/app.js" spec.moduleName ∧
    ¬∃ c ∈ scriptCandidates "src/app.js" spec.moduleName, Path.SameEnd "src/index.ts" c := by
  intro r spec
  have hunlike : ∀ c ∈ scriptCandidates "src/app.js" spec.moduleName,
      "src/index.ts" ≠ c ∧ ¬Path.SameEnd "src/index.ts" c := by
    have hunknown : ∀ c ∈ scriptCandidates "src/app.js" "punycode/", "src" ∉ Text.split '/' c := by
      decide +kernel
    exact fun c hc => not_sameEnd_of_unknown "src" "index.ts" (by decide) (by decide)
      (hunknown c hc)
  refine ⟨by decide, by decide +kernel, fun hmem => (hunlike _ hmem).1 rfl, ?_⟩
  rintro ⟨c, hc, hend⟩
  exact (hunlike c hc).2 hend

end Registry

end CodeGraph
