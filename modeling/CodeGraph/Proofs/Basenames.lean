import CodeGraph.Proofs.Matching
import CodeGraph.Proofs.Path

/-!
# Files by their name alone

As the last way to resolve a candidate, a file is taken for its name, wherever it lies. Files are
listed under their name without extension. What a candidate asks for is its own name without
extension, except that it asks for its directory if it is an index or package file, and without a
further `.d` if it has one. In all other cases both are the same, and a file with the name of a
candidate is found.

## Main results

* `meaningfulStem_eq_stem`: what a candidate asks for.
* `Text.endsWith_lower`: an extension in lower case is still there in lower case.
* `Registry.basename_found`: a file with the name of a candidate resolves it.
-/

namespace CodeGraph

/-- An end in lower case is the end of the lower-case form too. -/
theorem Text.endsWith_lower {finish s : String}
    (h : ∀ c ∈ finish.toList, c ≠ 'Σ' ∧ lowerChar c = [c]) (hs : endsWith finish s = true) :
    endsWith finish (lower s) = true := by
  rw [endsWith, List.isSuffixOf_iff_suffix] at hs ⊢
  obtain ⟨front, hfront⟩ := hs
  rw [lower, String.toList_ofList, ← hfront]
  exact suffix_lowerChars_append h [] front

/-- The extensions of all languages are in lower case and not empty. -/
theorem extensionFamily_lower {language e : String} (he : e ∈ extensionFamily language) :
    e ≠ "" ∧ ∀ c ∈ e.toList, c ≠ 'Σ' ∧ Text.lowerChar c = [c] := by
  have hall : ([".py", ".pyi"] ++ [".java"] ++ scriptExtensions).all (fun e =>
      e ≠ "" && e.toList.all fun c => c ≠ 'Σ' && Text.lowerChar c = [c]) = true := by
    decide
  have hmem : e ∈ [".py", ".pyi"] ++ [".java"] ++ scriptExtensions := by
    unfold extensionFamily at he
    split at he
    · exact List.mem_append_left _ (List.mem_append_left _ he)
    split at he
    · exact List.mem_append_left _ (List.mem_append_right _ he)
    split at he
    · exact List.mem_append_right _ he
    · cases he
  have hplain := List.all_eq_true.mp hall e hmem
  rw [Bool.and_eq_true, decide_eq_true_iff, List.all_eq_true] at hplain
  refine ⟨hplain.1, fun c hc => ?_⟩
  have hchar := hplain.2 c hc
  rwa [Bool.and_eq_true, decide_eq_true_iff, decide_eq_true_iff] at hchar

/-- A candidate asks for its stem, unless that is an index or ends like a declaration file. -/
theorem meaningfulStem_eq_stem {candidate : String}
    (hindex : Path.stem (Path.name candidate) ∉ ["__init__", "index"])
    (hdeclaration : Text.endsWith ".d" (Path.stem (Path.name candidate)) = false) :
    meaningfulStem candidate = Path.stem (Path.name candidate) := by
  simp only [meaningfulStem, Path.getLast?_split, Option.getD_some, hdeclaration,
    Bool.false_eq_true, if_false, hindex]

namespace Registry

/--
A candidate other than the importer is resolved if another file of its name arrived, provided that
the name has an extension of the language, is not that of an index or package file, and has no `.d`
before its extension.
-/
theorem basename_found (arrivals : List Arrival) {importer language path candidate : String}
    {candidates : List String} (hpath : path ∈ arrivals.map Arrival.path)
    (hother : path ≠ importer) (hmem : candidate ∈ candidates)
    (hname : Path.name path = Path.name candidate)
    (hfamily : ∃ e ∈ extensionFamily language, Text.endsWith e (Path.name candidate) = true)
    (hindex : Path.stem (Path.name candidate) ∉ ["__init__", "index"])
    (htried : candidate ≠ importer)
    (hdeclaration : Text.endsWith ".d" (Path.stem (Path.name candidate)) = false) :
    ∃ res, (arrivals.foldl receive empty).resolvePath importer candidates language true =
      some res := by
  obtain ⟨files, ds, h, hfiles⟩ := exists_holds arrivals
  obtain ⟨e, he, hend⟩ := hfamily
  obtain ⟨hne, hlower⟩ := extensionFamily_lower he
  have hnamed : Path.name candidate ≠ "" := by
    intro hempty
    rw [hempty] at hend
    exact hne (String.toList_eq_nil_iff.mp
      (List.suffix_nil.mp (List.isSuffixOf_iff_suffix.mp hend)))
  have hstem := meaningfulStem_eq_stem hindex hdeclaration
  have hfits : Resolution.Fits files importer candidates language true
      (.found path .basename) := by
    refine ⟨(hfiles path).mpr hpath, hother, candidate, hmem, ⟨?_, htried⟩, rfl, ?_, ?_, ?_⟩
    · rintro rfl
      exact hnamed rfl
    · rw [hstem]
      exact Path.stem_name_ne_empty hnamed
    · rw [hstem, Resolution.target_found, hname]
    · exact List.any_eq_true.mpr ⟨e, he, Text.endsWith_lower hlower
        (Path.endsWith_of_name (hname ▸ hend))⟩
  obtain ⟨res, hres, -⟩ := h.exists_resolvePath hfits
  exact ⟨res, hres⟩

/-- A name may have other dots before its extension. -/
theorem basename_found_dotted :
    let candidates := scriptCandidates "src/main.ts" "./app.config"
    ("web/app.config.ts" ≠ "src/main.ts" ∧ "src/app.config.ts" ∈ candidates ∧
      Path.name "web/app.config.ts" = Path.name "src/app.config.ts" ∧
      (∃ e ∈ extensionFamily "typescript",
        Text.endsWith e (Path.name "src/app.config.ts") = true) ∧
      Path.stem (Path.name "src/app.config.ts") ∉ ["__init__", "index"] ∧
      "src/app.config.ts" ≠ "src/main.ts" ∧
      Text.endsWith ".d" (Path.stem (Path.name "src/app.config.ts")) = false) ∧
    ∃ res, ([Arrival.file "src/main.ts", .file "web/app.config.ts"].foldl receive
      empty).resolvePath "src/main.ts" candidates "typescript" true = some res := by
  intro candidates
  refine ⟨by decide, ?_⟩
  exact basename_found [.file "src/main.ts", .file "web/app.config.ts"] (by decide)
    (show "web/app.config.ts" ≠ "src/main.ts" by decide)
    (show "src/app.config.ts" ∈ candidates by decide)
    (by decide) (by decide) (by decide) (by decide) (by decide)

/--
Two files that have the name of a candidate and an extension of the language, and that are missed:
a declaration file is listed with its `.d`, which a candidate of its name leaves out, and a class that
imports itself is not looked for anywhere else.
-/
theorem basename_missed :
    let scripts := [Arrival.file "src/app.ts", .file "types/foo.d.ts"].foldl receive empty
    let classes := [Arrival.file "a/b/X.java", .file "c/X.java"].foldl receive empty
    ("src/foo.d.ts" ∈ scriptCandidates "src/app.ts" "./foo" ∧
      Path.name "types/foo.d.ts" = Path.name "src/foo.d.ts" ∧
      Path.extension (Path.name "src/foo.d.ts") ∈ extensionFamily "typescript" ∧
      Path.stem (Path.name "src/foo.d.ts") ∉ ["__init__", "index"] ∧
      scripts.resolvePath "src/app.ts" (scriptCandidates "src/app.ts" "./foo") "typescript" true =
        none) ∧
    "a/b/X.java" ∈ javaCandidates "a.b.X" ∧
      Path.name "c/X.java" = Path.name "a/b/X.java" ∧
      Path.extension (Path.name "a/b/X.java") ∈ extensionFamily "java" ∧
      Path.stem (Path.name "a/b/X.java") ∉ ["__init__", "index"] ∧
      classes.resolvePath "a/b/X.java" (javaCandidates "a.b.X") "java" true = none := by
  decide +kernel

-- what is left of a declaration file without its extension is not what it is imported by
example : Path.stem (Path.name "types/foo.d.ts") = "foo.d" := by
  decide

end Registry

end CodeGraph
