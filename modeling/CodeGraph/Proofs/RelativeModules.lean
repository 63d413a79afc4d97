import CodeGraph.Proofs.BareModules
import CodeGraph.Proofs.Directories

/-!
# Relative imports of scripts

A relative module text is a list of steps from the directory of the importing file: down into a
directory, up to the one above, or no step at all. Unless a step leads above the root, collapsing
the joined path gives the place where the steps lead, so a file at that place is found exactly. The
root itself is the exception: collapsing writes it as a dot, which no path of a project begins with.

## Main definitions

* `Path.step?`, `Path.reach?`: where steps lead without leaving the root.
* `Path.LeadsTo`: all that a step may lead to.
* `Path.Serves`: the files that a module at some place may mean.

## Main results

* `Path.foldl_collapseStep_of_foldlM`, `Path.foldl_collapseStep_of_none`: collapsing follows the
  steps.
* `scriptBase_of_reach`, `scriptCandidates_of_reach_none`: what a relative module means.
* `Registry.relativeModule_exact`: files that are found exactly.
-/

namespace CodeGraph

namespace Path

/-! ### Steps -/

/-- One step from a directory, given by its components from the root, which is never left. -/
def step? (dir : List String) (component : String) : Option (List String) :=
  if component = "" || component = "." then some dir
  else if component ≠ ".." then some (dir ++ [component])
  else if dir = [] then none else some dir.dropLast

/-- The place where a module text leads from the directory of a file. -/
def reach? (importer moduleName : String) : Option (List String) :=
  (Text.split '/' (directory importer) ++ Text.split '/' moduleName).foldlM step? []

/-- The components of a directory below the root name no step and hold no slash. -/
def Inside (dir : List String) : Prop :=
  ∀ c ∈ dir, c ≠ "" ∧ c ≠ ".." ∧ '/' ∉ c.toList

/-- The root is inside. -/
theorem Inside.nil : Inside [] :=
  List.forall_mem_nil _

/-- All that a step may lead to, each with its reason. -/
inductive LeadsTo (dir : List String) : String → Option (List String) → Prop where
  | stay {c : String} (hc : c = "" ∨ c = ".") : LeadsTo dir c (some dir)
  | down {c : String} (hempty : c ≠ "") (hdot : c ≠ ".") (hdown : c ≠ "..") :
      LeadsTo dir c (some (dir ++ [c]))
  | up (hdir : dir ≠ []) : LeadsTo dir ".." (some dir.dropLast)
  | out (hdir : dir = []) : LeadsTo dir ".." none

/-- There is no other way to take a step. -/
theorem leadsTo_step? (dir : List String) (c : String) : LeadsTo dir c (step? dir c) := by
  unfold step?
  split
  · next hstay =>
    rw [Bool.or_eq_true, decide_eq_true_iff, decide_eq_true_iff] at hstay
    exact .stay hstay
  · next hstay =>
    rw [Bool.or_eq_true, decide_eq_true_iff, decide_eq_true_iff, not_or] at hstay
    split
    · next hdown => exact .down hstay.1 hstay.2 hdown
    · next hup =>
      obtain rfl := not_ne_iff.mp hup
      split
      · next hdir => exact .out hdir
      · next hdir => exact .up hdir

/-- A step stays inside. -/
theorem Inside.step? {dir dir' : List String} {c : String} (h : Inside dir) (hc : '/' ∉ c.toList)
    (hstep : step? dir c = some dir') : Inside dir' := by
  have hcases := leadsTo_step? dir c
  rw [hstep] at hcases
  cases hcases with
  | stay _ => exact h
  | down hempty _ hdown =>
    intro d hd
    rcases List.mem_append.mp hd with hd | hd
    · exact h d hd
    · obtain rfl := List.mem_singleton.mp hd
      exact ⟨hempty, hdown, hc⟩
  | up _ => exact fun d hd => h d (List.mem_of_mem_dropLast hd)

/-- Collapsing one component is a step, as long as it stays inside. -/
theorem collapseStep_of_step? {dir dir' : List String} {c : String} (h : Inside dir)
    (hstep : step? dir c = some dir') : collapseStep false dir.reverse c = dir'.reverse := by
  have hcases := leadsTo_step? dir c
  rw [hstep] at hcases
  cases hcases with
  | stay hc => rcases hc with rfl | rfl <;> rfl
  | down hempty hdot hdown => simp [collapseStep, hempty, hdot, hdown]
  | up hdir =>
    obtain ⟨above, last, rfl⟩ := (List.eq_nil_or_concat dir).resolve_left hdir
    have hlast : last ≠ ".." := (h last (by simp)).2.1
    simp [collapseStep, hlast]

/-- A step above the root is kept. -/
theorem collapseStep_of_step?_none {dir : List String} {c : String} (hstep : step? dir c = none) :
    collapseStep false dir.reverse c = [".."] := by
  have hcases := leadsTo_step? dir c
  rw [hstep] at hcases
  cases hcases with
  | out hdir =>
    subst hdir
    rfl

/-- A step above the root is never undone. -/
theorem exists_collapseStep_concat (kept : List String) (c : String) :
    ∃ kept', collapseStep false (kept ++ [".."]) c = kept' ++ [".."] := by
  unfold collapseStep
  split
  · exact ⟨kept, rfl⟩
  split
  · exact ⟨c :: kept, rfl⟩
  · cases kept with
    | nil => exact ⟨[".."], rfl⟩
    | cons last kept =>
      by_cases hlast : last = ".."
      · exact ⟨".." :: last :: kept, by simp [hlast]⟩
      · exact ⟨kept, by simp [hlast]⟩

/-- Collapsing components follows the steps that stay inside. -/
theorem foldl_collapseStep_of_foldlM {cs dir dir' : List String} (h : Inside dir)
    (hcs : ∀ c ∈ cs, '/' ∉ c.toList) (hsteps : cs.foldlM step? dir = some dir') :
    cs.foldl (collapseStep false) dir.reverse = dir'.reverse ∧ Inside dir' := by
  induction cs generalizing dir with
  | nil =>
    obtain rfl := Option.some.inj hsteps
    exact ⟨rfl, h⟩
  | cons c cs ih =>
    rw [List.foldlM_cons] at hsteps
    obtain ⟨next, hstep, hrest⟩ := Option.bind_eq_some_iff.mp hsteps
    rw [List.foldl_cons, collapseStep_of_step? h hstep]
    exact ih (h.step? (hcs c List.mem_cons_self) hstep)
      (fun d hd => hcs d (List.mem_cons_of_mem c hd)) hrest

/-- If the steps lead above the root, so does the collapsed path. -/
theorem foldl_collapseStep_of_none {cs dir : List String} (h : Inside dir)
    (hcs : ∀ c ∈ cs, '/' ∉ c.toList) (hsteps : cs.foldlM step? dir = none) :
    ∃ kept, cs.foldl (collapseStep false) dir.reverse = kept ++ [".."] := by
  have hstuck : ∀ (cs kept : List String),
      ∃ kept', cs.foldl (collapseStep false) (kept ++ [".."]) = kept' ++ [".."] := by
    intro cs
    induction cs with
    | nil => exact fun kept => ⟨kept, rfl⟩
    | cons c cs ih =>
      intro kept
      obtain ⟨next, hnext⟩ := exists_collapseStep_concat kept c
      rw [List.foldl_cons, hnext]
      exact ih next
  induction cs generalizing dir with
  | nil => cases hsteps
  | cons c cs ih =>
    rw [List.foldlM_cons] at hsteps
    rw [List.foldl_cons]
    cases hstep : step? dir c with
    | none =>
      rw [collapseStep_of_step?_none hstep]
      exact hstuck cs []
    | some next =>
      rw [hstep] at hsteps
      rw [collapseStep_of_step? h hstep]
      exact ih (h.step? (hcs c List.mem_cons_self) hstep)
        (fun d hd => hcs d (List.mem_cons_of_mem c hd)) hsteps

/-! ### Collapsed paths -/

/-- Joined paths have the pieces of both, but for empty ones. -/
theorem foldl_split_join (dir : String) {moduleName : String}
    (h : moduleName.toList.head? ≠ some '/') (rooted : Bool) (kept : List String) :
    (Text.split '/' (join dir moduleName)).foldl (collapseStep rooted) kept =
      (Text.split '/' dir ++ Text.split '/' moduleName).foldl (collapseStep rooted) kept := by
  rw [join, if_neg (mt (Text.startsWith_iff_head? rfl _).mp h), List.foldl_append]
  split
  next hend =>
    rw [Bool.or_eq_true, decide_eq_true_iff] at hend
    rcases hend with rfl | hend
    · rw [String.empty_append]
      rfl
    · obtain ⟨front, hfront⟩ := List.isSuffixOf_iff_suffix.mp hend
      obtain rfl : String.ofList front ++ "/" = dir := String.toList_inj.mp (by simpa using hfront)
      have hdir := Text.split_append_slash (String.ofList front) ""
      rw [String.append_empty] at hdir
      rw [Text.split_append_slash, hdir, List.foldl_append, List.foldl_append]
      rfl
  next => rw [Text.split_append_slash, List.foldl_append]

/-- The steps of a module text from the directory of a file, collapsed. -/
def kept (importer moduleName : String) : List String :=
  (Text.split '/' (directory importer) ++ Text.split '/' moduleName).foldl (collapseStep false) []

/-- Joining does not root a path. -/
theorem head?_join {dir moduleName : String} (hdir : dir.toList.head? ≠ some '/')
    (h : moduleName.toList.head? ≠ some '/') :
    (join dir moduleName).toList.head? ≠ some '/' := by
  rw [join, if_neg (mt (Text.startsWith_iff_head? rfl _).mp h)]
  by_cases hempty : dir = ""
  · simpa [hempty] using h
  · obtain ⟨c, cs, hcs⟩ := List.exists_cons_of_ne_nil (mt String.toList_eq_nil_iff.mp hempty)
    rw [hcs] at hdir
    split <;> simpa [hcs] using hdir

/-- A path that is not rooted is collapsed to its kept components. -/
theorem collapse_join {importer moduleName : String} (himporter : importer.toList.head? ≠ some '/')
    (h : moduleName.toList.head? ≠ some '/') :
    collapse (join (directory importer) moduleName) =
      let result := Text.join "/" (kept importer moduleName).reverse
      if result = "" then "." else result := by
  have hslashes : (join (directory importer) moduleName).toList.takeWhile (· = '/') = [] := by
    have hhead := head?_join (head?_directory himporter) h
    cases hcs : (join (directory importer) moduleName).toList with
    | nil => rfl
    | cons c cs =>
      rw [hcs] at hhead
      exact List.takeWhile_cons_of_neg (by simpa using hhead)
  rw [collapse, hslashes, kept, ← foldl_split_join (directory importer) h]
  simp

/-! ### Places below the root -/

namespace Inside

variable {dir : List String}

/-- The path of a place below the root has its components. -/
theorem split_join (h : Inside dir) (hne : dir ≠ []) :
    Text.split '/' (Text.join "/" dir) = dir :=
  Text.split_join hne fun c hc => (h c hc).2.2

/-- The path of a place below the root is not empty. -/
theorem join_ne_empty (h : Inside dir) (hne : dir ≠ []) : Text.join "/" dir ≠ "" := by
  intro heq
  have hsplit := h.split_join hne
  rw [heq] at hsplit
  exact (h "" (hsplit ▸ List.mem_cons_self)).1 rfl

/-- The path of a place below the root does not lead out of the project. -/
theorem startsWith_join (h : Inside dir) (hne : dir ≠ []) :
    Text.startsWith "../" (Text.join "/" dir) = false ∧ Text.join "/" dir ≠ ".." := by
  have hsplit := h.split_join hne
  have hup : ".." ∉ dir := fun hmem => (h ".." hmem).2.1 rfl
  constructor
  · refine Bool.eq_false_iff.mpr fun hstart => hup ?_
    obtain ⟨rest, hrest⟩ := List.isPrefixOf_iff_prefix.mp hstart
    have heq : ".." ++ "/" ++ String.ofList rest = Text.join "/" dir :=
      String.toList_inj.mp (by simpa using hrest)
    rw [← hsplit, ← heq, Text.split_append_slash]
    exact List.mem_append_left _ List.mem_cons_self
  · intro heq
    rw [heq] at hsplit
    exact hup (hsplit ▸ List.mem_cons_self)

end Inside

/-- A file that a module at some place may mean: the place, with an extension, or an index there. -/
def Serves (dir : List String) (path : String) : Prop :=
  path = Text.join "/" dir ∨
  (∃ e ∈ scriptExtensions, path = Text.join "/" dir ++ e) ∨
  ∃ e ∈ scriptExtensions, path = Text.join "/" (dir ++ ["index" ++ e])

end Path

/-! ### Relative modules -/

section Relative

variable {importer moduleName : String} {dir : List String}

/-- A relative module text does not start with a slash. -/
theorem head?_ne_slash_of_relative (h : Text.startsWith "." moduleName = true) :
    moduleName.toList.head? ≠ some '/' := by
  rw [(Text.startsWith_iff_head? (c := '.') rfl _).mp h]
  decide

/-- No component of the importer or of its module text holds a slash. -/
theorem notMem_of_mem_steps : ∀ c ∈ Text.split '/' (Path.directory importer) ++
    Text.split '/' moduleName, '/' ∉ c.toList := by
  intro c hc
  rcases List.mem_append.mp hc with hc | hc
  · exact Text.notMem_of_mem_split hc
  · exact Text.notMem_of_mem_split hc

/-- A relative module is looked for at the collapsed path. -/
theorem scriptBase_of_relative (himporter : Text.startsWith "/" importer = false)
    (h : Text.startsWith "." moduleName = true) :
    scriptBase importer moduleName =
      let result := Text.join "/" (Path.kept importer moduleName).reverse
      if result = "" then "." else result := by
  rw [scriptBase, if_pos h]
  exact Path.collapse_join (Path.head?_ne_slash himporter) (head?_ne_slash_of_relative h)

/-- A relative module means the place where its steps lead; the root is written as a dot. -/
theorem scriptBase_of_reach (himporter : Text.startsWith "/" importer = false)
    (h : Text.startsWith "." moduleName = true)
    (hdir : Path.reach? importer moduleName = some dir) :
    scriptBase importer moduleName = (if dir = [] then "." else Text.join "/" dir) ∧
      Path.Inside dir := by
  rw [Path.reach?] at hdir
  obtain ⟨hkept, hinside⟩ := Path.foldl_collapseStep_of_foldlM Path.Inside.nil
    notMem_of_mem_steps hdir
  have hdir : (Path.kept importer moduleName).reverse = dir := by
    rw [Path.kept, ← List.reverse_nil, hkept, List.reverse_reverse]
  refine ⟨?_, hinside⟩
  rw [scriptBase_of_relative himporter h, hdir]
  by_cases hne : dir = []
  · rw [if_pos hne, hne]
    rfl
  · rw [if_neg hne]
    exact if_neg (hinside.join_ne_empty hne)

/-- A relative module that leads out of the project has no candidates. -/
theorem scriptCandidates_of_reach_none (himporter : Text.startsWith "/" importer = false)
    (h : Text.startsWith "." moduleName = true) (hdir : Path.reach? importer moduleName = none) :
    scriptCandidates importer moduleName = [] := by
  rw [Path.reach?] at hdir
  obtain ⟨above, habove⟩ := Path.foldl_collapseStep_of_none Path.Inside.nil
    notMem_of_mem_steps hdir
  have hkept : (Path.kept importer moduleName).reverse = ".." :: above.reverse := by
    rw [Path.kept, ← List.reverse_nil, habove, List.reverse_append]
    rfl
  have hbase := scriptBase_of_relative himporter h
  rw [hkept] at hbase
  have houtside : (Text.startsWith "../" (scriptBase importer moduleName) ||
      scriptBase importer moduleName = "..") = true := by
    rw [hbase]
    cases above.reverse with
    | nil => decide
    | cons c cs =>
      rw [Text.join_cons_of_ne_nil _ _ (List.cons_ne_nil c cs)]
      simp [Text.startsWith, List.isPrefixOf]
  rw [scriptCandidates]
  exact if_pos houtside

/-- What a module below the root may mean is among its candidates. -/
theorem mem_scriptCandidates_of_serves (hinside : Path.Inside dir) (hne : dir ≠ [])
    (hbase : scriptBase importer moduleName = Text.join "/" dir) {path : String}
    (h : Path.Serves dir path) : path ∈ scriptCandidates importer moduleName ∧ path ≠ "" := by
  have hempty := hinside.join_ne_empty hne
  rw [mem_scriptCandidates hbase (hinside.startsWith_join hne)]
  rcases h with rfl | ⟨e, he, rfl⟩ | ⟨e, he, rfl⟩
  · exact ⟨.inl rfl, hempty⟩
  · exact ⟨.inr (.inr (.inl ⟨e, he, rfl⟩)), by simp [hempty]⟩
  · have hindex : Text.join "/" (dir ++ ["index" ++ e]) = Text.join "/" dir ++ "/index" ++ e := by
      rw [Text.join_append hne (List.cons_ne_nil _ _), Text.join_singleton, append_index]
    rw [hindex]
    exact ⟨.inr (.inr (.inr ⟨e, he, rfl⟩)), by simp [hempty]⟩

/-- For the root, the candidates that are paths of a project begin with the dot in a name. -/
theorem mem_scriptCandidates_of_root (hbase : scriptBase importer moduleName = ".") {path : String}
    (h : Path.normalize path = path) :
    path ∈ scriptCandidates importer moduleName ↔
      path = "." ∨ ∃ e ∈ scriptExtensions, path = "." ++ e := by
  have hindex : ∀ e ∈ scriptExtensions,
      Path.normalize ("." ++ "/index" ++ e) ≠ "." ++ "/index" ++ e := by
    decide
  have hemitted : Path.extension "." ∉ emittedExtensions := by
    decide
  rw [mem_scriptCandidates hbase ⟨by decide, by decide⟩]
  constructor
  · rintro (rfl | ⟨hext, -⟩ | hext | ⟨e, he, rfl⟩)
    · exact .inl rfl
    · exact absurd hext hemitted
    · exact .inr hext
    · exact absurd h (hindex e he)
  · rintro (rfl | hext)
    · exact .inl rfl
    · exact .inr (.inr (.inl hext))

end Relative

/-! ### Exact targets -/

namespace Registry

/-- A script import is resolved exactly if some candidate other than the importer is a file. -/
theorem Holds.resolveImport_exact_iff {r : Registry} {files : List String} {ds : List Definition}
    (h : r.Holds files ds) {importer language : String} (hpython : language ≠ "python")
    (hjava : language ≠ "java") (spec : ImportSpec) :
    (∃ t, r.resolveImport importer language spec = [t] ∧ t.resolution.strategy = .exact) ↔
      ∃ c ∈ scriptCandidates importer spec.moduleName, c ≠ "" ∧ c ≠ importer ∧ c ∈ files := by
  rw [resolveImport_script hpython hjava]
  constructor
  · rintro ⟨t, ht, hexact⟩
    obtain ⟨res, hres, rfl⟩ := Option.map_eq_some_iff.mp
      (Option.mem_toList.mp (ht ▸ List.mem_cons_self))
    exact h.exists_exact_iff.mp ⟨res, hres, hexact⟩
  · intro hfile
    obtain ⟨res, hres, hexact⟩ := h.exists_exact_iff.mpr hfile
    rw [hres]
    exact ⟨_, rfl, hexact⟩

/--
A relative module of a script is resolved exactly wherever its steps lead, as long as they do not
lead above the root, if another file lies there: the place itself, the place with an extension, or
an index file in it. The root itself is the only exception: its index files are never found exactly,
but only files whose names begin with the dot that stands for the root.
-/
theorem relativeModule_exact (arrivals : List Arrival) (importer language : String)
    (spec : ImportSpec) (dir : List String) (hpython : language ≠ "python")
    (hjava : language ≠ "java") (himporter : Text.startsWith "/" importer = false)
    (hrelative : Text.startsWith "." spec.moduleName = true)
    (hdir : Path.reach? importer spec.moduleName = some dir) :
    let files := arrivals.map Arrival.path
    let targets :=
      (arrivals.foldl receive Registry.empty).resolveImport importer language spec
    (dir ≠ [] → (∃ f ∈ files, f ≠ importer ∧ Path.Serves dir f) →
      ∃ t, targets = [t] ∧ t.resolution.strategy = .exact) ∧
    (dir = [] → (∀ f ∈ files, Path.normalize f = f) →
      ((∃ t, targets = [t] ∧ t.resolution.strategy = .exact) ↔
        ∃ f ∈ files, f ≠ importer ∧ (f = "." ∨ ∃ e ∈ scriptExtensions, f = "." ++ e))) := by
  intro files targets
  obtain ⟨fs, ds, h, hfs⟩ := exists_holds arrivals
  obtain ⟨hbase, hinside⟩ := scriptBase_of_reach himporter hrelative hdir
  rw [h.resolveImport_exact_iff hpython hjava]
  constructor
  · rintro hne ⟨f, hf, hother, hserves⟩
    rw [if_neg hne] at hbase
    obtain ⟨hmem, hempty⟩ := mem_scriptCandidates_of_serves hinside hne hbase hserves
    exact ⟨f, hmem, hempty, hother, (hfs f).mpr hf⟩
  · rintro rfl hnormal
    rw [if_pos rfl] at hbase
    constructor
    · rintro ⟨c, hc, -, hother, hfile⟩
      have hf := (hfs c).mp hfile
      exact ⟨c, hf, hother, (mem_scriptCandidates_of_root hbase (hnormal c hf)).mp hc⟩
    · rintro ⟨f, hf, hother, hdot⟩
      refine ⟨f, (mem_scriptCandidates_of_root hbase (hnormal f hf)).mpr hdot, ?_, hother,
        (hfs f).mpr hf⟩
      rcases hdot with rfl | ⟨e, he, rfl⟩
      · decide
      · simp

/-- A directory above and next to the importer's own has its index file found. -/
theorem relativeModule_exact_sibling :
    let arrivals := [Arrival.file "src/pages/home.js", .file "src/api/index.d.ts"]
    let spec : ImportSpec := { moduleName := "./.././/api/" }
    ("typescript" ≠ "python" ∧ "typescript" ≠ "java") ∧
    Text.startsWith "/" "src/pages/home.js" = false ∧
    Text.startsWith "." spec.moduleName = true ∧
    Path.reach? "src/pages/home.js" spec.moduleName = some ["src", "api"] ∧
    ∃ t, (arrivals.foldl receive empty).resolveImport "src/pages/home.js" "typescript" spec = [t] ∧
      t.resolution.strategy = .exact := by
  intro arrivals spec
  have hdir : Path.reach? "src/pages/home.js" spec.moduleName = some ["src", "api"] := by
    decide
  refine ⟨by decide, by decide, by decide, hdir, ?_⟩
  refine (relativeModule_exact arrivals "src/pages/home.js" "typescript" spec ["src", "api"]
    (by decide) (by decide) (by decide) (by decide) hdir).1 (by decide) ?_
  exact ⟨"src/api/index.d.ts", by decide, by decide, .inr (.inr ⟨".d.ts", by decide, by decide⟩)⟩

/-- The index file of the root is not found, though the steps lead there. -/
theorem relativeModule_root_missed :
    let arrivals := [Arrival.file "src/app.js", .file "index.js"]
    let spec : ImportSpec := { moduleName := ".." }
    (∀ f ∈ arrivals.map Arrival.path, Path.normalize f = f) ∧
    Path.reach? "src/app.js" spec.moduleName = some [] ∧ Path.Serves [] "index.js" ∧
    (arrivals.foldl receive empty).resolveImport "src/app.js" "javascript" spec = [] := by
  intro arrivals spec
  refine ⟨by decide +kernel, by decide +kernel, ?_, by decide +kernel⟩
  exact .inr (.inr ⟨".js", by decide, by decide⟩)

end Registry

end CodeGraph
