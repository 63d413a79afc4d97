import CodeGraph.Proofs.Matching
import CodeGraph.Proofs.Path

/-!
# Imports of whole packages

A wildcard import of a package leads to every file that lies in the directory of the package, or in
a directory that ends with it. The former should be trusted fully and the latter less, as they may
belong to another source root. But all files are labelled alike, with what the first of them in path
order deserves.

## Main definitions

* `ImportTarget.InPackage`: a target lies in the directory of the package itself.
* `ImportTarget.Labelled`: a target has the strategy that it deserves, and the confidence of it.

## Main results

* `Registry.mem_packageMembers`, `Registry.first_le_of_packageMembers`: the files of a package.
* `Registry.resolvePackage_eq`: what a wildcard import leads to.
* `Registry.labelled_resolvePackage_iff`: the labels are right if all targets deserve the same.
* `Registry.package_labels`: when the files of a package are labelled as they deserve.
-/

namespace CodeGraph

/-- A target lies in the directory of a package itself. -/
def ImportTarget.InPackage (directory : String) (t : ImportTarget) : Prop :=
  Path.directory t.resolution.target = directory

instance (directory : String) (t : ImportTarget) : Decidable (t.InPackage directory) :=
  inferInstanceAs (Decidable (_ = _))

/--
A target is found exactly if it lies in the directory of the package, and else by its end, and it is
trusted accordingly.
-/
def ImportTarget.Labelled (directory : String) (t : ImportTarget) : Prop :=
  t.resolution = .found t.resolution.target
    (if t.InPackage directory then .exact else .rootRelative)

/-- The strategy of a file that was found can be read off. -/
theorem Resolution.found_inj {target : String} {strategy strategy' : Strategy} :
    found target strategy = found target strategy' ↔ strategy = strategy' :=
  ⟨congrArg Resolution.strategy, congrArg (found target)⟩

namespace Registry

variable {r : Registry} {importer directory path : String}

/-! ### The files of a package -/

/-- The files of a package are the other registered ones that lie in it. -/
theorem mem_packageMembers :
    path ∈ r.packageMembers importer directory ↔
      path ∈ r.files ∧ Text.endsWith ".java" path = true ∧ path ≠ importer ∧
        isMember directory path = true := by
  rw [packageMembers, Text.sort, Sorting.mem_sort, List.mem_filter, Bool.and_eq_true,
    Bool.and_eq_true, decide_eq_true_iff, and_assoc]

/-- A file in the directory of a package is one of its files. -/
theorem mem_packageMembers_of_directory (hfile : path ∈ r.files)
    (hjava : Text.endsWith ".java" path = true) (hother : path ≠ importer)
    (hdirectory : Path.directory path = directory) :
    path ∈ r.packageMembers importer directory :=
  mem_packageMembers.mpr ⟨hfile, hjava, hother, by simp [isMember, hdirectory]⟩

/-- The first file of a package comes before the others in path order. -/
theorem first_le_of_packageMembers {first : String} {rest : List String}
    (h : r.packageMembers importer directory = first :: rest) :
    ∀ m ∈ r.packageMembers importer directory, first ≤ m := by
  have hsorted : (r.packageMembers importer directory).Pairwise (· ≤ ·) := Text.pairwise_sort _
  rw [h] at hsorted ⊢
  intro m hm
  rcases List.mem_cons.mp hm with rfl | hm
  · exact String.le_refl m
  · exact List.rel_of_pairwise_cons hsorted hm

/-! ### Targets -/

/-- The longest trailing part of a directory is the directory itself. -/
theorem suffixes_eq_cons (directory : String) :
    ∃ rest, Path.suffixes directory = directory :: rest := by
  obtain ⟨n, hn⟩ := Nat.exists_eq_add_one_of_ne_zero
    (List.length_pos_iff.mpr (Text.split_ne_nil '/' directory)).ne'
  rw [Path.suffixes, hn, List.range_succ_eq_map, List.map_cons, List.drop_zero, Text.join_split]
  exact ⟨_, rfl⟩

/-- If the package has files, then those are the targets. -/
theorem resolvePackage_of_members {first : String} {rest : List String}
    (h : r.packageMembers importer directory = first :: rest) :
    r.resolvePackage importer directory = (first :: rest).map fun m =>
      { resolution :=
          .found m (if Path.directory first = directory then .exact else .rootRelative)
        isWildcard := true } := by
  obtain ⟨shorter, hshorter⟩ := suffixes_eq_cons directory
  simp [resolvePackage, hshorter, h]

/--
A wildcard import leads to the files of the first trailing part of the directory that has any, all
with one strategy, which the first file decides.
-/
theorem resolvePackage_eq (r : Registry) (importer directory : String) :
    r.resolvePackage importer directory = [] ∧ r.packageMembers importer directory = [] ∨
    ∃ suffix first rest, r.packageMembers importer suffix = first :: rest ∧
      (suffix = directory ∨ r.packageMembers importer directory = []) ∧
      r.resolvePackage importer directory = (first :: rest).map fun m =>
        { resolution := .found m (if suffix = directory && Path.directory first = suffix then .exact
            else .rootRelative)
          isWildcard := true } := by
  cases hmembers : r.packageMembers importer directory with
  | cons first rest =>
    exact .inr ⟨directory, first, rest, hmembers, .inl rfl,
      by simp [resolvePackage_of_members hmembers]⟩
  | nil =>
    obtain ⟨shorter, hshorter⟩ := suffixes_eq_cons directory
    unfold resolvePackage
    rw [hshorter, List.findSome?_cons]
    dsimp only
    rw [hmembers, List.head?_nil, Option.map_none]
    cases hfound : shorter.findSome? fun suffix =>
        (r.packageMembers importer suffix).head?.map fun first =>
          (r.packageMembers importer suffix).map fun m =>
            ({ resolution := .found m (if suffix = directory && Path.directory first = suffix
                then .exact else .rootRelative)
               isWildcard := true } : ImportTarget) with
    | none => exact .inl ⟨rfl, rfl⟩
    | some ts =>
      obtain ⟨suffix, -, hsuffix⟩ := List.exists_of_findSome?_eq_some hfound
      obtain ⟨first, hfirst, rfl⟩ := Option.map_eq_some_iff.mp hsuffix
      obtain ⟨rest, hrest⟩ := List.head?_eq_some_iff.mp hfirst
      exact .inr ⟨suffix, first, rest, hrest, .inr rfl, by rw [Option.getD_some, hrest]⟩

/-- Every file that lies in a package is a target. -/
theorem exists_target_of_member {path : String} (h : path ∈ r.packageMembers importer directory) :
    ∃ t ∈ r.resolvePackage importer directory, t.resolution.target = path := by
  rcases r.resolvePackage_eq importer directory with ⟨-, hnone⟩ | hsome
  · rw [hnone] at h
    cases h
  · obtain ⟨suffix, first, rest, hmembers, rfl | hnone, htargets⟩ := hsome
    · rw [htargets]
      exact ⟨_, List.mem_map_of_mem (hmembers ▸ h), rfl⟩
    · rw [hnone] at h
      cases h

/-- The strategy of all targets is the one that the first of them deserves. -/
theorem exists_first_resolvePackage (hne : r.resolvePackage importer directory ≠ []) :
    ∃ first ∈ r.resolvePackage importer directory,
      (∀ t ∈ r.resolvePackage importer directory,
        first.resolution.target ≤ t.resolution.target) ∧
      ∀ t ∈ r.resolvePackage importer directory, t.resolution = .found t.resolution.target
        (if first.InPackage directory then .exact else .rootRelative) := by
  rcases r.resolvePackage_eq importer directory with ⟨hnil, -⟩ | hsome
  · exact absurd hnil hne
  obtain ⟨suffix, first, rest, hmembers, hlevel, htargets⟩ := hsome
  rw [htargets]
  have hfirst := hmembers ▸ first_le_of_packageMembers hmembers
  refine ⟨_, List.mem_map_of_mem List.mem_cons_self, fun t ht => ?_, fun t ht => ?_⟩ <;>
    obtain ⟨m, hm, rfl⟩ := List.mem_map.mp ht
  · exact hfirst m hm
  · by_cases hsuffix : suffix = directory
    · subst hsuffix
      simp [ImportTarget.InPackage, Resolution.found]
    · -- Then no file lies in the package, and so neither does the first one.
      have hnone := hlevel.resolve_left hsuffix
      have hnotIn : Path.directory first ≠ directory := fun hin => by
        obtain ⟨hfile, hjava, hother, -⟩ :=
          mem_packageMembers.mp (hmembers ▸ List.mem_cons_self : first ∈ _)
        have hmember := mem_packageMembers_of_directory hfile hjava hother hin
        rw [hnone] at hmember
        cases hmember
      simp [ImportTarget.InPackage, Resolution.found, hsuffix, hnotIn]

/-- The targets are labelled as they deserve exactly if they all deserve the same. -/
theorem labelled_resolvePackage_iff (r : Registry) (importer directory : String) :
    (∀ t ∈ r.resolvePackage importer directory, t.Labelled directory) ↔
      ∀ t ∈ r.resolvePackage importer directory, ∀ u ∈ r.resolvePackage importer directory,
        (t.InPackage directory ↔ u.InPackage directory) := by
  by_cases hne : r.resolvePackage importer directory = []
  · simp [hne]
  obtain ⟨first, hfirst, -, hstrategy⟩ := exists_first_resolvePackage hne
  have hlabelled : ∀ t ∈ r.resolvePackage importer directory,
      (t.Labelled directory ↔ (first.InPackage directory ↔ t.InPackage directory)) := by
    intro t ht
    rw [ImportTarget.Labelled]
    nth_rewrite 1 [hstrategy t ht]
    rw [Resolution.found_inj]
    split_ifs <;> simp_all
  constructor
  · intro h t ht u hu
    exact ((hlabelled t ht).mp (h t ht)).symm.trans ((hlabelled u hu).mp (h u hu))
  · intro h t ht
    exact (hlabelled t ht).mpr (h first hfirst t ht)

/-! ### Wildcard imports -/

/-- A wildcard import leads to its package. -/
theorem resolveImport_wildcard (r : Registry) (importer : String) {spec : ImportSpec}
    (h : ∃ n ∈ spec.names, n.kind = .wildcard) :
    r.resolveImport importer "java" spec =
      r.resolvePackage importer (Text.replaceChar '.' '/' spec.moduleName) := by
  have hany : spec.names.any (·.kind = .wildcard) = true := by simpa using h
  rw [resolveImport, if_neg (by decide), if_pos rfl, resolveJava, if_pos hany]

/--
A wildcard import of a package leads to every file that lies in its directory. All targets are
labelled with what the first of them in path order deserves, so that the labels are right exactly if
all targets lie in the directory of the package, or none does.
-/
theorem package_labels (arrivals : List Arrival) (importer : String) (spec : ImportSpec)
    (hwildcard : ∃ n ∈ spec.names, n.kind = .wildcard) :
    let directory := Text.replaceChar '.' '/' spec.moduleName
    let targets := (arrivals.foldl receive empty).resolveImport importer "java" spec
    (∀ path ∈ arrivals.map Arrival.path, Text.endsWith ".java" path = true → path ≠ importer →
      isMember directory path = true → ∃ t ∈ targets, t.resolution.target = path) ∧
    (targets ≠ [] → ∃ first ∈ targets,
      (∀ t ∈ targets, first.resolution.target ≤ t.resolution.target) ∧
      ∀ t ∈ targets, t.resolution = .found t.resolution.target
        (if first.InPackage directory then .exact else .rootRelative)) ∧
    ((∀ t ∈ targets, t.Labelled directory) ↔
      ∀ t ∈ targets, ∀ u ∈ targets, (t.InPackage directory ↔ u.InPackage directory)) := by
  intro directory targets
  rw [show targets = _ from resolveImport_wildcard _ importer hwildcard]
  refine ⟨fun path hpath hjava hother hmember => ?_, exists_first_resolvePackage,
    labelled_resolvePackage_iff _ _ _⟩
  exact exists_target_of_member
    (mem_packageMembers.mpr ⟨(mem_files_foldl_receive _ _ _).mpr (.inr hpath), hjava, hother,
      hmember⟩)

/-- Both files of a package that has one source root are found exactly. -/
theorem package_labels_plain :
    let r := [Arrival.file "App.java", .file "com/acme/util/A.java",
      .file "com/acme/util/B.java"].foldl receive empty
    let spec : ImportSpec := { moduleName := "com.acme.util", names := [{ kind := .wildcard }] }
    (∃ n ∈ spec.names, n.kind = .wildcard) ∧
    (∃ t ∈ r.resolveImport "App.java" "java" spec,
      t.resolution.target = "com/acme/util/B.java") ∧
    ∀ t ∈ r.resolveImport "App.java" "java" spec, t.Labelled "com/acme/util" := by
  intro r spec
  have hwildcard : ∃ n ∈ spec.names, n.kind = .wildcard := ⟨_, List.mem_cons_self, rfl⟩
  have hdirectory : Text.replaceChar '.' '/' spec.moduleName = "com/acme/util" := by decide
  have hmembers : r.packageMembers "App.java" "com/acme/util" =
      ["com/acme/util/A.java", "com/acme/util/B.java"] :=
    (congrArg Text.sort (by decide)).trans (Text.sort_of_pairwise (by decide))
  have hboth : ∀ t ∈ r.resolveImport "App.java" "java" spec, t.InPackage "com/acme/util" := by
    rw [resolveImport_wildcard _ _ hwildcard, hdirectory, resolvePackage_of_members hmembers]
    decide
  obtain ⟨hfound, -, hlabelled⟩ := package_labels
    [.file "App.java", .file "com/acme/util/A.java", .file "com/acme/util/B.java"] "App.java" spec
    hwildcard
  rw [hdirectory] at hfound hlabelled
  exact ⟨hwildcard, hfound "com/acme/util/B.java" (by decide) (by decide) (by decide)
    (by decide), hlabelled.mpr fun t ht u hu => iff_of_true (hboth t ht) (hboth u hu)⟩

/-- A file of another source root counts as found exactly, as one of the package is first. -/
theorem package_mislabelled :
    let r := [Arrival.file "App.java", .file "a/b/c/X.java",
      .file "src/a/b/c/Y.java"].foldl receive empty
    let spec : ImportSpec := { moduleName := "a.b.c", names := [{ kind := .wildcard }] }
    (r.resolveImport "App.java" "java" spec).map ImportTarget.resolution =
        [.found "a/b/c/X.java" .exact, .found "src/a/b/c/Y.java" .exact] ∧
      Path.directory "src/a/b/c/Y.java" ≠ Text.replaceChar '.' '/' spec.moduleName := by
  intro r spec
  have hwildcard : ∃ n ∈ spec.names, n.kind = .wildcard := ⟨_, List.mem_cons_self, rfl⟩
  have hdirectory : Text.replaceChar '.' '/' spec.moduleName = "a/b/c" := by decide
  have hmembers : r.packageMembers "App.java" "a/b/c" = ["a/b/c/X.java", "src/a/b/c/Y.java"] :=
    (congrArg Text.sort (by decide)).trans (Text.sort_of_pairwise (by decide))
  rw [resolveImport_wildcard _ _ hwildcard, hdirectory, resolvePackage_of_members hmembers]
  decide

end Registry

end CodeGraph
