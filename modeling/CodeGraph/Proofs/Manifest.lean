import CodeGraph.Proofs.Authentic

/-!
# Which configuration files can be harvested

A configuration file gives definitions, or it is malformed, or its document is well formed and still
of no use. Files that are read line by line always give definitions. JSON and TOML documents can be
too large for their readers; beyond that, the names in a JSON document have to be encodable, and the
values of a project file have to be of certain shapes.

## Main definitions

* `Manifest.WellShaped`: the shapes of the values of a project file.
* `Manifest.IsMalformed`, `Manifest.IsUnusable`: what keeps a file from being harvested.
* `Manifest.Judged`: when an attempt fails, by the two kinds of failure.

## Main results

* `Manifest.exists_harvestTables_iff`: the tables of a project file are harvested exactly if their
  values are well shaped.
* `Manifest.judged_loadJson`: definitions are made from a JSON document exactly if it is read and
  its names can be encoded.
* `Manifest.judged_harvest`: when harvesting fails.
-/

namespace CodeGraph

/-- A traversal gives results with a property exactly if each of its items does. -/
theorem Except.exists_mapM_iff {ε α β : Type} (f : α → Except ε β) (as : List α) (P : β → Prop) :
    (∃ bs, as.mapM f = .ok bs ∧ ∀ b ∈ bs, P b) ↔ ∀ a ∈ as, ∃ b, f a = .ok b ∧ P b := by
  induction as with
  | nil => exact ⟨fun _ a ha => absurd ha List.not_mem_nil, fun _ => ⟨[], rfl, by simp⟩⟩
  | cons a as ih =>
    rw [List.forall_mem_cons, ← ih, List.mapM_cons]
    constructor
    · rintro ⟨bs, h, hall⟩
      obtain ⟨b, hb, h⟩ := Except.bind_eq_ok_iff.mp h
      obtain ⟨bs', hbs', h⟩ := Except.bind_eq_ok_iff.mp h
      obtain rfl := Except.ok.inj h
      obtain ⟨hfirst, hrest⟩ := List.forall_mem_cons.mp hall
      exact ⟨⟨b, hb, hfirst⟩, bs', hbs', hrest⟩
    · rintro ⟨⟨b, hb, hfirst⟩, bs, hbs, hrest⟩
      refine ⟨b :: bs, ?_, List.forall_mem_cons.mpr ⟨hfirst, hrest⟩⟩
      rw [hb, hbs]
      rfl

/-- A traversal succeeds exactly if each of its items does. -/
theorem Except.exists_mapM_eq_ok_iff {ε α β : Type} (f : α → Except ε β) (as : List α) :
    (∃ bs, as.mapM f = .ok bs) ↔ ∀ a ∈ as, ∃ b, f a = .ok b := by
  simpa only [implies_true, and_true] using exists_mapM_iff f as fun _ => True

/-! ### Shapes of values -/

namespace Toml

/-- Whether a value is a text. -/
def isText : Toml → Bool
  | text _ => true
  | _ => false

/-- Whether a value is a table. -/
def isTable : Toml → Bool
  | table _ => true
  | _ => false

/-- Whether the items of a value are texts; those of tables and texts are. -/
def holdsTexts : Toml → Bool
  | list items => items.all isText
  | table _ | text _ => true
  | _ => false

/-- Whether a value is a pair that starts with a text. -/
def isNamed : Toml → Bool
  | list [text _, _] => true
  | table [_, _] => true
  | text s => s.toList.length = 2
  | _ => false

/-- Whether a value is a table, or a list of pairs that start with texts. -/
def isNaming : Toml → Bool
  | table _ => true
  | list items => items.all isNamed
  | _ => false

end Toml

namespace Manifest

/-- Whatever is present below a key has a shape. -/
def Below (shape : Toml → Bool) (t : Toml.Entries) (key : String) : Prop :=
  ∀ v, presentValue? t key = some v → shape v = true

/-- The entries of the table below a key, if there is one. -/
def tableAt (t : Toml.Entries) (key : String) : Toml.Entries :=
  match presentValue? t key with
  | some (.table entries) => entries
  | _ => []

/--
The values of a project file have the shapes that its requirements and scripts are read from. What
is not present may be missing or have any shape.
-/
structure WellShaped (data : Toml.Entries) : Prop where
  project : Below Toml.isTable data "project"
  tool : Below Toml.isTable data "tool"
  poetry : Below Toml.isTable (tableAt data "tool") "poetry"
  dependencies : Below Toml.holdsTexts (tableAt data "project") "dependencies"
  extras : Below Toml.isTable (tableAt data "project") "optional-dependencies"
  optional : ∀ extra ∈ tableAt (tableAt data "project") "optional-dependencies",
    extra.2.holdsTexts = true
  toolDependencies : Below Toml.holdsTexts (tableAt (tableAt data "tool") "poetry") "dependencies"
  scripts : Below Toml.isNaming (tableAt data "project") "scripts"
  toolScripts : Below Toml.isNaming (tableAt (tableAt data "tool") "poetry") "scripts"

/-! ### Values that have to be texts -/

/-- A computation gives texts. -/
def GivesTexts (x : Except Fault (List Toml)) : Prop :=
  ∃ vs, x = .ok vs ∧ ∀ v ∈ vs, v.isText = true

variable {t : Toml.Entries} {key : String} {v : Toml}

/-- Two computations give texts together exactly if each of them does. -/
theorem givesTexts_append_iff {x y : Except Fault (List Toml)} :
    GivesTexts (do return (← x) ++ (← y)) ↔ GivesTexts x ∧ GivesTexts y := by
  constructor
  · rintro ⟨vs, h, hall⟩
    obtain ⟨xs, hxs, h⟩ := Except.bind_eq_ok_iff.mp h
    obtain ⟨ys, hys, h⟩ := Except.bind_eq_ok_iff.mp h
    obtain rfl := Except.ok.inj h
    obtain ⟨hx, hy⟩ := List.forall_mem_append.mp hall
    exact ⟨⟨xs, hxs, hx⟩, ys, hys, hy⟩
  · rintro ⟨⟨xs, rfl, hx⟩, ys, rfl, hy⟩
    exact ⟨xs ++ ys, rfl, List.forall_mem_append.mpr ⟨hx, hy⟩⟩

/-- Values are texts exactly if each of them is. -/
theorem exists_mapM_asText_iff {vs : List Toml} :
    (∃ texts, vs.mapM asText = .ok texts) ↔ ∀ v ∈ vs, v.isText = true := by
  have hone : ∀ v : Toml, (∃ s, asText v = .ok s) ↔ v.isText = true := by
    intro v
    cases v <;> simp [asText, Toml.isText]
  simpa only [hone] using Except.exists_mapM_eq_ok_iff asText vs

/-- The keys of a table are texts. -/
theorem isText_of_mem_keys {entries : Toml.Entries} :
    ∀ k ∈ entries.map (fun e => Toml.text e.1), k.isText = true := by
  intro k hk
  obtain ⟨e, -, rfl⟩ := List.mem_map.mp hk
  rfl

/-- Running through a value gives texts exactly if it holds texts. -/
theorem givesTexts_iterate_iff : GivesTexts (iterate v) ↔ v.holdsTexts = true := by
  cases v with
  | list items => simp [GivesTexts, iterate, Toml.holdsTexts]
  | table entries => exact ⟨fun _ => rfl, fun _ => ⟨_, rfl, isText_of_mem_keys⟩⟩
  | text s =>
    refine ⟨fun _ => rfl, fun _ => ⟨_, rfl, fun k hk => ?_⟩⟩
    obtain ⟨c, -, rfl⟩ := List.mem_map.mp hk
    rfl
  | _ => simp [GivesTexts, iterate, Toml.holdsTexts]

/-- The items below a key are texts exactly if whatever is present holds texts. -/
theorem givesTexts_subitems_iff : GivesTexts (subitems t key) ↔ Below Toml.holdsTexts t key := by
  unfold subitems Below
  cases presentValue? t key with
  | none => simp [GivesTexts]
  | some v => simp [givesTexts_iterate_iff]

/-- The items of several values are texts exactly if each value holds texts. -/
theorem givesTexts_iterateAll_iff {vs : List Toml} :
    GivesTexts (iterateAll vs) ↔ ∀ v ∈ vs, v.holdsTexts = true := by
  induction vs with
  | nil => simp [GivesTexts, iterateAll]
  | cons v vs ih =>
    rw [List.forall_mem_cons, ← ih, ← givesTexts_iterate_iff]
    exact givesTexts_append_iff

/-! ### Values that have to be pairs -/

/-- What can be run through is a pair with a text for a key if it has two items, a text first. -/
theorem exists_pairKey_iff_of_iterate {vs : List Toml} (h : iterate v = .ok vs) :
    (∃ k, pairKey v = .ok k ∧ k.isText = true) ↔ ∃ w w', vs = [w, w'] ∧ w.isText = true := by
  have hkey : ∀ w : Toml, (∃ k, asKey w = .ok k ∧ k.isText = true) ↔ w.isText = true := by
    intro w
    cases w <;> simp [asKey, Toml.isText]
  simp only [pairKey, h, bind, Except.bind]
  rcases vs with - | ⟨w, - | ⟨w', - | ⟨w'', rest⟩⟩⟩
  · simp
  · simp
  · simp [hkey]
  · simp

/-- A pair has a text for a key exactly if it starts with one. -/
theorem exists_pairKey_iff : (∃ k, pairKey v = .ok k ∧ k.isText = true) ↔ v.isNamed = true := by
  cases v with
  | list items =>
    rw [exists_pairKey_iff_of_iterate rfl]
    rcases items with - | ⟨w, - | ⟨w', - | ⟨w'', rest⟩⟩⟩
    · simp [Toml.isNamed]
    · simp [Toml.isNamed]
    · cases w <;> simp [Toml.isNamed, Toml.isText]
    · simp [Toml.isNamed]
  | table entries =>
    rw [exists_pairKey_iff_of_iterate rfl]
    rcases entries with - | ⟨w, - | ⟨w', - | ⟨w'', rest⟩⟩⟩
    · simp [Toml.isNamed]
    · simp [Toml.isNamed]
    · simp [Toml.isNamed, Toml.isText]
    · simp [Toml.isNamed]
  | text s =>
    rw [exists_pairKey_iff_of_iterate rfl]
    simp only [Toml.isNamed, decide_eq_true_eq]
    rcases s.toList with - | ⟨c, - | ⟨c', - | ⟨c'', rest⟩⟩⟩
    · simp
    · simp
    · simp [Toml.isText]
    · simp
  | _ => simp [pairKey, iterate, Toml.isNamed, bind, Except.bind]

/-- What is present is neither false, zero nor empty. -/
theorem truthy_of_presentValue? (h : presentValue? t key = some v) : v.truthy = true :=
  (Option.filter_eq_some_iff.mp h).2

/-- A value that is present has texts for keys exactly if it is a table or a list of named pairs. -/
theorem givesTexts_keysOf_iff (hv : v.truthy = true) :
    GivesTexts (keysOf v) ↔ v.isNaming = true := by
  have hpairs : ∀ items : List Toml, GivesTexts (items.mapM pairKey) ↔
      ∀ w ∈ items, w.isNamed = true := by
    intro items
    have hall := Except.exists_mapM_iff pairKey items (·.isText = true)
    simp only [exists_pairKey_iff] at hall
    exact hall
  cases v with
  | table entries => exact ⟨fun _ => rfl, fun _ => ⟨_, rfl, isText_of_mem_keys⟩⟩
  | list items =>
    rw [Toml.isNaming, List.all_eq_true]
    exact hpairs items
  | text s =>
    refine (hpairs _).trans ⟨fun h => ?_, fun h => by cases h⟩
    -- a letter alone is no pair
    cases hs : s.toList with
    | nil =>
      have hempty : s = "" := String.toList_inj.mp hs
      simp [Toml.truthy, hempty] at hv
    | cons c cs =>
      have hfirst := h (.text (String.ofList [c])) (by simp [hs])
      simp [Toml.isNamed] at hfirst
  | _ => simp [GivesTexts, keysOf, iterate, Toml.isNaming, bind, Except.bind]

/-- The keys below a key are texts exactly if whatever is present names them. -/
theorem givesTexts_subkeys_iff : GivesTexts (subkeys t key) ↔ Below Toml.isNaming t key := by
  unfold subkeys Below
  cases hpresent : presentValue? t key with
  | none => simp [GivesTexts]
  | some v =>
    rw [givesTexts_keysOf_iff (truthy_of_presentValue? hpresent)]
    simp

/-! ### Project files -/

variable {path content : String} {ls : Lines}

/-- A subtable is there exactly if whatever is present is a table. -/
theorem subtable_eq_ok_iff {entries : Toml.Entries} :
    subtable t key = .ok entries ↔ Below Toml.isTable t key ∧ entries = tableAt t key := by
  unfold subtable Below tableAt
  rw [@eq_comm _ entries]
  cases presentValue? t key with
  | none => simp
  | some v => cases v <;> simp [asTable, Toml.isTable]

/-- The requirements of the project table are texts exactly if its values have the right shapes. -/
theorem givesTexts_projectRequirements_iff {project : Toml.Entries} :
    GivesTexts (projectRequirements project) ↔
      Below Toml.holdsTexts project "dependencies" ∧
      Below Toml.isTable project "optional-dependencies" ∧
      ∀ extra ∈ tableAt project "optional-dependencies", extra.2.holdsTexts = true := by
  have hoptional : GivesTexts (do iterateAll ((← subtable project "optional-dependencies").map
      Prod.snd)) ↔ Below Toml.isTable project "optional-dependencies" ∧
      ∀ extra ∈ tableAt project "optional-dependencies", extra.2.holdsTexts = true := by
    rw [← List.forall_mem_map (f := Prod.snd) (P := fun v : Toml => v.holdsTexts = true),
      ← givesTexts_iterateAll_iff]
    constructor
    · rintro ⟨vs, h, htexts⟩
      obtain ⟨extras, hextras, h⟩ := Except.bind_eq_ok_iff.mp h
      obtain ⟨hshape, rfl⟩ := subtable_eq_ok_iff.mp hextras
      exact ⟨hshape, vs, h, htexts⟩
    · rintro ⟨hshape, vs, h, htexts⟩
      exact ⟨vs, Except.bind_eq_ok_iff.mpr ⟨_, subtable_eq_ok_iff.mpr ⟨hshape, rfl⟩, h⟩, htexts⟩
  rw [← hoptional, ← givesTexts_subitems_iff, ← givesTexts_append_iff, projectRequirements]
  simp only [bind_assoc]

/-- The requirements of the tool table are texts exactly if whatever is present holds texts. -/
theorem givesTexts_toolRequirements_iff {poetry : Toml.Entries} :
    GivesTexts (toolRequirements poetry) ↔ Below Toml.holdsTexts poetry "dependencies" := by
  rw [← givesTexts_subitems_iff]
  constructor
  · rintro ⟨vs, h, htexts⟩
    obtain ⟨items, hitems, h⟩ := Except.bind_eq_ok_iff.mp h
    obtain rfl := Except.ok.inj h
    refine ⟨items, hitems, fun v hv => ?_⟩
    -- only texts are left out
    cases v with
    | text s => rfl
    | _ => exact htexts _ (List.mem_filter.mpr ⟨hv, rfl⟩)
  · rintro ⟨items, hitems, htexts⟩
    refine ⟨_, Except.bind_eq_ok_iff.mpr ⟨items, hitems, rfl⟩, fun v hv => ?_⟩
    exact htexts v (List.mem_of_mem_filter hv)

/-- Requirements have names exactly if they are texts. -/
theorem exists_requirementNames_iff {vs : List Toml} :
    (∃ names, requirementNames vs = .ok names) ↔ ∀ v ∈ vs, v.isText = true := by
  rw [← exists_mapM_asText_iff]
  constructor
  · rintro ⟨names, h⟩
    obtain ⟨texts, htexts, -⟩ := Except.bind_eq_ok_iff.mp h
    exact ⟨texts, htexts⟩
  · rintro ⟨texts, htexts⟩
    exact ⟨_, Except.bind_eq_ok_iff.mpr ⟨texts, htexts, rfl⟩⟩

/-- Project files are harvested exactly if their values are well shaped. -/
theorem exists_harvestTables_iff {data : Toml.Entries} :
    (∃ ds, harvestTables path ls data = .ok ds) ↔ WellShaped data := by
  constructor
  · rintro ⟨ds, h⟩
    unfold harvestTables at h
    obtain ⟨project, hproject, h⟩ := Except.bind_eq_ok_iff.mp h
    obtain ⟨listed, hlisted, h⟩ := Except.bind_eq_ok_iff.mp h
    obtain ⟨tool, htool, h⟩ := Except.bind_eq_ok_iff.mp h
    obtain ⟨poetry, hpoetry, h⟩ := Except.bind_eq_ok_iff.mp h
    obtain ⟨more, hmore, h⟩ := Except.bind_eq_ok_iff.mp h
    obtain ⟨names, hnames, h⟩ := Except.bind_eq_ok_iff.mp h
    obtain ⟨scripts, hscripts, h⟩ := Except.bind_eq_ok_iff.mp h
    obtain ⟨moreScripts, hmoreScripts, h⟩ := Except.bind_eq_ok_iff.mp h
    obtain ⟨scriptNames, hscriptNames, -⟩ := Except.bind_eq_ok_iff.mp h
    obtain ⟨hprojectShape, rfl⟩ := subtable_eq_ok_iff.mp hproject
    obtain ⟨htoolShape, rfl⟩ := subtable_eq_ok_iff.mp htool
    obtain ⟨hpoetryShape, rfl⟩ := subtable_eq_ok_iff.mp hpoetry
    obtain ⟨hlistedTexts, hmoreTexts⟩ :=
      List.forall_mem_append.mp (exists_requirementNames_iff.mp ⟨names, hnames⟩)
    obtain ⟨hscriptTexts, hmoreScriptTexts⟩ :=
      List.forall_mem_append.mp (exists_mapM_asText_iff.mp ⟨scriptNames, hscriptNames⟩)
    obtain ⟨hdependencies, hextras, hoptional⟩ :=
      givesTexts_projectRequirements_iff.mp ⟨listed, hlisted, hlistedTexts⟩
    exact {
      project := hprojectShape
      tool := htoolShape
      poetry := hpoetryShape
      dependencies := hdependencies
      extras := hextras
      optional := hoptional
      toolDependencies := givesTexts_toolRequirements_iff.mp ⟨more, hmore, hmoreTexts⟩
      scripts := givesTexts_subkeys_iff.mp ⟨scripts, hscripts, hscriptTexts⟩
      toolScripts := givesTexts_subkeys_iff.mp ⟨moreScripts, hmoreScripts, hmoreScriptTexts⟩ }
  · intro h
    obtain ⟨listed, hlisted, hlistedTexts⟩ :=
      givesTexts_projectRequirements_iff.mpr ⟨h.dependencies, h.extras, h.optional⟩
    obtain ⟨more, hmore, hmoreTexts⟩ := givesTexts_toolRequirements_iff.mpr h.toolDependencies
    obtain ⟨scripts, hscripts, hscriptTexts⟩ := givesTexts_subkeys_iff.mpr h.scripts
    obtain ⟨moreScripts, hmoreScripts, hmoreScriptTexts⟩ :=
      givesTexts_subkeys_iff.mpr h.toolScripts
    obtain ⟨names, hnames⟩ := exists_requirementNames_iff.mpr
      (List.forall_mem_append.mpr ⟨hlistedTexts, hmoreTexts⟩)
    obtain ⟨scriptNames, hscriptNames⟩ := exists_mapM_asText_iff.mpr
      (List.forall_mem_append.mpr ⟨hscriptTexts, hmoreScriptTexts⟩)
    have hproject := subtable_eq_ok_iff.mpr ⟨h.project, rfl⟩
    have htool := subtable_eq_ok_iff.mpr ⟨h.tool, rfl⟩
    have hpoetry := subtable_eq_ok_iff.mpr ⟨h.poetry, rfl⟩
    simp only [harvestTables, hproject, hlisted, htool, hpoetry, hmore, hnames, hscripts,
      hmoreScripts, hscriptNames, bind, Except.bind]
    exact ⟨_, rfl⟩

/-! ### JSON documents -/

/-- When a file is malformed, and when it is of no use. -/
structure Judged {α : Type} (x : Except Failure α) (malformed unusable : Prop) : Prop where
  malformed : (∃ reason, x = .error (.malformed reason)) ↔ malformed
  unusable : (∃ fault, x = .error (.unusable fault)) ↔ unusable

/-- What has definitions has no failure. -/
theorem Judged.ok {α : Type} (a : α) {unusable : Prop} (h : ¬unusable) :
    Judged (.ok a) False unusable :=
  ⟨by simp, by simp [h]⟩

/-- What is lifted is never malformed. -/
theorem Judged.lift {α : Type} (x : Except Fault α) :
    Judged (Failure.lift x) False (¬∃ a, x = .ok a) := by
  cases x with
  | error fault => constructor <;> simp [Failure.lift]
  | ok a => constructor <;> simp [Failure.lift]

/-- A failure stays what it is, whatever would have been made of the definitions. -/
theorem Judged.map {α β : Type} {x : Except Failure α} {malformed unusable : Prop}
    (h : Judged x malformed unusable) (f : α → β) :
    Judged (do return f (← x)) malformed unusable := by
  obtain ⟨hmalformed, hunusable⟩ := h
  cases x with
  | error failure =>
    constructor
    · simpa [bind, Except.bind] using hmalformed
    · simpa [bind, Except.bind] using hunusable
  | ok a =>
    constructor
    · simpa [bind, Except.bind, pure, Except.pure] using hmalformed
    · simpa [bind, Except.bind, pure, Except.pure] using hunusable

/-- A traversal that is lifted item by item is lifted as a whole. -/
theorem Failure.mapM_lift {α β : Type} (f : α → Except Fault β) (as : List α) :
    (as.mapM fun a => Failure.lift (f a)) = Failure.lift (as.mapM f) := by
  induction as with
  | nil => rfl
  | cons a as ih =>
    rw [List.mapM_cons, List.mapM_cons, ih]
    cases f a with
    | error fault => rfl
    | ok b => cases as.mapM f <;> rfl

/-- The names in a package description that become names of definitions. -/
def packageNames (fields : Document.Fields) : List CodeText :=
  packageSections.flatMap fun s => sectionNames fields s.1

/-- The names in a compiler configuration that become names of definitions. -/
def aliasNames (fields : Document.Fields) : List CodeText :=
  match fields.field? "compilerOptions" with
  | some (.object options) => sectionNames options "paths"
  | _ => []

/-- Whether a JSON document was given up for its size: its depth, or the digits of a number. -/
def isExcess (kind : Json.FaultKind) : Bool :=
  kind = .tooDeep || kind = .tooManyDigits

/-- A text is not a JSON document, or its value is not an object. -/
def IsMalformedJson (content : String) : Prop :=
  (∃ fault, Json.read Document.builder Document.limits content = .error fault ∧
    isExcess fault.kind = false) ∨
  Json.read Document.builder Document.limits content = .ok .leaf

/-- A JSON document is too large, or one of some names in it cannot be encoded. -/
def IsUnusableJson (names : Document.Fields → List CodeText) (content : String) : Prop :=
  (∃ fault, Json.read Document.builder Document.limits content = .error fault ∧
    isExcess fault.kind = true) ∨
  ∃ fields, Json.read Document.builder Document.limits content = .ok (.object fields) ∧
    ∃ name ∈ names fields, name.toString? = none

/-- A JSON document from whose fields definitions are made. -/
theorem judged_loadJson {α : Type} {make : Document.Fields → Except Failure α}
    {names : Document.Fields → List CodeText}
    (h : ∀ fields, Judged (make fields) False (∃ name ∈ names fields, name.toString? = none)) :
    Judged (loadJson content >>= make) (IsMalformedJson content)
      (IsUnusableJson names content) := by
  unfold loadJson IsMalformedJson IsUnusableJson
  cases hread : Json.read Document.builder Document.limits content with
  | error fault =>
    obtain ⟨kind, rest⟩ := fault
    constructor <;> cases kind <;> simp [jsonFailure, isExcess, bind, Except.bind]
  | ok document =>
    cases document with
    | leaf => constructor <;> simp [bind, Except.bind]
    | object fields =>
      constructor
      · simpa [bind, Except.bind] using (h fields).malformed
      · simpa [bind, Except.bind] using (h fields).unusable

/-- Definitions are made of names unless one of these cannot be encoded. -/
theorem not_exists_definitionsBelow_iff {heading : String} {kind : DefinitionKind}
    {names : List CodeText} :
    (¬∃ ds, definitionsBelow path ls heading kind names = .ok ds) ↔
      ∃ name ∈ names, name.toString? = none := by
  have hone : ∀ name : CodeText, (∃ d, (do
      let n ← identifiable path kind name
      return ls.define path n kind (ls.find (inQuotes n) (ls.find (inQuotes heading) 1))) =
        Except.ok d) ↔ name.toString? ≠ none := by
    intro name
    unfold identifiable
    cases name.toString? <;> simp [bind, Except.bind, pure, Except.pure]
  have hall : (∃ ds, definitionsBelow path ls heading kind names = .ok ds) ↔
      ∀ name ∈ names, name.toString? ≠ none := by
    simp only [← hone]
    exact Except.exists_mapM_eq_ok_iff _ names
  rw [hall]
  simp

/-- A package description, by what is wrong with it. -/
theorem judged_harvestPackage : Judged (harvestPackage path content ls) (IsMalformedJson content)
    (IsUnusableJson packageNames content) := by
  refine judged_loadJson fun fields => Judged.map ?_ List.flatten
  have hnames : (¬∃ sections, packageSections.mapM (fun s => definitionsBelow path ls s.1 s.2
      (sectionNames fields s.1)) = .ok sections) ↔
      ∃ name ∈ packageNames fields, name.toString? = none := by
    rw [Except.exists_mapM_eq_ok_iff, packageNames]
    simp only [not_forall, not_exists_definitionsBelow_iff, List.mem_flatMap]
    constructor
    · rintro ⟨s, hs, name, hname, hnone⟩
      exact ⟨name, ⟨s, hs, hname⟩, hnone⟩
    · rintro ⟨name, ⟨s, hs, hname⟩, hnone⟩
      exact ⟨s, hs, name, hname, hnone⟩
  rw [← hnames]
  simp only [Failure.mapM_lift]
  exact Judged.lift _

/-- A compiler configuration, by what is wrong with it. -/
theorem judged_harvestTsconfig : Judged (harvestTsconfig path content ls)
    (IsMalformedJson content) (IsUnusableJson aliasNames content) := by
  refine judged_loadJson fun fields => ?_
  unfold aliasNames
  rcases fields.field? "compilerOptions" with - | (- | options)
  · exact Judged.ok [] (by simp)
  · exact Judged.ok [] (by simp)
  · have hnames : (¬∃ ds, definitionsBelow path ls "paths" .variableDecl
        (sectionNames options "paths") = .ok ds) ↔ _ := not_exists_definitionsBelow_iff
    rw [← hnames]
    exact (Judged.lift _).map (List.cons _)

/-! ### All formats -/

/-- How large a project file may be. -/
def tomlLimits : Toml.Limits :=
  { digits := maxDigits, depth := maxTableNesting }

/-- A configuration file is not a document of its format; files read line by line always are. -/
def IsMalformed (path content : String) : Prop :=
  match Format.ofName? (Text.lower (Path.name path)) with
  | some .packageJson | some .tsconfig => IsMalformedJson content
  | some .pyproject => ∃ reason, Toml.parse tomlLimits content = .error (.malformed reason)
  | some .dockerfile | some .dotenv | some .requirements | none => False

/--
A configuration file is a document of its format, but too large, or with a name that cannot be
encoded, or with values of the wrong shapes.
-/
def IsUnusable (path content : String) : Prop :=
  match Format.ofName? (Text.lower (Path.name path)) with
  | some .packageJson => IsUnusableJson packageNames content
  | some .tsconfig => IsUnusableJson aliasNames content
  | some .pyproject =>
    Toml.parse tomlLimits content = .error .tooDeep ∨
    Toml.parse tomlLimits content = .error .tooManyDigits ∨
    ∃ data, Toml.parse tomlLimits content = .ok data ∧ ¬WellShaped data
  | some .dockerfile | some .dotenv | some .requirements | none => False

/-- A project file, by what is wrong with it. -/
theorem judged_harvestPyproject : Judged (harvestPyproject path content ls)
    (∃ reason, Toml.parse tomlLimits content = .error (.malformed reason))
    (Toml.parse tomlLimits content = .error .tooDeep ∨
      Toml.parse tomlLimits content = .error .tooManyDigits ∨
      ∃ data, Toml.parse tomlLimits content = .ok data ∧ ¬WellShaped data) := by
  unfold harvestPyproject
  rw [← tomlLimits]
  cases Toml.parse tomlLimits content with
  | error failure => constructor <;> cases failure <;> simp [tomlFailure]
  | ok data =>
    have hlift := Judged.lift (harvestTables path ls data)
    rw [exists_harvestTables_iff] at hlift
    constructor
    · simpa using hlift.malformed
    · simpa using hlift.unusable

/-- A configuration file, by what is wrong with it. -/
theorem judged_harvest (path content : String) :
    Judged (harvest path content) (IsMalformed path content) (IsUnusable path content) := by
  unfold harvest IsMalformed IsUnusable
  cases Format.ofName? (Text.lower (Path.name path)) with
  | none => exact Judged.ok [] id
  | some format =>
    cases format with
    | packageJson => exact judged_harvestPackage
    | tsconfig => exact judged_harvestTsconfig
    | pyproject => exact judged_harvestPyproject
    | dockerfile => exact Judged.ok _ id
    | dotenv => exact Judged.ok _ id
    | requirements => exact Judged.ok _ id

end Manifest

end CodeGraph
