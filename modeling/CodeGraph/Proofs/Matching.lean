import CodeGraph.Import.Resolution
import CodeGraph.Proofs.Registry

/-!
# Which file a list of candidates means

A candidate is matched by a registered file in one of three ways: it is the file, the file ends with
the same segments, or the file has the same stem. All candidates are tried in one way before any of
them is tried in the next, and among several files the nearest one is taken. So an answer comes from
the best way in which any candidate is matched by any file. More files can only improve it, and the
order in which they were registered does not matter.

## Main definitions

* `Resolution.Paired`: an answer is trusted as the way is in which it was found.
* `AtLeastAsNear`: the order of files by distance and path.
* `Strategy.Matches`: a file matches a candidate in the way of a strategy.
* `Resolution.Fits`: an answer names a file that matches a candidate.

## Main results

* `closest_eq_some_iff`: the nearest candidate is the least one.
* `Registry.paired_of_resolvePath`, `Registry.Holds.fits_of_resolvePath`: every answer is paired, and
  fits.
* `Registry.Holds.exists_resolvePath`: an answer is trusted as much as anything that fits.
* `Registry.Holds.resolvePath_congr`: only the set of files matters.
* `Registry.resolvePath_laws`: all of it, whatever a registry was told in which order.
-/

namespace CodeGraph

/-- The first of two answers comes from one of them. -/
theorem eq_some_or_of_orElse {α : Type} {x y : Option α} {a : α} (h : (x <|> y) = some a) :
    x = some a ∨ y = some a := by
  cases x with
  | none => exact .inr h
  | some b => exact .inl h

namespace Strategy

/-- Strategies are trusted in the order of their tenths. -/
theorem confidence_le_iff (s t : Strategy) :
    s.confidence.toFloat ≤ t.confidence.toFloat ↔ s.tenths ≤ t.tenths := by
  cases s <;> cases t <;> decide

/-- One strategy is trusted less than another if it has fewer tenths. -/
theorem isLess_confidence_iff (s t : Strategy) :
    s.confidence.isLess t.confidence = true ↔ s.tenths < t.tenths := by
  cases s <;> cases t <;> decide

/-- Nothing is trusted more than an exact match. -/
theorem tenths_le_exact (s : Strategy) : s.tenths ≤ exact.tenths := by
  cases s <;> decide

/-- Nothing is trusted less than a match by name. -/
theorem basename_le_tenths (s : Strategy) : basename.tenths ≤ s.tenths := by
  cases s <;> decide

end Strategy

/-- An answer is trusted as the way is in which it was found. -/
def Resolution.Paired (r : Resolution) : Prop :=
  r.confidence = r.strategy.confidence

theorem Resolution.paired_found (target : String) (strategy : Strategy) :
    (found target strategy).Paired :=
  rfl

/-- A paired answer is told by its file and the way in which it was found. -/
theorem Resolution.Paired.eq_found {r : Resolution} (h : r.Paired) :
    r = .found r.target r.strategy := by
  obtain ⟨target, confidence, strategy⟩ := r
  obtain rfl : confidence = strategy.confidence := h
  rfl

/-- Of two paired answers, the one with the better strategy is trusted more. -/
theorem Resolution.Paired.confidence_le_iff {r r' : Resolution} (h : r.Paired) (h' : r'.Paired) :
    r.confidence.toFloat ≤ r'.confidence.toFloat ↔ r.strategy.tenths ≤ r'.strategy.tenths := by
  rw [h, h', Strategy.confidence_le_iff]

/-- Of two paired answers, the one with the worse strategy is trusted less. -/
theorem Resolution.Paired.isLess_confidence_iff {r r' : Resolution} (h : r.Paired)
    (h' : r'.Paired) :
    r.confidence.isLess r'.confidence = true ↔ r.strategy.tenths < r'.strategy.tenths := by
  rw [h, h', Strategy.isLess_confidence_iff]

/-! ### The nearest file -/

/-- A file is nearer to a source than another one, or as near and not after it in path order. -/
def AtLeastAsNear (source a b : String) : Prop :=
  importDistance source a < importDistance source b ∨
    importDistance source a = importDistance source b ∧ a ≤ b

namespace AtLeastAsNear

variable {source a b c : String}

theorem refl (source a : String) : AtLeastAsNear source a a :=
  .inr ⟨rfl, String.le_refl a⟩

theorem trans (hab : AtLeastAsNear source a b) (hbc : AtLeastAsNear source b c) :
    AtLeastAsNear source a c := by
  rcases hab with hab | ⟨hab, hle⟩
  · exact .inl (hbc.elim (hab.trans ·) (hab.trans_eq ·.1))
  · rcases hbc with hbc | ⟨hbc, hle'⟩
    · exact .inl (hab.trans_lt hbc)
    · exact .inr ⟨hab.trans hbc, String.le_trans hle hle'⟩

theorem antisymm (hab : AtLeastAsNear source a b) (hba : AtLeastAsNear source b a) : a = b := by
  unfold AtLeastAsNear at hab hba
  have heq : importDistance source a = importDistance source b := by omega
  exact String.le_antisymm (hab.resolve_left heq.not_lt).2 (hba.resolve_left heq.symm.not_lt).2

theorem total (source a b : String) : AtLeastAsNear source a b ∨ AtLeastAsNear source b a := by
  rcases Nat.lt_trichotomy (importDistance source a) (importDistance source b) with hlt | heq | hlt
  · exact .inl (.inl hlt)
  · exact (String.le_total a b).imp (fun hle => .inr ⟨heq, hle⟩) fun hle => .inr ⟨heq.symm, hle⟩
  · exact .inr (.inl hlt)

end AtLeastAsNear

/-- What is not preferred to a file is preceded by it. -/
theorem isCloser_eq_false_iff {source a b : String} :
    isCloser source a b = false ↔ AtLeastAsNear source b a := by
  rw [isCloser, Bool.or_eq_false_iff, Bool.and_eq_false_iff, decide_eq_false_iff_not,
    decide_eq_false_iff_not, decide_eq_false_iff_not, ← String.not_le, not_not, AtLeastAsNear]
  constructor
  · rintro ⟨hlt, hne | hle⟩
    · exact .inl (by omega)
    · exact (Nat.lt_or_eq_of_le (Nat.not_lt.mp hlt)).imp_right (⟨·, hle⟩)
  · rintro (hlt | ⟨heq, hle⟩)
    · exact ⟨by omega, .inl (by omega)⟩
    · exact ⟨by omega, .inr hle⟩

/-- The preferred one of two files precedes both. -/
theorem atLeastAsNear_preferred (source p best : String) :
    AtLeastAsNear source (if isCloser source p best then p else best) best ∧
      AtLeastAsNear source (if isCloser source p best then p else best) p := by
  cases h : isCloser source p best with
  | false =>
    rw [if_neg Bool.false_ne_true]
    exact ⟨.refl source best, isCloser_eq_false_iff.mp h⟩
  | true =>
    rw [if_pos rfl]
    refine ⟨(AtLeastAsNear.total source p best).resolve_right fun hbest => ?_, .refl source p⟩
    rw [isCloser_eq_false_iff.mpr hbest] at h
    cases h

/-- Keeping the preferred one of two files leads to a file that precedes all of them. -/
theorem foldl_isCloser (source best : String) (cs : List String) :
    let kept := cs.foldl (fun best p => if isCloser source p best then p else best) best
    kept ∈ best :: cs ∧ ∀ d ∈ best :: cs, AtLeastAsNear source kept d := by
  induction cs generalizing best with
  | nil =>
    refine ⟨List.mem_cons_self, fun d hd => ?_⟩
    rw [List.mem_singleton.mp hd]
    exact .refl source best
  | cons c cs ih =>
    rw [List.foldl_cons]
    obtain ⟨hbest, hc⟩ := atLeastAsNear_preferred source c best
    have hmem : (if isCloser source c best then c else best) ∈ [best, c] := by split <;> simp
    obtain ⟨hkept, hleast⟩ := ih (if isCloser source c best then c else best)
    have hfirst := hleast _ List.mem_cons_self
    refine ⟨?_, fun d hd => ?_⟩
    · rcases List.mem_cons.mp hkept with heq | hkept
      · rw [heq]
        exact List.mem_append_left cs hmem
      · exact List.mem_append_right [best, c] hkept
    · rcases List.mem_cons.mp hd with rfl | hd
      · exact hfirst.trans hbest
      rcases List.mem_cons.mp hd with rfl | hd
      · exact hfirst.trans hc
      · exact hleast d (List.mem_cons_of_mem _ hd)

/-- The nearest candidate is the least one by distance and path. -/
theorem closest_eq_some_iff {source c : String} {cs : List String} :
    closest source cs = some c ↔ c ∈ cs ∧ ∀ d ∈ cs, AtLeastAsNear source c d := by
  cases cs with
  | nil => simp [closest]
  | cons x cs =>
    obtain ⟨hmem, hleast⟩ := foldl_isCloser source x cs
    rw [closest, Option.some_inj]
    constructor
    · rintro rfl
      exact ⟨hmem, hleast⟩
    · rintro ⟨hc, hle⟩
      exact (hleast c hc).antisymm (hle _ hmem)

/-- There is a nearest candidate if there is one at all. -/
theorem isSome_closest {source c : String} {cs : List String} (h : c ∈ cs) :
    (closest source cs).isSome = true := by
  cases cs with
  | nil => cases h
  | cons x cs => rfl

/-- The nearest candidate depends on the set of candidates only. -/
theorem closest_congr (source : String) {as bs : List String} (h : ∀ p, p ∈ as ↔ p ∈ bs) :
    closest source as = closest source bs := by
  ext c
  rw [closest_eq_some_iff, closest_eq_some_iff]
  simp only [h]

namespace Registry

variable {r r' : Registry} {files files' : List String} {ds ds' : List Definition}
variable {importer language : String} {candidates : List String} {allowBasename : Bool}
variable {res : Resolution}

/-- The nearest other file is one of the given ones. -/
theorem of_nearestOther?_eq_some {paths : List String} {strategy : Strategy}
    (h : nearestOther? importer paths strategy = some res) :
    res.target ∈ paths ∧ res.target ≠ importer ∧ res = .found res.target strategy := by
  obtain ⟨c, hc, rfl⟩ := Option.map_eq_some_iff.mp h
  obtain ⟨hmem, hother⟩ := List.mem_filter.mp (closest_eq_some_iff.mp hc).1
  exact ⟨hmem, of_decide_eq_true hother, rfl⟩

/-- There is a nearest other file if there is another file. -/
theorem isSome_nearestOther? {paths : List String} {p : String} (hp : p ∈ paths)
    (hother : p ≠ importer) (strategy : Strategy) :
    (nearestOther? importer paths strategy).isSome = true := by
  rw [nearestOther?, Option.isSome_map]
  exact isSome_closest (List.mem_filter.mpr ⟨hp, decide_eq_true hother⟩)

/-- The nearest other file depends on the set of files only. -/
theorem nearestOther?_congr {as bs : List String} (h : ∀ p, p ∈ as ↔ p ∈ bs) (importer : String)
    (strategy : Strategy) :
    nearestOther? importer as strategy = nearestOther? importer bs strategy := by
  rw [nearestOther?, nearestOther?, closest_congr]
  simp [h]

/-- The candidates that are tried. -/
def tried (importer : String) (candidates : List String) : List String :=
  candidates.filter fun c => c ≠ "" && c ≠ importer

/-- The candidates that are tried are neither empty nor the importer. -/
theorem mem_tried {c : String} :
    c ∈ tried importer candidates ↔ c ∈ candidates ∧ c ≠ "" ∧ c ≠ importer := by
  rw [tried, List.mem_filter, Bool.and_eq_true, decide_eq_true_iff, decide_eq_true_iff]

/-- The ways are tried one after the other. -/
theorem resolvePath_eq_orElse (r : Registry) (importer : String) (candidates : List String)
    (language : String) (allowBasename : Bool) :
    r.resolvePath importer candidates language allowBasename =
      (r.exactMatch? (tried importer candidates)
        <|> (tried importer candidates).findSome? (r.suffixMatch? importer)
        <|> (if allowBasename then
          (tried importer candidates).findSome? (r.stemMatch? importer language) else none)) :=
  rfl

/-- The first candidate that is a file is found exactly. -/
theorem eq_found_of_exactMatch? (h : r.exactMatch? candidates = some res) :
    res = .found res.target .exact := by
  obtain ⟨c, -, rfl⟩ := Option.map_eq_some_iff.mp h
  rfl

/-- Files that end like candidates are found as such. -/
theorem eq_found_of_suffixMatch? (h : candidates.findSome? (r.suffixMatch? importer) = some res) :
    res = .found res.target .rootRelative := by
  obtain ⟨c, -, hc⟩ := List.exists_of_findSome?_eq_some h
  obtain ⟨s, -, hs⟩ := List.exists_of_findSome?_eq_some hc
  exact (of_nearestOther?_eq_some hs).2.2

/-- Files with the stems of candidates are found as such. -/
theorem eq_found_of_stemMatch?
    (h : candidates.findSome? (r.stemMatch? importer language) = some res) :
    res = .found res.target .basename := by
  obtain ⟨c, -, hc⟩ := List.exists_of_findSome?_eq_some h
  unfold stemMatch? at hc
  exact (of_nearestOther?_eq_some (Option.ite_none_left_eq_some.mp hc).2).2.2

/-- The strategy of an answer is the way that led to it. -/
theorem strategy_of_eq_found {strategy : Strategy} (h : res = .found res.target strategy) :
    res.strategy = strategy :=
  congrArg Resolution.strategy h

/-- An answer is trusted as its strategy is. -/
theorem paired_of_resolvePath
    (h : r.resolvePath importer candidates language allowBasename = some res) : res.Paired := by
  rw [resolvePath_eq_orElse] at h
  rcases eq_some_or_of_orElse h with hexact | h
  · exact eq_found_of_exactMatch? hexact ▸ Resolution.paired_found _ _
  rcases eq_some_or_of_orElse h with hsuffix | hstem
  · exact eq_found_of_suffixMatch? hsuffix ▸ Resolution.paired_found _ _
  · obtain ⟨-, hstem⟩ := Option.ite_none_right_eq_some.mp hstem
    exact eq_found_of_stemMatch? hstem ▸ Resolution.paired_found _ _

/-- Registries with the same look-ups of files resolve candidates alike. -/
theorem resolvePath_congr (hexact : ∀ p, r.hasFile p = r'.hasFile p)
    (hsuffix : ∀ s p, p ∈ r.filesEndingWith s ↔ p ∈ r'.filesEndingWith s)
    (hstem : ∀ s p, p ∈ r.filesWithStem s ↔ p ∈ r'.filesWithStem s) :
    r.resolvePath importer candidates language allowBasename =
      r'.resolvePath importer candidates language allowBasename := by
  have hexact : r.exactMatch? = r'.exactMatch? := by
    funext candidates
    rw [exactMatch?, exactMatch?, funext hexact]
  have hsuffix : r.suffixMatch? = r'.suffixMatch? := by
    funext importer candidate
    simp only [suffixMatch?, nearestOther?_congr (hsuffix _)]
  have hstem : r.stemMatch? = r'.stemMatch? := by
    funext importer language candidate
    rw [stemMatch?, stemMatch?, nearestOther?_congr fun p => ?_]
    rw [List.mem_filter, List.mem_filter, hstem]
  simp only [resolvePath, hexact, hsuffix, hstem]

end Registry

/-! ### Matches -/

/-- A file matches a candidate in the way of a strategy. -/
def Strategy.Matches (language : String) (allowBasename : Bool) (path candidate : String) :
    Strategy → Prop
  | .exact => path = candidate
  | .rootRelative => ∃ s ∈ (Path.suffixes candidate).dropLast,
      Text.trimWhile (· = '/') s ∈ Path.suffixes path
  | .basename => allowBasename = true ∧ meaningfulStem candidate ≠ "" ∧
      Path.stem (Path.name path) = meaningfulStem candidate ∧
      ((extensionFamily language).any fun e => Text.endsWith e (Text.lower path)) = true

/-- An answer names one of some files, which matches a candidate, and neither is the importer. -/
structure Resolution.Fits (files : List String) (importer : String) (candidates : List String)
    (language : String) (allowBasename : Bool) (res : Resolution) : Prop where
  target_mem : res.target ∈ files
  target_ne : res.target ≠ importer
  matches_candidate : ∃ c ∈ candidates, (c ≠ "" ∧ c ≠ importer) ∧
    res.strategy.Matches language allowBasename res.target c

/-- What fits some files also fits more of them. -/
theorem Resolution.Fits.mono {files files' : List String} {importer language : String}
    {candidates : List String} {allowBasename : Bool} {res : Resolution}
    (h : res.Fits files importer candidates language allowBasename) (hsub : files ⊆ files') :
    res.Fits files' importer candidates language allowBasename :=
  ⟨hsub h.target_mem, h.target_ne, h.matches_candidate⟩

namespace Registry.Holds

variable {r r' : Registry} {files files' : List String} {ds ds' : List Definition}
variable {importer language candidate : String} {candidates : List String} {allowBasename : Bool}
variable {res : Resolution}

/-- A file that ends like a candidate matches it. -/
theorem matches_of_suffixMatch? (h : r.Holds files ds)
    (hres : r.suffixMatch? importer candidate = some res) :
    res.target ∈ files ∧ res.target ≠ importer ∧
      Strategy.rootRelative.Matches language allowBasename res.target candidate := by
  obtain ⟨s, hs, hnearest⟩ := List.exists_of_findSome?_eq_some hres
  obtain ⟨hmem, hother, -⟩ := of_nearestOther?_eq_some hnearest
  obtain ⟨hfile, hsuffix⟩ := h.mem_filesEndingWith.mp hmem
  exact ⟨hfile, hother, s, hs, hsuffix⟩

/-- A candidate that another file ends like is found. -/
theorem isSome_suffixMatch? (h : r.Holds files ds) {path : String} (hpath : path ∈ files)
    (hother : path ≠ importer)
    (hmatch : Strategy.rootRelative.Matches language allowBasename path candidate) :
    (r.suffixMatch? importer candidate).isSome = true := by
  obtain ⟨s, hs, hsuffix⟩ := hmatch
  rw [suffixMatch?, List.isSome_findSome?, List.any_eq_true]
  exact ⟨s, hs, isSome_nearestOther? (h.mem_filesEndingWith.mpr ⟨hpath, hsuffix⟩) hother _⟩

/-- A file with the stem of a candidate matches it. -/
theorem matches_of_stemMatch? (h : r.Holds files ds)
    (hres : r.stemMatch? importer language candidate = some res) :
    res.target ∈ files ∧ res.target ≠ importer ∧
      Strategy.basename.Matches language true res.target candidate := by
  unfold stemMatch? at hres
  obtain ⟨hstem, hnearest⟩ := Option.ite_none_left_eq_some.mp hres
  obtain ⟨hmem, hother, -⟩ := of_nearestOther?_eq_some hnearest
  obtain ⟨hmem, hfamily⟩ := List.mem_filter.mp hmem
  obtain ⟨hfile, hname⟩ := h.mem_filesWithStem.mp hmem
  exact ⟨hfile, hother, rfl, hstem, hname, hfamily⟩

/-- A candidate whose stem another file has is found. -/
theorem isSome_stemMatch? (h : r.Holds files ds) {path : String} (hpath : path ∈ files)
    (hother : path ≠ importer)
    (hmatch : Strategy.basename.Matches language allowBasename path candidate) :
    (r.stemMatch? importer language candidate).isSome = true := by
  obtain ⟨-, hstem, hname, hfamily⟩ := hmatch
  rw [stemMatch?, if_neg hstem]
  refine isSome_nearestOther? (List.mem_filter.mpr ⟨?_, hfamily⟩) hother _
  exact h.mem_filesWithStem.mpr ⟨hpath, hname⟩

/-! ### All ways in order -/

/-- A path is resolved to a file that fits. -/
theorem fits_of_resolvePath (h : r.Holds files ds)
    (hres : r.resolvePath importer candidates language allowBasename = some res) :
    res.Fits files importer candidates language allowBasename := by
  rw [resolvePath_eq_orElse] at hres
  rcases eq_some_or_of_orElse hres with hexact | hres
  · obtain ⟨c, hfound, rfl⟩ := Option.map_eq_some_iff.mp hexact
    obtain ⟨hc, htried⟩ := mem_tried.mp (List.mem_of_find?_eq_some hfound)
    exact ⟨(h.hasFile_iff c).mp (List.find?_some hfound), htried.2, c, hc, htried, rfl⟩
  rcases eq_some_or_of_orElse hres with hsuffix | hstem
  · obtain ⟨c, hkept, hfound⟩ := List.exists_of_findSome?_eq_some hsuffix
    obtain ⟨hc, htried⟩ := mem_tried.mp hkept
    obtain ⟨hmem, hother, hmatch⟩ := h.matches_of_suffixMatch? hfound
    have hstrategy := strategy_of_eq_found (eq_found_of_suffixMatch? hsuffix)
    exact ⟨hmem, hother, c, hc, htried, hstrategy ▸ hmatch⟩
  · obtain ⟨rfl, hstem⟩ := Option.ite_none_right_eq_some.mp hstem
    obtain ⟨c, hkept, hfound⟩ := List.exists_of_findSome?_eq_some hstem
    obtain ⟨hc, htried⟩ := mem_tried.mp hkept
    obtain ⟨hmem, hother, hmatch⟩ := h.matches_of_stemMatch? hfound
    have hstrategy := strategy_of_eq_found (eq_found_of_stemMatch? hstem)
    exact ⟨hmem, hother, c, hc, htried, hstrategy ▸ hmatch⟩

/-- A path is resolved to a registered file other than the importer. -/
theorem mem_of_resolvePath (h : r.Holds files ds)
    (hres : r.resolvePath importer candidates language allowBasename = some res) :
    res.target ∈ files ∧ res.target ≠ importer :=
  have hfits := h.fits_of_resolvePath hres
  ⟨hfits.target_mem, hfits.target_ne⟩

/-- A path is resolved exactly to the first candidate that is a file. -/
theorem resolvePath_eq_exact_iff (h : r.Holds files ds) {c : String} :
    r.resolvePath importer candidates language allowBasename = some (.found c .exact) ↔
      candidates.find? (fun c => c ≠ "" ∧ c ≠ importer ∧ c ∈ files) = some c := by
  have hfind : candidates.find? (fun c => c ≠ "" ∧ c ≠ importer ∧ c ∈ files) =
      (tried importer candidates).find? r.hasFile := by
    rw [tried, List.find?_filter]
    congr 1
    funext c
    rw [Bool.eq_iff_iff]
    simp [h.hasFile_iff, and_assoc]
  rw [hfind, resolvePath_eq_orElse]
  constructor
  · intro hres
    rcases eq_some_or_of_orElse hres with hexact | hres
    · obtain ⟨c', hfound, heq⟩ := Option.map_eq_some_iff.mp hexact
      obtain rfl : c' = c := congrArg Resolution.target heq
      exact hfound
    rcases eq_some_or_of_orElse hres with hsuffix | hstem
    · have hstrategy : Strategy.exact = .rootRelative :=
        strategy_of_eq_found (eq_found_of_suffixMatch? hsuffix)
      cases hstrategy
    · have hstrategy : Strategy.exact = .basename :=
        strategy_of_eq_found (eq_found_of_stemMatch? (Option.ite_none_right_eq_some.mp hstem).2)
      cases hstrategy
  · intro hfound
    rw [exactMatch?, hfound]
    rfl

/-- A path is resolved exactly if some candidate is a file. -/
theorem exists_exact_iff (h : r.Holds files ds) :
    (∃ res, r.resolvePath importer candidates language allowBasename = some res ∧
        res.strategy = .exact) ↔
      ∃ c ∈ candidates, c ≠ "" ∧ c ≠ importer ∧ c ∈ files := by
  have hstrategy : (∃ res, r.resolvePath importer candidates language allowBasename = some res ∧
      res.strategy = .exact) ↔
      ∃ c, r.resolvePath importer candidates language allowBasename = some (.found c .exact) := by
    constructor
    · rintro ⟨res, hres, hexact⟩
      exact ⟨res.target, hres.trans
        (congrArg some (hexact ▸ (paired_of_resolvePath hres).eq_found))⟩
    · rintro ⟨c, hres⟩
      exact ⟨_, hres, rfl⟩
  simp only [hstrategy, h.resolvePath_eq_exact_iff]
  rw [← Option.isSome_iff_exists, List.find?_isSome]
  simp only [decide_eq_true_iff]

/-- Registries that answer from the same files resolve candidates alike. -/
theorem resolvePath_congr (h : r.Holds files ds) (h' : r'.Holds files' ds')
    (hfiles : ∀ p, p ∈ files ↔ p ∈ files') :
    r.resolvePath importer candidates language allowBasename =
      r'.resolvePath importer candidates language allowBasename := by
  apply Registry.resolvePath_congr
  · intro p
    rw [Bool.eq_iff_iff, h.hasFile_iff, h'.hasFile_iff, hfiles]
  · intro s p
    rw [h.mem_filesEndingWith, h'.mem_filesEndingWith, hfiles]
  · intro s p
    rw [h.mem_filesWithStem, h'.mem_filesWithStem, hfiles]

/-- If a file fits then the path is resolved, with a strategy that is trusted no less. -/
theorem exists_resolvePath (h : r.Holds files ds)
    (hfits : res.Fits files importer candidates language allowBasename) :
    ∃ res', r.resolvePath importer candidates language allowBasename = some res' ∧
      res.strategy.tenths ≤ res'.strategy.tenths := by
  obtain ⟨hmem, hother, c, hc, htried, hmatch⟩ := hfits
  have hkept := mem_tried.mpr ⟨hc, htried⟩
  rw [resolvePath_eq_orElse]
  cases hexact : r.exactMatch? (tried importer candidates) with
  | some res' =>
    have hstrategy := strategy_of_eq_found (eq_found_of_exactMatch? hexact)
    exact ⟨res', rfl, hstrategy ▸ res.strategy.tenths_le_exact⟩
  | none =>
  cases hs : res.strategy with
  | exact =>
    rw [hs] at hmatch
    have hnone := List.find?_eq_none.mp (Option.map_eq_none_iff.mp hexact) c hkept
    exact absurd ((h.hasFile_iff c).mpr (hmatch ▸ hmem)) hnone
  | rootRelative =>
    rw [hs] at hmatch
    have hsome := List.isSome_findSome?.trans
      (List.any_eq_true.mpr ⟨c, hkept, h.isSome_suffixMatch? hmem hother hmatch⟩)
    obtain ⟨res', hsuffix⟩ := Option.isSome_iff_exists.mp hsome
    rw [hsuffix]
    have hstrategy := strategy_of_eq_found (eq_found_of_suffixMatch? hsuffix)
    exact ⟨res', rfl, hstrategy ▸ le_rfl⟩
  | basename =>
    rw [hs] at hmatch
    have hsome := List.isSome_findSome?.trans
      (List.any_eq_true.mpr ⟨c, hkept, h.isSome_stemMatch? hmem hother hmatch⟩)
    obtain ⟨res', hstem⟩ := Option.isSome_iff_exists.mp hsome
    rw [hmatch.1, if_pos rfl, hstem]
    cases (tried importer candidates).findSome? (r.suffixMatch? importer) with
    | some res' => exact ⟨res', rfl, res'.strategy.basename_le_tenths⟩
    | none => exact ⟨res', rfl, res'.strategy.basename_le_tenths⟩

end Registry.Holds

/-- A registry answers from the files that arrived. -/
theorem Registry.exists_holds (arrivals : List Arrival) :
    ∃ files ds, (arrivals.foldl receive Registry.empty).Holds files ds ∧
      ∀ p, p ∈ files ↔ p ∈ arrivals.map Arrival.path := by
  obtain ⟨files, h⟩ := Holds.empty.foldl_receive arrivals
  refine ⟨files, _, h, fun p => ?_⟩
  rw [← h.files, mem_files_foldl_receive]
  exact or_iff_right List.not_mem_nil

/--
A path is resolved to another file that arrived, and the answer is trusted as its strategy is. The
strategy is exact, with the first candidate that arrived, exactly if some candidate that is neither
empty nor the importer arrived. Only the set of files matters, not their order and not the
definitions that came with them. With more files a path that was resolved is still resolved, and the
answer is trusted no less.
-/
theorem Registry.resolvePath_laws (arrivals : List Arrival) (importer : String)
    (candidates : List String) (language : String) (allowBasename : Bool) :
    let files := fun arrivals : List Arrival => arrivals.map Arrival.path
    let resolve := fun arrivals : List Arrival =>
      (arrivals.foldl receive Registry.empty).resolvePath importer candidates language allowBasename
    (∀ res, resolve arrivals = some res →
      res.target ∈ files arrivals ∧ res.target ≠ importer ∧
        res.confidence = res.strategy.confidence) ∧
    (∀ c, resolve arrivals = some (.found c .exact) ↔
      candidates.find? (fun c => c ≠ "" ∧ c ≠ importer ∧ c ∈ files arrivals) = some c) ∧
    ((∃ res, resolve arrivals = some res ∧ res.strategy = .exact) ↔
      ∃ c ∈ candidates, c ≠ "" ∧ c ≠ importer ∧ c ∈ files arrivals) ∧
    (∀ arrivals', (∀ p, p ∈ files arrivals ↔ p ∈ files arrivals') →
      resolve arrivals = resolve arrivals') ∧
    ∀ arrivals', files arrivals ⊆ files arrivals' →
      ∀ res, resolve arrivals = some res → ∃ res', resolve arrivals' = some res' ∧
        res.confidence.toFloat ≤ res'.confidence.toFloat := by
  intro files resolve
  obtain ⟨fs, ds, h, hfs⟩ := exists_holds arrivals
  have hexact : ∀ c, resolve arrivals = some (.found c .exact) ↔
      candidates.find? (fun c => c ≠ "" ∧ c ≠ importer ∧ c ∈ files arrivals) = some c := by
    intro c
    simp only [files, ← hfs]
    exact h.resolvePath_eq_exact_iff
  refine ⟨fun res hres => ?_, hexact, ?_, fun arrivals' hsame => ?_,
    fun arrivals' hsub res hres => ?_⟩
  · obtain ⟨hmem, hother⟩ := h.mem_of_resolvePath hres
    exact ⟨(hfs res.target).mp hmem, hother, paired_of_resolvePath hres⟩
  · simp only [files, ← hfs]
    exact h.exists_exact_iff
  · obtain ⟨fs', ds', h', hfs'⟩ := exists_holds arrivals'
    exact h.resolvePath_congr h' fun p => (hfs p).trans ((hsame p).trans (hfs' p).symm)
  · obtain ⟨fs', ds', h', hfs'⟩ := exists_holds arrivals'
    have hfits := (h.fits_of_resolvePath hres).mono fun p hp =>
      (hfs' p).mpr (hsub ((hfs p).mp hp))
    obtain ⟨res', hres', hle⟩ := h'.exists_resolvePath hfits
    have hpaired := paired_of_resolvePath hres
    exact ⟨res', hres', (hpaired.confidence_le_iff (paired_of_resolvePath hres')).mpr hle⟩

end CodeGraph
