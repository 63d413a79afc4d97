import CodeGraph.Proofs.Clashes

/-!
# The lines that configuration files are read off

A harvested definition stands for one line of its file: it carries the number of the line and the
span of its bytes, also where a name was searched for and not found, since the first line stands in.
Files that are read line by line take each name out of its line, and no line gives two. So their
definitions follow each other, and the texts behind their identifiers differ, whatever colons their
names hold.

## Main definitions

* `Manifest.StandsFor`: a definition has the number and the bytes of a line.
* `Manifest.ReadsOff`: a reader finds names in the lines themselves.

## Main results

* `Manifest.Harvested.standsFor`: what is harvested stands for a line.
* `Manifest.Harvested.idSource_ne`: definitions on different lines have different texts.
* `Manifest.harvest_stands_for_lines`: the lines of all harvested definitions.
-/

namespace CodeGraph

/-! ### Parts of a text -/

namespace Text

/-- Cutting both ends leaves a part of the text. -/
theorem trimWhile_infix (p : Char → Bool) (s : String) :
    (trimWhile p s).toList <:+: s.toList := by
  have hstart : (trimStartWhile p s).toList <:+ s.toList := by
    rw [trimStartWhile, String.toList_ofList]
    exact List.dropWhile_suffix p
  have hend : (trimWhile p s).toList <+: (trimStartWhile p s).toList := by
    rw [trimWhile, trimEndWhile, String.toList_ofList, ← List.reverse_suffix, List.reverse_reverse]
    exact List.dropWhile_suffix p
  exact hend.isInfix.trans hstart.isInfix

/-- What stands before a text is the beginning. -/
theorem before_prefix (needle s : String) : (before needle s).toList <+: s.toList := by
  unfold before
  split
  · rw [String.toList_ofList]
    exact List.take_prefix _ _
  · exact List.prefix_rfl

end Text

namespace Manifest

variable {path content : String} {ls : Lines} {d e : Definition}

/-! ### Readers of lines -/

/-- A reader finds names in the lines themselves. -/
def ReadsOff (name? : String → Option String) : Prop :=
  ∀ line name, name? line = some name → name.toList <:+: line.toList

theorem readsOff_baseImage? : ReadsOff baseImage? := by
  intro line image h
  unfold baseImage? at h
  dsimp only at h
  split at h
  · obtain ⟨-, himage⟩ := Option.ite_none_left_eq_some.mp h
    rw [← Option.some.inj himage]
    have hrest : (Text.drop 5 (Text.trim line)).toList <:+ (Text.trim line).toList := by
      rw [Text.drop, String.toList_ofList]
      exact List.drop_suffix 5 _
    have hbefore := (Text.before_prefix " as " _).trans
      (Text.before_prefix " AS " (Text.drop 5 (Text.trim line)))
    exact (Text.trimWhile_infix _ _).trans
      (hbefore.isInfix.trans (hrest.isInfix.trans (Text.trimWhile_infix _ _)))
  · cases h

/-- A name before an equals sign is the beginning. -/
theorem prefix_of_assignedName? {cs : List Char} {name : String}
    (h : assignedName? cs = some name) : name.toList <+: cs := by
  have hprefix := List.takeWhile_prefix (l := cs) isNameChar
  unfold assignedName? at h
  dsimp only at h
  split at h
  · next c rest hname =>
    obtain ⟨-, h⟩ := Option.ite_none_right_eq_some.mp h
    rw [← Option.some.inj h, String.toList_ofList]
    exact hprefix
  · cases h

/-- What follows the word is the end. -/
theorem suffix_of_afterExport? {cs rest : List Char} (h : afterExport? cs = some rest) :
    rest <:+ cs := by
  unfold afterExport? at h
  dsimp only at h
  obtain ⟨-, h⟩ := Option.ite_none_right_eq_some.mp h
  obtain ⟨-, h⟩ := Option.ite_none_right_eq_some.mp h
  rw [← Option.some.inj h]
  exact (List.dropWhile_suffix Text.isBlank).trans (List.drop_suffix _ cs)

theorem readsOff_variableName? : ReadsOff variableName? := by
  intro line name h
  have hblank : line.toList.dropWhile Text.isBlank <:+ line.toList :=
    List.dropWhile_suffix Text.isBlank
  unfold variableName? at h
  dsimp only at h
  obtain ⟨-, h⟩ := Option.ite_none_left_eq_some.mp h
  rw [Option.orElse_eq_orElse, Option.orElse_eq_or] at h
  rcases Option.or_eq_some_iff.mp h with h | ⟨-, h⟩
  · obtain ⟨rest, hrest, hname⟩ := Option.bind_eq_some_iff.mp h
    have hsuffix := (suffix_of_afterExport? hrest).trans hblank
    exact (prefix_of_assignedName? hname).isInfix.trans hsuffix.isInfix
  · exact (prefix_of_assignedName? h).isInfix.trans hblank.isInfix

theorem readsOff_requiredName? : ReadsOff requiredName? := by
  intro line name h
  have htrim := Text.trimWhile_infix Text.isBlank line
  have hblank : (Text.trim line).toList.dropWhile Text.isBlank <:+ (Text.trim line).toList :=
    List.dropWhile_suffix Text.isBlank
  unfold requiredName? requirementName? at h
  dsimp only at h
  obtain ⟨-, h⟩ := Option.ite_none_left_eq_some.mp h
  split at h
  · obtain ⟨-, h⟩ := Option.ite_none_right_eq_some.mp h
    rw [← Option.some.inj h, String.toList_ofList]
    exact (List.takeWhile_prefix isRequirementChar).isInfix.trans (hblank.isInfix.trans htrim)
  · cases h

/-- The reader of a format that is read line by line. -/
def Format.reader? : Format → Option (String → Option String)
  | dockerfile => some baseImage?
  | dotenv => some variableName?
  | requirements => some requiredName?
  | packageJson | tsconfig | pyproject => none

/-- All these readers find names in the lines. -/
theorem Format.readsOff {format : Format} {name? : String → Option String}
    (h : format.reader? = some name?) : ReadsOff name? := by
  cases format with
  | dockerfile => exact Option.some.inj h ▸ readsOff_baseImage?
  | dotenv => exact Option.some.inj h ▸ readsOff_variableName?
  | requirements => exact Option.some.inj h ▸ readsOff_requiredName?
  | packageJson | tsconfig | pyproject => cases h

/-! ### Lines of definitions -/

/-- A definition has the number of a line of a text, and the line's bytes are its own. -/
structure StandsFor (content : String) (n : Nat) (line : String) (d : Definition) : Prop where
  number : 1 ≤ n ∧ n ≤ (Text.split '\n' content).length
  listed : (Text.split '\n' content)[n - 1]? = some line
  lines : d.startLine = n ∧ d.endLine = n
  bytes : ∃ start stop : Nat, d.startByte = start ∧ d.endByte = stop ∧
    stop ≤ Utf8.size content ∧ content.toUTF8.extract start stop = line.toUTF8

/-- What is harvested stands for a line. -/
theorem Harvested.standsFor (h : Harvested path (.ofText content) d) :
    ∃ n line, StandsFor content n line d := by
  obtain ⟨name, kind, n, -, hn, rfl⟩ := h
  have hlt : n - 1 < (Text.split '\n' content).length := by
    have hpos := hn.1
    have hle : n ≤ (Text.split '\n' content).length := hn.2
    omega
  have hline := List.getElem?_eq_getElem hlt
  obtain ⟨hstop, hextract⟩ := hn.extract_span hline
  exact ⟨n, _, hn, hline, ⟨rfl, rfl⟩, _, _, rfl, rfl, hstop, hextract⟩

/-- A definition on a later line starts later. -/
theorem Harvested.startByte_lt (hd : Harvested path ls d) (he : Harvested path ls e)
    (h : d.startLine < e.startLine) : d.startByte < e.startByte := by
  obtain ⟨_, _, m, -, hm, rfl⟩ := hd
  obtain ⟨_, _, n, -, hn, rfl⟩ := he
  have hmn : m < n := Int.ofNat_lt.mp h
  exact Int.ofNat_lt.mpr (hm.span_lt_span hn hmn)

/-- The texts behind the identifiers of definitions on different lines of a file differ. -/
theorem Harvested.idSource_ne (hd : Harvested path ls d) (he : Harvested path ls e)
    (h : d.startLine < e.startLine) : d.idSource ≠ e.idSource := by
  have hstart := hd.startByte_lt he h
  have hpath : d.filePath = e.filePath := hd.authentic.filePath.trans he.authentic.filePath.symm
  intro htext
  rcases Definition.idSource_eq_iff.mp htext with ⟨-, hsame⟩ | hoverlap | hoverlap
  · obtain ⟨-, hbyte, -⟩ := Definition.sameEntity_iff.mp hsame
    omega
  · exact hoverlap.filePath_ne hpath
  · exact hoverlap.filePath_ne hpath.symm

/-- Files that are read line by line have their definitions in the order of the lines. -/
theorem pairwise_startLine_harvestLines (path : String) (ls : Lines)
    (name? : String → Option String) :
    (harvestLines path ls name?).Pairwise fun d e => d.startLine < e.startLine := by
  refine ls.pairwise_numbered.filterMap _ fun a b hab d hd e he => ?_
  obtain ⟨name, -, rfl⟩ := Option.map_eq_some_iff.mp hd
  obtain ⟨name', -, rfl⟩ := Option.map_eq_some_iff.mp he
  exact Int.ofNat_lt.mpr hab

/-- Their names are found in their lines. -/
theorem infix_of_mem_harvestLines {name? : String → Option String} (hreads : ReadsOff name?)
    (hd : d ∈ harvestLines path (.ofText content) name?) {n : Nat} {line : String}
    (h : StandsFor content n line d) : d.name.toList <:+: line.toList := by
  obtain ⟨⟨m, l⟩, hmem, hl⟩ := List.mem_filterMap.mp hd
  obtain ⟨name, hname, rfl⟩ := Option.map_eq_some_iff.mp hl
  obtain rfl : m = n := Int.ofNat_inj.mp h.lines.1
  obtain rfl : l = line := Option.some.inj ((Lines.mem_numbered hmem).2.symm.trans h.listed)
  exact hreads l name hname

/-- A file of a format that is read line by line has the definitions that its reader finds. -/
theorem harvest_eq_harvestLines {format : Format} {name? : String → Option String}
    (hformat : Format.ofName? (Text.lower (Path.name path)) = some format)
    (hreader : format.reader? = some name?) :
    harvest path content = .ok (harvestLines path (.ofText content) name?) := by
  unfold harvest
  rw [hformat]
  cases format with
  | dockerfile | dotenv | requirements => rw [← Option.some.inj hreader]
  | packageJson | tsconfig | pyproject => cases hreader

/--
Each definition that is harvested stands for a line of its file. In container files, environment
files and lists of requirements, definitions stand on increasing lines, have names that occur in
their lines, and have identifiers that are digests of different texts.
-/
theorem harvest_stands_for_lines (path content : String) {ds : List Definition}
    (h : harvest path content = .ok ds) :
    (∀ d ∈ ds, ∃ n line, StandsFor content n line d) ∧
    ∀ format, Format.ofName? (Text.lower (Path.name path)) = some format →
      format ∈ [.dockerfile, .dotenv, .requirements] →
      ds.Pairwise (fun d e => d.startLine < e.startLine) ∧
      (∀ d ∈ ds, ∀ n line, StandsFor content n line d → d.name.toList <:+: line.toList) ∧
      (∀ d ∈ ds, d.nodeId = Identifier.digest d.idSource) ∧
      ds.Pairwise fun d e => d.idSource ≠ e.idSource := by
  have hharvested := harvested_of_harvest h
  refine ⟨fun d hd => (hharvested d hd).standsFor, fun format hformat hmem => ?_⟩
  obtain ⟨name?, hreader⟩ : ∃ name?, format.reader? = some name? := by
    simp only [List.mem_cons, List.not_mem_nil, or_false] at hmem
    rcases hmem with rfl | rfl | rfl
    · exact ⟨baseImage?, rfl⟩
    · exact ⟨variableName?, rfl⟩
    · exact ⟨requiredName?, rfl⟩
  obtain rfl : harvestLines path (.ofText content) name? = ds :=
    Except.ok.inj ((harvest_eq_harvestLines hformat hreader).symm.trans h)
  have hlines := pairwise_startLine_harvestLines path (.ofText content) name?
  refine ⟨hlines, fun d hd n line => infix_of_mem_harvestLines (Format.readsOff hreader) hd,
    fun d hd => (hharvested d hd).authentic.nodeId, hlines.imp_of_mem fun hd he hlt => ?_⟩
  exact (hharvested _ hd).idSource_ne (hharvested _ he) hlt

/-! ### An environment file -/

/-- A comment, a variable, an empty line and another variable; two letters take two bytes each. -/
def environment : String :=
  "# clé\nA=ü\n\nexport B = x:y"

/-- Its two variables stand for the second and the last line. -/
theorem harvest_stands_for_lines_environment :
    ∃ d e, harvest "app/.env" environment = .ok [d, e] ∧
      StandsFor environment 2 "A=ü" d ∧ StandsFor environment 4 "export B = x:y" e ∧
      d.name.toList <:+: "A=ü".toList ∧ e.name.toList <:+: "export B = x:y".toList ∧
      d.startLine < e.startLine ∧ d.idSource ≠ e.idSource := by
  have h : harvest "app/.env" environment =
      .ok [(Lines.ofText environment).define "app/.env" "A" .variableDecl 2,
        (Lines.ofText environment).define "app/.env" "B" .variableDecl 4] := rfl
  have hsplit : Text.split '\n' environment = ["# clé", "A=ü", "", "export B = x:y"] := by decide
  obtain ⟨hall, hlined⟩ := harvest_stands_for_lines "app/.env" environment h
  obtain ⟨hlines, hnames, -, htexts⟩ := hlined .dotenv rfl (by decide)
  obtain ⟨m, line, hd⟩ := hall _ List.mem_cons_self
  obtain ⟨n, line', he⟩ := hall _ (List.mem_cons_of_mem _ List.mem_cons_self)
  obtain rfl : 2 = m := Int.ofNat_inj.mp hd.lines.1
  obtain rfl : 4 = n := Int.ofNat_inj.mp he.lines.1
  have hline := hd.listed
  have hline' := he.listed
  rw [hsplit] at hline hline'
  obtain rfl : "A=ü" = line := Option.some.inj hline
  obtain rfl : "export B = x:y" = line' := Option.some.inj hline'
  exact ⟨_, _, h, hd, he, hnames _ List.mem_cons_self _ _ hd,
    hnames _ (List.mem_cons_of_mem _ List.mem_cons_self) _ _ he,
    List.rel_of_pairwise_cons hlines List.mem_cons_self,
    List.rel_of_pairwise_cons htexts List.mem_cons_self⟩

end Manifest

end CodeGraph
