import CodeGraph.Text.CaseTable

/-!
# Lower case

The full lower-case mapping of a text. Two letters need more than a table row: the capital I with
a dot becomes two code points, and the capital sigma takes its final form at the end of a word.
-/

namespace CodeGraph.Text

/-- Whether a code point lies in one of the closed ranges. -/
def inRanges (ranges : List (Nat × Nat)) (c : Char) : Bool :=
  ranges.any fun (lo, hi) => lo ≤ c.toNat && c.toNat ≤ hi

/-- Lower-case form of a letter on its own. -/
def lowerChar (c : Char) : List Char :=
  if c.toNat < 0x80 then [c.toLower]
  else if c = 'İ' then ['i', Char.ofNat 0x307]
  else
    let row := CaseTable.lowerRuns.find? fun (first, last, step, _) =>
      first ≤ c.toNat && c.toNat ≤ last && (c.toNat - first) % step == 0
    match row with
    | some (_, _, _, offset) => [Char.ofNat (c.toNat + offset).toNat]
    | none => [c]

/-- The nearest code point that is not skipped carries case. -/
def nextIsCased (cs : List Char) : Bool :=
  match cs.dropWhile (inRanges CaseTable.skippedRanges) with
  | c :: _ => inRanges CaseTable.casedRanges c
  | [] => false

/-- Lower-case form of a list of code points, given the preceding ones in reverse. -/
def lowerChars (before : List Char) : List Char → List Char
  | [] => []
  | c :: cs =>
    let head :=
      if c = 'Σ' then [if nextIsCased before && !nextIsCased cs then 'ς' else 'σ']
      else lowerChar c
    head ++ lowerChars (c :: before) cs

/-- Lower-case form of a text. -/
def lower (s : String) : String :=
  String.ofList (lowerChars [] s.toList)

/-! ### Text in lower case -/

/-- Code points in lower case stay as they are, whatever stands before them. -/
theorem lowerChars_eq_self {cs : List Char} (h : ∀ c ∈ cs, c ≠ 'Σ' ∧ lowerChar c = [c])
    (before : List Char) : lowerChars before cs = cs := by
  induction cs generalizing before with
  | nil => rfl
  | cons c cs ih =>
    obtain ⟨hsigma, hlower⟩ := h c List.mem_cons_self
    rw [lowerChars, if_neg hsigma, hlower, ih fun d hd => h d (List.mem_cons_of_mem c hd)]
    rfl

/-- A text of code points in lower case is its own lower-case form. -/
theorem lower_eq_self {s : String} (h : ∀ c ∈ s.toList, c ≠ 'Σ' ∧ lowerChar c = [c]) :
    lower s = s := by
  rw [lower, lowerChars_eq_self h, String.ofList_toList]

/-- Code points in lower case end the lower-case form of what they end. -/
theorem suffix_lowerChars_append {ds : List Char} (h : ∀ d ∈ ds, d ≠ 'Σ' ∧ lowerChar d = [d])
    (before cs : List Char) : ds <:+ lowerChars before (cs ++ ds) := by
  induction cs generalizing before with
  | nil => exact (lowerChars_eq_self h before).symm ▸ List.suffix_refl ds
  | cons c cs ih => exact (ih (c :: before)).trans (List.suffix_append _ _)

end CodeGraph.Text
