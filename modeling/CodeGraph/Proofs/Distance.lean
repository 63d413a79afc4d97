import CodeGraph.Proofs.Directories
import CodeGraph.Proofs.Matching

/-!
# How far files lie apart

The distance of two files is read off the segments of their paths: the longer path is counted from
where the two part, and one step is taken off if they part at the last segment of the shorter one.
Nothing ever cuts that number off at zero, it does not depend on the direction, and only files of
one directory have distance zero. So the nearest file is one of the importer's own directory as
soon as there is one.

## Main definitions

* `signedDistance`: the distance, with subtraction that may go below zero.
* `SameFolder`: two paths have the same segments in front of their last ones.

## Main results

* `importDistance_eq_signedDistance`: the distance never goes below zero.
* `importDistance_comm`, `importDistance_eq_zero_iff`: it is symmetric, and when it is zero.
* `closest_laws`: the laws of distance and nearest file.
-/

namespace CodeGraph

/-! ### Equal leading items -/

theorem commonLength_le_left : ∀ a b : List String, commonLength a b ≤ a.length
  | [], _ => Nat.zero_le _
  | _ :: _, [] => Nat.zero_le _
  | x :: xs, y :: ys => by
    have hrest := commonLength_le_left xs ys
    rw [commonLength, List.length_cons]
    split <;> omega

theorem commonLength_comm : ∀ a b : List String, commonLength a b = commonLength b a
  | [], [] => rfl
  | [], _ :: _ => rfl
  | _ :: _, [] => rfl
  | x :: xs, y :: ys => by
    rw [commonLength, commonLength, commonLength_comm xs ys]
    simp only [eq_comm]

theorem commonLength_le_right (a b : List String) : commonLength a b ≤ b.length :=
  commonLength_comm a b ▸ commonLength_le_left b a

/-- Up to the counted length, the items are equal. -/
theorem take_commonLength : ∀ a b : List String,
    a.take (commonLength a b) = b.take (commonLength a b)
  | [], _ => rfl
  | _ :: _, [] => rfl
  | x :: xs, y :: ys => by
    rw [commonLength]
    split
    · next heq => rw [List.take_succ_cons, List.take_succ_cons, take_commonLength xs ys, heq]
    · rw [List.take_zero, List.take_zero]

/-- Equal items in front are all counted. -/
theorem commonLength_append (front a b : List String) :
    commonLength (front ++ a) (front ++ b) = front.length + commonLength a b := by
  induction front with
  | nil => simp
  | cons x front ih =>
    rw [List.cons_append, List.cons_append, commonLength, if_pos rfl, ih, List.length_cons]
    omega

/-! ### Distance -/

/-- The distance of two files, with subtraction that may go below zero. -/
def signedDistance (source target : String) : Int :=
  let a := Text.segments '/' source
  let b := Text.segments '/' target
  let common : Int := commonLength a b
  let distance := max (a.length : Int) b.length - common
  if common = min (a.length : Int) b.length - 1 then distance - 1 else distance

/-- No subtraction goes below zero: paths that part are not both at their end. -/
theorem importDistance_eq_signedDistance (source target : String) :
    (importDistance source target : Int) = signedDistance source target := by
  have hleft := commonLength_le_left (Text.segments '/' source) (Text.segments '/' target)
  have hright := commonLength_le_right (Text.segments '/' source) (Text.segments '/' target)
  simp only [importDistance, signedDistance]
  split <;> split <;> omega

/-- The distance is the same in both directions. -/
theorem importDistance_comm (source target : String) :
    importDistance source target = importDistance target source := by
  simp only [importDistance, commonLength_comm (Text.segments '/' source), max_comm, min_comm]

/-- Two paths have the same segments in front of their last ones. -/
def SameFolder (a b : String) : Prop :=
  (Text.segments '/' a).dropLast = (Text.segments '/' b).dropLast

/-- Two paths with segments are in the same folder if they are equal or differ in the last one. -/
theorem sameFolder_iff {a b : String} (ha : Text.segments '/' a ≠ [])
    (hb : Text.segments '/' b ≠ []) :
    SameFolder a b ↔ Text.segments '/' a = Text.segments '/' b ∨
      ∃ folder x y, x ≠ y ∧ Text.segments '/' a = folder ++ [x] ∧
        Text.segments '/' b = folder ++ [y] := by
  constructor
  · intro h
    have hlast := List.dropLast_append_getLast ha
    have hlast' := List.dropLast_append_getLast hb
    rw [show (Text.segments '/' a).dropLast = (Text.segments '/' b).dropLast from h] at hlast
    by_cases hxy : (Text.segments '/' a).getLast ha = (Text.segments '/' b).getLast hb
    · rw [hxy, hlast'] at hlast
      exact .inl hlast.symm
    · exact .inr ⟨_, _, _, hxy, hlast.symm, hlast'.symm⟩
  · rintro (h | ⟨folder, x, y, -, hx, hy⟩)
    · rw [SameFolder, h]
    · rw [SameFolder, hx, hy, List.dropLast_concat, List.dropLast_concat]

/-- Exactly the files of one folder have distance zero. -/
theorem importDistance_eq_zero_iff {source target : String}
    (hsource : Text.segments '/' source ≠ []) (htarget : Text.segments '/' target ≠ []) :
    importDistance source target = 0 ↔ SameFolder source target := by
  constructor
  · intro h
    have hpos := List.length_pos_iff.mpr hsource
    have hpos' := List.length_pos_iff.mpr htarget
    have hleft := commonLength_le_left (Text.segments '/' source) (Text.segments '/' target)
    have hright := commonLength_le_right (Text.segments '/' source) (Text.segments '/' target)
    have htake := take_commonLength (Text.segments '/' source) (Text.segments '/' target)
    simp only [importDistance] at h
    rw [SameFolder]
    generalize Text.segments '/' source = a at *
    generalize Text.segments '/' target = b at *
    -- as many segments on both sides, and at most the last ones are not counted
    obtain ⟨hlength, hcommon⟩ : a.length = b.length ∧ a.length - 1 ≤ commonLength a b := by
      split at h <;> omega
    calc a.dropLast = (a.take (commonLength a b)).take (a.length - 1) := by
          rw [List.dropLast_eq_take, List.take_take, Nat.min_eq_left hcommon]
      _ = (b.take (commonLength a b)).take (b.length - 1) := by rw [htake, hlength]
      _ = b.dropLast := by
          rw [List.dropLast_eq_take, List.take_take, Nat.min_eq_left (hlength ▸ hcommon)]
  · rw [sameFolder_iff hsource htarget]
    rintro (heq | ⟨folder, x, y, hxy, hx, hy⟩)
    · have hcommon := commonLength_append (Text.segments '/' target) [] []
      simp only [List.append_nil] at hcommon
      simp only [importDistance, heq, hcommon]
      simp [commonLength]
    · simp only [importDistance, hx, hy, commonLength_append]
      simp [commonLength, hxy]

/-! ### The nearest file -/

/-- If some candidate lies in the folder of the importer, then the nearest one does. -/
theorem sameFolder_closest {source c : String} {cs : List String}
    (hsource : Text.segments '/' source ≠ []) (hcs : ∀ d ∈ cs, Text.segments '/' d ≠ [])
    (hc : closest source cs = some c) (h : ∃ d ∈ cs, SameFolder source d) :
    SameFolder source c := by
  obtain ⟨hmem, hleast⟩ := closest_eq_some_iff.mp hc
  obtain ⟨d, hd, hsame⟩ := h
  have hzero := (importDistance_eq_zero_iff hsource (hcs d hd)).mpr hsame
  have hle : importDistance source c ≤ importDistance source d :=
    (hleast d hd).elim Nat.le_of_lt fun h => h.1.le
  exact (importDistance_eq_zero_iff hsource (hcs c hmem)).mp (by omega)

/--
The distance of two paths with segments is symmetric and never negative, and it is zero exactly if
their segments are equal or differ in the last one only. Of some candidates the nearest one is the
least by distance and path. It does not depend on their order, and it lies in the folder of the
importer if any of them does.
-/
theorem closest_laws (source : String) (cs : List String)
    (hsource : Text.segments '/' source ≠ []) (hcs : ∀ c ∈ cs, Text.segments '/' c ≠ []) :
    (∀ target, Text.segments '/' target ≠ [] →
      (importDistance source target : Int) = signedDistance source target ∧
      0 ≤ signedDistance source target ∧
      importDistance target source = importDistance source target ∧
      (importDistance source target = 0 ↔
        Text.segments '/' source = Text.segments '/' target ∨
          ∃ folder x y, x ≠ y ∧ Text.segments '/' source = folder ++ [x] ∧
            Text.segments '/' target = folder ++ [y])) ∧
    (cs ≠ [] → ∃ c ∈ cs, closest source cs = some c ∧ ∀ d ∈ cs, AtLeastAsNear source c d) ∧
    (∀ cs', cs.Perm cs' → closest source cs' = closest source cs) ∧
    ∀ c, closest source cs = some c → (∃ d ∈ cs, SameFolder source d) → SameFolder source c := by
  refine ⟨fun target htarget => ⟨importDistance_eq_signedDistance source target, ?_,
    importDistance_comm target source, ?_⟩, fun hne => ?_, fun cs' hperm => ?_,
    fun c => sameFolder_closest hsource hcs⟩
  · rw [← importDistance_eq_signedDistance]
    exact Int.natCast_nonneg _
  · rw [importDistance_eq_zero_iff hsource htarget, sameFolder_iff hsource htarget]
  · obtain ⟨d, hd⟩ := List.exists_mem_of_ne_nil cs hne
    have hsome : (closest source cs).isSome = true := isSome_closest hd
    obtain ⟨c, hc⟩ := Option.isSome_iff_exists.mp hsome
    obtain ⟨hmem, hleast⟩ := closest_eq_some_iff.mp hc
    exact ⟨c, hmem, hc, hleast⟩
  · exact closest_congr source fun p => hperm.mem_iff.symm

/-- A file of the importer's own folder is nearest, before files above and below in path order. -/
theorem closest_laws_sibling :
    let cs := ["a/b.py", "a/b/c/d.py", "a/b/z.py", "w.py"]
    Text.segments '/' "a/b/x.py" ≠ [] ∧ (∀ c ∈ cs, Text.segments '/' c ≠ []) ∧
    ∃ c ∈ cs, closest "a/b/x.py" cs = some c ∧ closest "a/b/x.py" cs.reverse = some c ∧
      SameFolder "a/b/x.py" c := by
  intro cs
  have hsource : Text.segments '/' "a/b/x.py" ≠ [] := by decide
  have hcs : ∀ c ∈ cs, Text.segments '/' c ≠ [] := by decide
  have hsibling : ∃ d ∈ cs, SameFolder "a/b/x.py" d :=
    ⟨"a/b/z.py", by decide, show _ = _ by decide⟩
  obtain ⟨-, hnearest, hperm, hfolder⟩ := closest_laws "a/b/x.py" cs hsource hcs
  obtain ⟨c, hmem, hc, -⟩ := hnearest (List.cons_ne_nil _ _)
  exact ⟨hsource, hcs, c, hmem, hc, (hperm _ cs.reverse_perm.symm).trans hc,
    hfolder c hc hsibling⟩

end CodeGraph
