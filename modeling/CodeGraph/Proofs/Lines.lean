import CodeGraph.Manifest.Lines
import CodeGraph.Proofs.Path

/-!
# Lines and their bytes

A text is its lines with line feeds between them. So the lines before a line, each with its line
feed, take up all bytes before it, and its own bytes follow them.

## Main definitions

* `Manifest.Lines.Holds`: the numbers of lines, from one on.

## Main results

* `Text.exists_join_eq`: what stands around a piece of a joined text.
* `Manifest.Lines.holds_find`: a search always ends at a line.
* `Manifest.Lines.Holds.extract_span`: the span of a line holds its bytes.
* `Manifest.Lines.Holds.span_lt_span`: the span of a later line starts later.
-/

namespace CodeGraph

/-- Around a piece of a joined text stand the pieces before it, each with its glue, and the rest. -/
theorem Text.exists_join_eq (glue : String) {pieces : List String} {i : Nat} {piece : String}
    (h : pieces[i]? = some piece) :
    ∃ front back, join glue pieces = front ++ piece ++ back ∧
      Utf8.size front =
        Count.total ((pieces.take i).map fun p => Utf8.size p + Utf8.size glue) := by
  induction pieces generalizing i with
  | nil => cases h
  | cons first rest ih =>
    cases i with
    | zero =>
      obtain rfl := Option.some.inj h
      cases rest with
      | nil => exact ⟨"", "", by simp, rfl⟩
      | cons second rest =>
        refine ⟨"", glue ++ join glue (second :: rest), ?_, rfl⟩
        rw [join_cons_of_ne_nil glue first (List.cons_ne_nil second rest)]
        simp [String.append_assoc]
    | succ i =>
      have hrest : rest[i]? = some piece := h
      obtain ⟨front, back, hjoin, hsize⟩ := ih hrest
      have hne : rest ≠ [] := by
        rintro rfl
        cases hrest
      refine ⟨first ++ glue ++ front, back, ?_, ?_⟩
      · rw [join_cons_of_ne_nil glue first hne, hjoin]
        simp [String.append_assoc]
      · rw [List.take_succ_cons, List.map_cons, Count.total_cons, ← hsize]
        simp [Utf8.size]

/-- The bytes of a part of a text are those behind the bytes of what stands before it. -/
theorem Utf8.extract_append (front part back : String) :
    (front ++ part ++ back).toUTF8.extract (size front) (size front + size part) = part.toUTF8 := by
  simp only [String.toUTF8_eq_toByteArray, String.toByteArray_append, size]
  have hsizes : front.utf8ByteSize + part.utf8ByteSize =
      front.toByteArray.size + part.toByteArray.size := by
    rw [String.size_toByteArray, String.size_toByteArray]
  have hpart := ByteArray.extract_append_eq_right String.size_toByteArray.symm hsizes
  rw [ByteArray.extract_append, hpart]
  simp

namespace Manifest.Lines

variable {ls : Lines} {n : Nat} {line : String}

/-- A text has a line of a number. -/
def Holds (ls : Lines) (n : Nat) : Prop :=
  1 ≤ n ∧ n ≤ ls.lines.length

/-- The line of a number stands one place before it. -/
theorem Holds.index_eq (h : ls.Holds n) : ls.index n = n - 1 := by
  obtain ⟨hpos, hle⟩ := h
  rw [index]
  omega

theorem lines_ofText_ne_nil (content : String) : (ofText content).lines ≠ [] :=
  Text.split_ne_nil '\n' content

/-- A search ends at a line that holds the text, or at the first line. -/
theorem holds_find (hne : ls.lines ≠ []) (needle : String) {start : Nat} (hstart : 1 ≤ start) :
    ls.Holds (ls.find needle start) := by
  unfold find
  split
  · next i hi =>
    obtain ⟨hlt, -⟩ := List.findIdx?_eq_some_iff_getElem.mp hi
    rw [List.length_drop] at hlt
    exact ⟨by omega, by omega⟩
  · exact ⟨Nat.le_refl 1, List.length_pos_of_ne_nil hne⟩

/-- What is numbered is a line with its number. -/
theorem mem_numbered (h : (n, line) ∈ ls.numbered) :
    ls.Holds n ∧ ls.lines[n - 1]? = some line := by
  obtain ⟨⟨l, i⟩, hmem, heq⟩ := List.mem_map.mp h
  obtain ⟨rfl, rfl⟩ := Prod.mk.inj heq
  obtain ⟨hlt, hline⟩ := List.mem_zipIdx' hmem
  refine ⟨⟨by omega, by omega⟩, ?_⟩
  rw [Nat.add_sub_cancel, List.getElem?_eq_getElem hlt, ← hline]

/-- Lines are numbered in order. -/
theorem pairwise_numbered (ls : Lines) : ls.numbered.Pairwise fun a b => a.1 < b.1 := by
  have hzip : ls.lines.zipIdx.Pairwise fun a b => a.2 < b.2 := by
    rw [← List.pairwise_map (f := Prod.snd) (R := (· < ·)), List.zipIdx_map_snd]
    exact List.pairwise_lt_range'
  exact List.pairwise_map.mpr (hzip.imp fun h => Nat.succ_lt_succ h)

/-- The span of a line starts behind all lines before it and their line feeds. -/
theorem Holds.span_fst (h : ls.Holds n) :
    (ls.span n).1 = Count.total ((ls.lines.take (n - 1)).map fun l => Utf8.size l + 1) := by
  rw [span, h.index_eq]

/-- The span of a line is as long as the line. -/
theorem Holds.span_snd (h : ls.Holds n) (hline : ls.lines[n - 1]? = some line) :
    (ls.span n).2 = (ls.span n).1 + Utf8.size line := by
  rw [h.span_fst, span, h.index_eq, List.getD_eq_getElem?_getD, hline, Option.getD_some]

/-- The span of a line lies in the text, and its bytes are those of the line. -/
theorem Holds.extract_span {content : String} (h : (ofText content).Holds n)
    (hline : (ofText content).lines[n - 1]? = some line) :
    ((ofText content).span n).2 ≤ Utf8.size content ∧
      content.toUTF8.extract ((ofText content).span n).1 ((ofText content).span n).2 =
        line.toUTF8 := by
  obtain ⟨front, back, hjoin, hsize⟩ := Text.exists_join_eq "\n" hline
  have hcontent : content = front ++ line ++ back :=
    (Text.join_split_of rfl content).symm.trans hjoin
  have hstart : ((ofText content).span n).1 = Utf8.size front := h.span_fst.trans hsize.symm
  rw [h.span_snd hline, hstart, hcontent]
  refine ⟨?_, Utf8.extract_append front line back⟩
  simp only [Utf8.size, String.utf8ByteSize_append]
  omega

/-- The span of a later line starts behind that of an earlier one. -/
theorem Holds.span_lt_span {m : Nat} (hm : ls.Holds m) (hn : ls.Holds n) (hmn : m < n) :
    (ls.span m).1 < (ls.span n).1 := by
  have hpos := hm.1
  have hlt : m - 1 < ls.lines.length := by
    have := hn.2
    omega
  -- the lines before the later one are those before the earlier one, that line, and some more
  obtain ⟨k, hk⟩ : ∃ k, n - 1 = (m - 1) + (k + 1) := ⟨n - m - 1, by omega⟩
  rw [hm.span_fst, hn.span_fst, hk, List.take_add, List.drop_eq_getElem_cons hlt,
    List.take_succ_cons, List.map_append, List.map_cons, Count.total_append, Count.total_cons]
  omega

end Manifest.Lines

end CodeGraph
