import CodeGraph.Digest

/-!
# Digests by natural numbers

The words of a digest have operations that take long to evaluate in a proof. The same operations on
natural numbers do not, so that digests of given texts are evaluated that way.

## Main definitions

* `Digest.Numbers`: the chaining words as numbers.
* `Digest.sha256Numbers`: the digest in numbers.

## Main results

* `Digest.numbers_sha256`: words and numbers agree.
* `Digest.toList_ofText`: the digits of the digest of a text.
-/

namespace CodeGraph.Digest

/-! ### Operations on words -/

/-- The sum of two numbers as words. -/
def addNumbers (x y : Nat) : Nat :=
  (x + y) % 4294967296

/-- Rotation of a number as a word. -/
def rotateNumber (x n : Nat) : Nat :=
  (x >>> n) ||| (x <<< (32 - n)) % 4294967296

theorem toNat_add (x y : UInt32) : (x + y).toNat = addNumbers x.toNat y.toNat :=
  UInt32.toNat_add x y

theorem toNat_rotate (x : UInt32) {n : UInt32} (h : 0 < n.toNat) (h' : n.toNat < 32) :
    (rotate x n).toNat = rotateNumber x.toNat n.toNat := by
  have hsub : (32 - n).toNat = 32 - n.toNat :=
    UInt32.toNat_sub_of_le 32 n (UInt32.le_iff_toNat_le.mpr (Nat.le_of_lt h'))
  have hlt : 32 - n.toNat < 32 := by omega
  rw [rotate, UInt32.toNat_or, UInt32.toNat_shiftRight, UInt32.toNat_shiftLeft, hsub,
    Nat.mod_eq_of_lt h', Nat.mod_eq_of_lt hlt, rotateNumber]

/-! ### Rounds -/

/-- The eight chaining words as numbers. -/
structure Numbers where
  (a b c d e f g h : Nat)

/-- Number by number sum. -/
def Numbers.add (x y : Numbers) : Numbers :=
  ⟨addNumbers x.a y.a, addNumbers x.b y.b, addNumbers x.c y.c, addNumbers x.d y.d,
    addNumbers x.e y.e, addNumbers x.f y.f, addNumbers x.g y.g, addNumbers x.h y.h⟩

/-- The numbers in order. -/
def Numbers.toList (s : Numbers) : List Nat :=
  [s.a, s.b, s.c, s.d, s.e, s.f, s.g, s.h]

/-- The numbers of words. -/
def Words.numbers (w : Words) : Numbers :=
  ⟨w.a.toNat, w.b.toNat, w.c.toNat, w.d.toNat, w.e.toNat, w.f.toNat, w.g.toNat, w.h.toNat⟩

theorem numbers_add (x y : Words) : (x.add y).numbers = x.numbers.add y.numbers := by
  simp only [Words.add, Words.numbers, Numbers.add, toNat_add]

theorem toList_numbers (w : Words) : w.numbers.toList = w.toList.map UInt32.toNat :=
  rfl

/-- One round of the compression function, in numbers. -/
def roundNumbers (constant word : Nat) (s : Numbers) : Numbers :=
  let s1 := rotateNumber s.e 6 ^^^ rotateNumber s.e 11 ^^^ rotateNumber s.e 25
  let choice := (s.e &&& s.f) ^^^ ((4294967295 - s.e) &&& s.g)
  let t1 := addNumbers (addNumbers (addNumbers (addNumbers s.h s1) choice) constant) word
  let s0 := rotateNumber s.a 2 ^^^ rotateNumber s.a 13 ^^^ rotateNumber s.a 22
  let majority := (s.a &&& s.b) ^^^ (s.a &&& s.c) ^^^ (s.b &&& s.c)
  ⟨addNumbers t1 (addNumbers s0 majority), s.a, s.b, s.c, addNumbers s.d t1, s.e, s.f, s.g⟩

theorem numbers_round (constant word : UInt32) (s : Words) :
    (round constant word s).numbers = roundNumbers constant.toNat word.toNat s.numbers := by
  simp only [round, Words.numbers, roundNumbers, toNat_add, UInt32.toNat_xor, UInt32.toNat_and,
    UInt32.toNat_not]
  simp (disch := decide) only [toNat_rotate]
  rfl

/-! ### The message schedule -/

/-- Put the next number of the message schedule before the others. -/
def extendNumbers (l : List Nat) : List Nat :=
  let s0 := rotateNumber (l.getD 14 0) 7 ^^^ rotateNumber (l.getD 14 0) 18 ^^^ (l.getD 14 0 >>> 3)
  let s1 := rotateNumber (l.getD 1 0) 17 ^^^ rotateNumber (l.getD 1 0) 19 ^^^ (l.getD 1 0 >>> 10)
  addNumbers (addNumbers (addNumbers (l.getD 15 0) s0) (l.getD 6 0)) s1 :: l

/-- Words are listed by their numbers, the last one first. -/
def Listed (w : Array UInt32) (l : List Nat) : Prop :=
  w.toList.map UInt32.toNat = l.reverse

theorem toNat_getD (w : Array UInt32) (i : Nat) :
    (w.getD i 0).toNat = (w.toList.map UInt32.toNat).getD i 0 := by
  rw [Array.getD_eq_getD_getElem?, ← Array.getElem?_toList, List.getD_eq_getElem?_getD,
    List.getElem?_map]
  cases w.toList[i]? <;> rfl

theorem Listed.size_eq {w : Array UInt32} {l : List Nat} (h : Listed w l) : w.size = l.length := by
  have hlength := congrArg List.length h
  simpa using hlength

/-- The words from the end on are the numbers in order. -/
theorem Listed.toNat_back {w : Array UInt32} {l : List Nat} (h : Listed w l) {k : Nat} (hk : 0 < k)
    (hl : k ≤ l.length) : (w.getD (w.size - k) 0).toNat = l.getD (k - 1) 0 := by
  have hback : l.length - 1 - (l.length - k) = k - 1 := by omega
  rw [toNat_getD, h, h.size_eq, List.getD_eq_getElem?_getD, List.getElem?_reverse (by omega), hback,
    List.getD_eq_getElem?_getD]

/-- The next word is listed before the others. -/
theorem Listed.extendSchedule {w : Array UInt32} {l : List Nat} (h : Listed w l)
    (hl : 16 ≤ l.length) : Listed (extendSchedule w) (extendNumbers l) := by
  have hback : ∀ k, 0 < k → k ≤ 16 → (w.getD (w.size - k) 0).toNat = l.getD (k - 1) 0 :=
    fun k hk hle => h.toNat_back hk (Nat.le_trans hle hl)
  rw [Listed, Digest.extendSchedule, Array.toList_push, List.map_append, h, extendNumbers,
    List.reverse_cons, List.append_cancel_left_eq, List.map_singleton, List.singleton_inj]
  simp only [toNat_add, UInt32.toNat_xor, UInt32.toNat_shiftRight]
  simp (disch := decide) only [toNat_rotate, hback]
  rfl

theorem Listed.foldl_extendSchedule {w : Array UInt32} {l : List Nat} (h : Listed w l)
    (hl : 16 ≤ l.length) (is : List Nat) :
    Listed (is.foldl (fun w _ => Digest.extendSchedule w) w)
      (is.foldl (fun l _ => extendNumbers l) l) := by
  induction is generalizing w l with
  | nil => exact h
  | cons i is ih => exact ih (h.extendSchedule hl) (Nat.le_succ_of_le hl)

/-! ### Bytes -/

/-- The bytes as numbers. -/
def byteNumbers (bytes : ByteArray) : List Nat :=
  bytes.data.toList.map UInt8.toNat

theorem length_byteNumbers (bytes : ByteArray) : (byteNumbers bytes).length = bytes.size := by
  rw [byteNumbers, List.length_map, Array.length_toList]
  rfl

theorem byteNumbers_push (bytes : ByteArray) (x : UInt8) :
    byteNumbers (bytes.push x) = byteNumbers bytes ++ [x.toNat] := by
  rw [byteNumbers, ByteArray.data_push, Array.toList_push, List.map_append]
  rfl

theorem toNat_byteAt (bytes : ByteArray) (i : Nat) :
    (byteAt bytes i).toNat = (byteNumbers bytes).getD i 0 := by
  rw [byteNumbers, List.getD_eq_getElem?_getD, List.getElem?_map, Array.getElem?_toList, byteAt]
  split
  · next h =>
    rw [Array.getElem?_eq_getElem h]
    exact UInt8.toNat_toUInt32 _
  · next h =>
    rw [Array.getElem?_eq_none (Nat.le_of_not_lt h)]
    rfl

/-- The 16 numbers of a block of 64 bytes that starts at an offset, big end first. -/
def blockNumbers (bytes : List Nat) (offset : Nat) : List Nat :=
  (List.range 16).map fun i =>
    let byte := fun k : Nat => bytes.getD (offset + 4 * i + k) 0
    ((byte 0 <<< 24) % 4294967296) ||| ((byte 1 <<< 16) % 4294967296) |||
      ((byte 2 <<< 8) % 4294967296) ||| byte 3

theorem numbers_blockWords (bytes : ByteArray) (offset : Nat) :
    (blockWords bytes offset).toList.map UInt32.toNat =
      blockNumbers (byteNumbers bytes) offset := by
  refine List.ext_getElem (by simp [blockWords, blockNumbers]) fun i hi _ => ?_
  simp only [blockWords, blockNumbers, Array.toList_ofFn, List.getElem_map, List.getElem_ofFn,
    List.getElem_range, UInt32.toNat_or, UInt32.toNat_shiftLeft, toNat_byteAt]
  rfl

/-- The message followed by a one bit, zeros, and its length in bits as 64 bits. -/
def padNumbers (message : List Nat) : List Nat :=
  let zeros := (119 - message.length % 64) % 64
  let length := message.length * 8
  message ++ 128 :: (List.replicate zeros 0 ++
    (List.range 8).map fun i => (length >>> (56 - 8 * i)) % 256)

theorem byteNumbers_pad (message : ByteArray) :
    byteNumbers (pad message) = padNumbers (byteNumbers message) := by
  have hpush : ∀ (f : Nat → UInt8) (is : List Nat) (b : ByteArray),
      byteNumbers (is.foldl (fun b i => b.push (f i)) b) =
        byteNumbers b ++ is.map fun i => (f i).toNat := by
    intro f is
    induction is with
    | nil => exact fun b => (List.append_nil _).symm
    | cons i is ih =>
      intro b
      rw [List.foldl_cons, ih, byteNumbers_push, List.map_cons, List.append_assoc,
        List.singleton_append]
  rw [pad, hpush, hpush fun _ => 0, byteNumbers_push, ← length_byteNumbers, padNumbers]
  simp only [List.append_assoc, List.singleton_append, List.map_const', List.length_range]
  rfl

/-! ### Whole digests -/

/-- The numbers of the message schedule of a block, the last one first. -/
def scheduleNumbers (bytes : List Nat) (offset : Nat) : List Nat :=
  (List.range 48).foldl (fun l _ => extendNumbers l) (blockNumbers bytes offset).reverse

theorem listed_schedule (bytes : ByteArray) (offset : Nat) :
    Listed (schedule bytes offset) (scheduleNumbers (byteNumbers bytes) offset) := by
  have hblock : Listed (blockWords bytes offset)
      (blockNumbers (byteNumbers bytes) offset).reverse := by
    rw [Listed, numbers_blockWords, List.reverse_reverse]
  exact hblock.foldl_extendSchedule (by simp [blockNumbers]) (List.range 48)

theorem length_scheduleNumbers (bytes : List Nat) (offset : Nat) :
    (scheduleNumbers bytes offset).length = 64 := by
  have hlength : ∀ (is l : List Nat),
      (is.foldl (fun l _ => extendNumbers l) l).length = is.length + l.length := by
    intro is
    induction is with
    | nil => exact fun l => (Nat.zero_add _).symm
    | cons i is ih =>
      intro l
      rw [List.foldl_cons, ih, extendNumbers, List.length_cons, List.length_cons]
      omega
  rw [scheduleNumbers, hlength, List.length_range, List.length_reverse, blockNumbers,
    List.length_map, List.length_range]

/-- All rounds, in numbers. -/
def roundsNumbers (constants words : List Nat) (s : Numbers) : Numbers :=
  (constants.zip words).foldl (fun r p => roundNumbers p.1 p.2 r) s

/-- Rounds by position take the constants and the words in order. -/
theorem foldl_roundNumbers {constants words : List Nat} {n : Nat} (hc : constants.length = n)
    (hw : words.length = n) (s : Numbers) :
    (List.range n).foldl (fun r i => roundNumbers (constants.getD i 0) (words.getD i 0) r) s =
      roundsNumbers constants words s := by
  have hzip : constants.zip words =
      (List.range n).map fun i => (constants.getD i 0, words.getD i 0) := by
    refine List.ext_getElem (by simp [hc, hw]) fun i hi _ => ?_
    rw [List.length_zip, hc, hw, Nat.min_self] at hi
    simp [List.getD_eq_getElem?_getD, hc, hw, hi]
  rw [roundsNumbers, hzip, List.foldl_map]

/-- Absorb one block, in numbers. -/
def compressNumbers (s : Numbers) (bytes : List Nat) (offset : Nat) : Numbers :=
  s.add (roundsNumbers (roundConstants.toList.map UInt32.toNat)
    (scheduleNumbers bytes offset).reverse s)

theorem numbers_compress (s : Words) (bytes : ByteArray) (offset : Nat) :
    (compress s bytes offset).numbers =
      compressNumbers s.numbers (byteNumbers bytes) offset := by
  have hrounds : ∀ (is : List Nat) (s : Words),
      (is.foldl (fun r i => round (roundConstants.getD i 0)
        ((schedule bytes offset).getD i 0) r) s).numbers =
      is.foldl (fun r i => roundNumbers ((roundConstants.toList.map UInt32.toNat).getD i 0)
        ((scheduleNumbers (byteNumbers bytes) offset).reverse.getD i 0) r) s.numbers := by
    intro is
    induction is with
    | nil => exact fun s => rfl
    | cons i is ih =>
      intro s
      rw [List.foldl_cons, ih, numbers_round, toNat_getD, toNat_getD, listed_schedule,
        List.foldl_cons]
  have hwords := length_scheduleNumbers (byteNumbers bytes) offset
  rw [compress, numbers_add, hrounds, compressNumbers,
    foldl_roundNumbers (by rfl) (List.length_reverse.trans hwords)]

/-- The digest of a sequence of bytes, in numbers. -/
def sha256Numbers (message : List Nat) : Numbers :=
  let padded := padNumbers message
  (List.range (padded.length / 64)).foldl (fun s i => compressNumbers s padded (64 * i))
    Words.initial.numbers

/-- Words and numbers agree. -/
theorem numbers_sha256 (message : ByteArray) :
    (sha256 message).numbers = sha256Numbers (byteNumbers message) := by
  have hblocks : ∀ (bytes : ByteArray) (is : List Nat) (s : Words),
      (is.foldl (fun s i => compress s bytes (64 * i)) s).numbers =
        is.foldl (fun s i => compressNumbers s (byteNumbers bytes) (64 * i)) s.numbers := by
    intro bytes is
    induction is with
    | nil => exact fun s => rfl
    | cons i is ih =>
      intro s
      rw [List.foldl_cons, ih, numbers_compress, List.foldl_cons]
  rw [sha256, hblocks, sha256Numbers, ← byteNumbers_pad, length_byteNumbers]

/-! ### Digits -/

/-- The eight hexadecimal digits of a number. -/
def hexDigits (n : Nat) : List Char :=
  let digits := Nat.toDigits 16 n
  List.replicate (8 - digits.length) '0' ++ digits

theorem toList_hexPadded (n : Nat) : (Text.hexPadded 8 n).toList = hexDigits n := by
  rw [Text.hexPadded, String.toList_ofList, hexDigits]

/-- The digest of a text has the digits of its numbers. -/
theorem toList_ofText (text : String) :
    (ofText text).toList =
      (sha256Numbers (byteNumbers text.toUTF8)).toList.flatMap hexDigits := by
  have hdigits : ∀ words : List UInt32,
      (String.join (words.map fun w => Text.hexPadded 8 w.toNat)).toList =
        (words.map UInt32.toNat).flatMap hexDigits := by
    intro words
    induction words with
    | nil => rfl
    | cons w words ih =>
      rw [List.map_cons, String.join_cons, String.toList_append, ih, toList_hexPadded,
        List.map_cons, List.flatMap_cons]
  rw [ofText, hdigits, ← numbers_sha256, toList_numbers]

end CodeGraph.Digest
