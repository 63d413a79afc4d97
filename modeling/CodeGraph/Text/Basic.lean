import CodeGraph.Sorting

/-!
# Text as sequences of code points

The elementary questions and cuts that paths, names and configuration lines need: splitting at a
separator, joining, trimming, searching. Every operation is read off the list of code points of
its argument, so lengths count code points and the list library supplies the laws.

## Main definitions

* `Text.split`, `Text.join`: pieces between separators, and back.
* `Text.startsWith`, `Text.endsWith`, `Text.contains`: whole-text tests.
* `Text.trimWhile`: cutting a class of code points off both ends.
* `Text.before`, `Text.after?`: the two sides of the first occurrence of a text.
-/

namespace CodeGraph.Text

/-- The pieces between occurrences of a separator; `n` separators give `n + 1` pieces. -/
def split (sep : Char) (s : String) : List String :=
  (s.toList.splitOn sep).map String.ofList

/-- The pieces of `split` that hold at least one code point. -/
def segments (sep : Char) (s : String) : List String :=
  (split sep s).filter (· ≠ "")

/-- The parts in order with the separator between neighbours. -/
def join (sep : String) (parts : List String) : String :=
  String.ofList (sep.toList.intercalate (parts.map String.toList))

/-- Number of code points. -/
def length (s : String) : Nat :=
  s.toList.length

/-- Whether `s` begins with `start`. -/
def startsWith (start s : String) : Bool :=
  start.toList.isPrefixOf s.toList

/-- Whether `s` finishes with `finish`. -/
def endsWith (finish s : String) : Bool :=
  finish.toList.isSuffixOf s.toList

/-- Whether a list of code points occurs contiguously in another. -/
def occursIn (needle : List Char) : List Char → Bool
  | [] => needle.isEmpty
  | c :: cs => needle.isPrefixOf (c :: cs) || occursIn needle cs

/-- Whether `needle` occurs contiguously in `s`. -/
def contains (needle s : String) : Bool :=
  occursIn needle.toList s.toList

/-- Number of code points before the first occurrence of `needle`, counted from `i`. -/
def positionFrom (needle : List Char) (i : Nat) : List Char → Option Nat
  | [] => if needle.isEmpty then some i else none
  | c :: cs =>
    if needle.isPrefixOf (c :: cs) then some i else positionFrom needle (i + 1) cs

/-- Number of code points before the first occurrence of `needle`, if it occurs. -/
def position? (needle s : String) : Option Nat :=
  positionFrom needle.toList 0 s.toList

/-- What stands before the first occurrence of `needle`, or all of `s`. -/
def before (needle s : String) : String :=
  match position? needle s with
  | some i => String.ofList (s.toList.take i)
  | none => s

/-- What stands after the first occurrence of `needle`, if it occurs. -/
def after? (needle s : String) : Option String :=
  (position? needle s).map fun i => String.ofList (s.toList.drop (i + needle.toList.length))

/-- What stands before the first occurrence of a code point, or all of `s`. -/
def beforeChar (sep : Char) (s : String) : String :=
  String.ofList (s.toList.takeWhile (· ≠ sep))

/-- What stands after the last occurrence of a code point, or all of `s`. -/
def afterLast (sep : Char) (s : String) : String :=
  String.ofList (s.toList.reverse.takeWhile (· ≠ sep)).reverse

/-- What stands before the last occurrence of a code point, or all of `s` if there is none. -/
def beforeLast (sep : Char) (s : String) : String :=
  match s.toList.reverse.dropWhile (· ≠ sep) with
  | [] => s
  | _ :: rest => String.ofList rest.reverse

/-- Cut the leading code points of a class. -/
def trimStartWhile (p : Char → Bool) (s : String) : String :=
  String.ofList (s.toList.dropWhile p)

/-- Cut the trailing code points of a class. -/
def trimEndWhile (p : Char → Bool) (s : String) : String :=
  String.ofList (s.toList.reverse.dropWhile p).reverse

/-- Cut the code points of a class off both ends. -/
def trimWhile (p : Char → Bool) (s : String) : String :=
  trimEndWhile p (trimStartWhile p s)

/-- Every occurrence of one code point replaced by another. -/
def replaceChar (old new : Char) (s : String) : String :=
  String.ofList (s.toList.map fun c => if c = old then new else c)

/-- Number of occurrences of a code point. -/
def count (c : Char) (s : String) : Nat :=
  s.toList.count c

/-- A code point repeated. -/
def replicate (n : Nat) (c : Char) : String :=
  String.ofList (List.replicate n c)

/-- Drop the first code points of a text. -/
def drop (n : Nat) (s : String) : String :=
  String.ofList (s.toList.drop n)

/-- Drop the last code points of a text. -/
def dropEnd (n : Nat) (s : String) : String :=
  String.ofList (s.toList.take (s.toList.length - n))

/-- Keep the first code points of a text. -/
def take (n : Nat) (s : String) : String :=
  String.ofList (s.toList.take n)

/-- Texts in increasing order of their code points. -/
def sort (xs : List String) : List String :=
  Sorting.sort (fun a b => decide (a ≤ b)) xs

/-- The first occurrence of each text, in order. -/
def distinct (xs : List String) : List String :=
  xs.foldl (fun seen x => if x ∈ seen then seen else seen ++ [x]) []

end CodeGraph.Text
