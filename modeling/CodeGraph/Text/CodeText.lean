import CodeGraph.Text.Basic

/-!
# Texts that may hold lone surrogates

Escapes can write one half of a surrogate pair without the other. Such a text is a list of code
points by number, and it can be encoded only if it holds no half.

## Main definitions

* `CodeText`: the texts.
* `CodeText.toString?`, `CodeText.replaced`: the text proper, if it is one, or with replacements.
* `CodeText.unencodable?`: the first part that cannot be encoded.
-/

namespace CodeGraph

/-- A sequence of code points by number, in which halves of surrogate pairs may stand alone. -/
structure CodeText where
  points : List Nat
deriving DecidableEq, Repr, Inhabited

/-- A part of a text that cannot be encoded: its position, and its code points. -/
structure Unencodable where
  start : Nat
  points : List Nat
deriving DecidableEq, Repr, Inhabited

/-- A code point below `0x10000` as an escape of four hexadecimal digits. -/
def Unencodable.escape (point : Nat) : String :=
  let digits := Nat.toDigits 16 point
  "\\u" ++ String.ofList (List.replicate (4 - digits.length) '0' ++ digits)

/-- The wording for a part that cannot be encoded. -/
def Unencodable.message (u : Unencodable) : String :=
  let subject := match u.points with
    | [point] => "character '" ++ escape point ++ "' in position " ++ toString u.start
    | points => "characters in position " ++ toString u.start ++ "-"
        ++ toString (u.start + points.length - 1)
  "'utf-8' codec can't encode " ++ subject ++ ": surrogates not allowed"

namespace CodeText

/-- Whether a number is one half of a surrogate pair. -/
def isSurrogate (point : Nat) : Bool :=
  0xD800 ≤ point && point ≤ 0xDFFF

/-- A text proper. -/
def ofString (s : String) : CodeText :=
  ⟨s.toList.map Char.toNat⟩

instance : Append CodeText :=
  ⟨fun a b => ⟨a.points ++ b.points⟩⟩

/-- The text proper, if no half of a pair stands alone. -/
def toString? (t : CodeText) : Option String :=
  if t.points.any isSurrogate then none
  else some (String.ofList (t.points.map Char.ofNat))

/-- The text with a replacement character for each lone half of a pair. -/
def replaced (t : CodeText) : String :=
  String.ofList (t.points.map fun n => Char.ofNat (if isSurrogate n then 0xFFFD else n))

/-- The first run of lone halves. -/
def unencodable? (t : CodeText) : Option Unencodable :=
  let before := t.points.takeWhile (!isSurrogate ·)
  let run := (t.points.drop before.length).takeWhile isSurrogate
  if run.isEmpty then none else some ⟨before.length, run⟩

end CodeText

end CodeGraph
