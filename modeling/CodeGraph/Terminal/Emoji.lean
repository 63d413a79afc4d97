import CodeGraph.Terminal.EmojiTable
import CodeGraph.Text.Blank
import CodeGraph.Text.Case

/-!
# Emoji codes

A name between colons stands for the emoji of that name; before the second colon `-emoji` or `-text`
may ask for one of its two variants. What is no code stays as it is.

## Main definitions

* `Terminal.emoji?`: the emoji of a name.
* `Terminal.expandEmoji`: a text with its codes replaced.
-/

namespace CodeGraph.Terminal

/-- Names with the emoji they stand for. -/
def emojiTable : List (String × String) :=
  emojiLines.flatMap fun line =>
    (Text.segments ' ' line).map fun entry =>
      (Text.beforeChar '=' entry, (Text.after? "=" entry).getD "")

/-- The emoji of a name. -/
def emoji? (name : String) : Option String :=
  emojiTable.lookup name

/-- The ends of a code, with the selector that they add to its emoji. -/
def emojiEnds : List (String × String) :=
  [("-emoji:", "\uFE0F"), ("-text:", "\uFE0E"), (":", "")]

/-- An emoji code: its name as written, and one of the ends. -/
structure EmojiCode where
  name : String
  ending : String × String

/-- The end of a code at the front of a text, and what follows. -/
def emojiEnd? (cs : List Char) : Option ((String × String) × List Char) :=
  emojiEnds.findSome? fun e =>
    if e.1.toList.isPrefixOf cs then some (e, cs.drop e.1.toList.length) else none

/-- A code after its first colon, and what follows; `name` is what was read of it, in reverse. -/
def readEmojiCode? (name : List Char) : List Char → Option (EmojiCode × List Char)
  | [] => none
  | c :: cs =>
    match emojiEnd? (c :: cs) with
    | some (ending, rest) => some (⟨String.ofList name.reverse, ending⟩, rest)
    | none => if Text.isBlank c then none else readEmojiCode? (c :: name) cs

/-- What a code stands for: its emoji, or itself if there is none. -/
def EmojiCode.expansion (code : EmojiCode) : String :=
  match emoji? (Text.lower code.name) with
  | some symbol => symbol ++ code.ending.2
  | none => ":" ++ code.name ++ code.ending.1

/-- The parts of a text with its codes replaced; the fuel bounds the code points left. -/
def expandEmojiFrom : (fuel : Nat) → List Char → List String
  | 0, cs => [String.ofList cs]
  | fuel + 1, cs =>
    let plain := String.ofList (cs.takeWhile (· ≠ ':'))
    match cs.dropWhile (· ≠ ':') with
    | [] => [plain]
    | colon :: rest =>
      match readEmojiCode? [] rest with
      | some (code, rest') => plain :: code.expansion :: expandEmojiFrom fuel rest'
      | none => plain :: String.ofList [colon] :: expandEmojiFrom fuel rest

/-- A text with its codes replaced. -/
def expandEmoji (s : String) : String :=
  Text.join "" (expandEmojiFrom (s.toList.length + 1) s.toList)

end CodeGraph.Terminal
