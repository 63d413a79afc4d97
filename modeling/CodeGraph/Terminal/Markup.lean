import CodeGraph.Terminal.Emoji
import CodeGraph.Terminal.Style

/-!
# Markup

Texts for the terminal hold style tags between brackets and emoji codes between colons. A tag starts
with a lower-case letter, `#`, `/` or `@`; anything else between brackets is text. A backslash before
a tag makes it text, and two backslashes make one. Styles are not shown, so what a text leaves is
its plain part; but every closing tag must have something to close.

## Main definitions

* `Markup.pieces`: a text cut into plain parts and tags.
* `Markup.render`: the plain text of a markup, or why there is none.
-/

namespace CodeGraph.Markup

open Terminal

/-- A tag: its name, and what follows an equals sign. -/
structure Tag where
  name : String
  parameters : Option String := none
deriving DecidableEq, Repr, Inhabited

/-- A part of a markup. -/
inductive Piece where
  | plain (s : String)
  | tag (t : Tag)
deriving DecidableEq, Repr, Inhabited

/-- Why a markup cannot be shown. -/
inductive Fault where
  /-- A closing tag closes no open one. -/
  | unmatched (name : String)
  /-- The parameters of a handler are not understood. -/
  | parameters (text : String)
deriving DecidableEq, Repr, Inhabited

/-! ### Tags -/

/-- A code point that a tag may start with. -/
def startsTag (c : Char) : Bool :=
  ('a' ≤ c && c ≤ 'z') || c = '#' || c = '/' || c = '@'

/-- The inside of a tag after its opening bracket, and what follows the closing one. -/
def readTag? : List Char → Option (List Char × List Char)
  | [] => none
  | c :: cs =>
    if startsTag c then
      let body := cs.takeWhile fun d => d ≠ ']' && d ≠ '['
      match cs.drop body.length with
      | ']' :: rest => some (c :: body, rest)
      | _ => none
    else none

/-- The tag with an inside. -/
def Tag.ofInside (inside : List Char) : Tag :=
  let s := String.ofList inside
  { name := Text.beforeChar '=' s, parameters := Text.after? "=" s }

/-- A plain part, unless it is empty. -/
def plainPiece (cs : List Char) : List Piece :=
  if cs.isEmpty then [] else [.plain (String.ofList cs)]

/-- What a tag after some backslashes stands for: half of them, and the tag or its text. -/
def escapedTag (backslashes : Nat) (inside : List Char) : List Piece :=
  plainPiece (List.replicate (backslashes / 2) '\\')
    ++ if backslashes % 2 = 0 then [.tag (.ofInside inside)]
      else [.plain (String.ofList ('[' :: inside ++ [']']))]

/-- The pieces of a text; `acc` is the plain part read so far, in reverse. -/
def piecesFrom : (fuel : Nat) → (acc : List Char) → List Char → List Piece
  | 0, acc, cs => plainPiece (acc.reverse ++ cs)
  | _ + 1, acc, [] => plainPiece acc.reverse
  | fuel + 1, acc, c :: cs =>
    let backslashes := (c :: cs).takeWhile (· = '\\')
    match (c :: cs).drop backslashes.length with
    | '[' :: rest =>
      match readTag? rest with
      | some (inside, rest') =>
        plainPiece acc.reverse ++ escapedTag backslashes.length inside ++ piecesFrom fuel [] rest'
      | none => piecesFrom fuel ('[' :: backslashes ++ acc) rest
    | rest =>
      if backslashes.isEmpty then piecesFrom fuel (c :: acc) cs
      else piecesFrom fuel (backslashes ++ acc) rest

/-- A text cut into plain parts and tags. -/
def pieces (markup : String) : List Piece :=
  piecesFrom (markup.toList.length + 1) [] markup.toList

/-! ### Plain text -/

/-- The controls that a terminal acts on: bell, backspace, vertical tab, form feed, return. -/
def isAction (c : Char) : Bool :=
  c.toNat = 7 || c.toNat = 8 || c.toNat = 11 || c.toNat = 12 || c.toNat = 13

/-- A bracket after a backslash stands for itself. -/
def unescapeBrackets : List Char → List Char
  | '\\' :: '[' :: cs => '[' :: unescapeBrackets cs
  | c :: cs => c :: unescapeBrackets cs
  | [] => []

/-- What a plain part shows. -/
def shown (s : String) : String :=
  let expanded := expandEmoji (String.ofList (unescapeBrackets s.toList))
  String.ofList (expanded.toList.filter (!isAction ·))

/-! ### Open and closing tags -/

/-- Whether the parameters of a handler are a name, perhaps with empty parentheses. -/
def isHandler (parameters : String) : Bool :=
  let cs := (Text.trim parameters).toList
  let rest := cs.dropWhile fun c => c.isAlphanum || c = '_' || c = '.'
  rest = [] || rest = ['(', ')']

/-- Close an open tag: a handler's parameters are looked at. -/
def Tag.close (t : Tag) : Except Fault Unit :=
  match t.parameters with
  | none => .ok ()
  | some p =>
    if Text.startsWith "@" t.name && p ≠ "" && !isHandler p then .error (.parameters p) else .ok ()

/-- The open tags after a closing one: the last one of its name goes, or the last of all. -/
def closeTag (stack : List Tag) (name : String) : Except Fault (List Tag) :=
  let found :=
    if name = "" then stack.head?
    else stack.find? (·.name = Style.normalize name)
  match found with
  | none => .error (.unmatched name)
  | some t => t.close.map fun _ => stack.erase t

/-- The open tags after a tag, the last one first. -/
def step (stack : List Tag) (t : Tag) : Except Fault (List Tag) :=
  match t.name.toList with
  | '/' :: name => closeTag stack (Text.trim (String.ofList name))
  | _ => .ok ({ t with name := Style.normalize t.name } :: stack)

/-- The plain text of pieces, with the tags open before them. -/
def renderPieces (stack : List Tag) : List Piece → Except Fault (List String)
  | [] => .ok []
  | .plain s :: rest => (renderPieces stack rest).map (shown s :: ·)
  | .tag t :: rest =>
    match step stack t with
    | .error fault => .error fault
    | .ok stack => renderPieces stack rest

/-- The plain text of a markup, or why there is none. -/
def render (markup : String) : Except Fault String :=
  (renderPieces [] (pieces markup)).map (Text.join "")

end CodeGraph.Markup
