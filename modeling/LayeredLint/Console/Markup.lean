import LayeredLint.Console.Action
import LayeredLint.Console.Emoji
import LayeredLint.Console.Style
import LayeredLint.Console.StyledText

/-!
# Markup in console texts

Titles and cells of tables may hold style tags in square brackets. Output that is no terminal shows
the text without them.

- `Console.withoutControls`: a text without the characters that would move the cursor.
- `Console.pieces`: a text cut into plain pieces and tags.
- `Console.OpenTag`: a tag that is not closed yet.
- `Console.styled`: a text without its tags. It fails where a tag closes what is not open, or names
  an action without proper arguments.
-/

namespace LayeredLint.Console

/-- A character that would ring the bell or move the cursor. -/
def movesCursor (c : Char) : Bool :=
  c = '\x07' || c = '\x08' || c = '\x0b' || c = '\x0c' || c = '\r'

/-- A text without the characters that would move the cursor. -/
def withoutControls (cs : List Char) : List Char :=
  cs.filter fun c => !movesCursor c

/-- A plain piece of a text, or a tag with what stands in its brackets. -/
inductive Piece where
  | plain (cs : List Char)
  | tag (name : List Char)
  deriving DecidableEq, Repr

/-- A tag starts with one of these. -/
def startsTag (c : Char) : Bool :=
  ('a' ≤ c && c ≤ 'z') || c = '#' || c = '/' || c = '@'

/-- What stands in the brackets of the tag at the front, and what follows the tag. -/
def tagAt? : List Char → Option (List Char × List Char)
  | '[' :: c :: rest =>
    let inside := rest.takeWhile fun d => d ≠ ']' ∧ d ≠ '['
    match rest.dropWhile fun d => d ≠ ']' ∧ d ≠ '[' with
    | ']' :: after => if startsTag c then some (c :: inside, after) else none
    | _ => none
  | _ => none

/-- A bracket outside tags does not need the backslash before it. -/
def unescaped : List Char → List Char
  | '\\' :: '[' :: rest => '[' :: unescaped rest
  | c :: rest => c :: unescaped rest
  | [] => []

/-- The pieces of a text, after plain characters read before, in reverse. Before a tag each pair of
backslashes stands for one, and a backslash that is left over makes the tag plain. -/
def piecesFrom : (fuel : Nat) → List Char → List Char → List Piece
  | 0, before, _ => [.plain (unescaped before.reverse)]
  | _ + 1, before, [] => [.plain (unescaped before.reverse)]
  | fuel + 1, before, c :: rest =>
    let slashes := (c :: rest).takeWhile (· = '\\')
    match tagAt? ((c :: rest).drop slashes.length) with
    | some (name, after) =>
      let kept := List.replicate (slashes.length / 2) '\\'
      let here : List Piece :=
        if slashes.length % 2 = 1 then [.plain (kept ++ '[' :: name ++ [']'])]
        else [.plain kept, .tag name]
      .plain (unescaped before.reverse) :: here ++ piecesFrom fuel [] after
    | none =>
      if slashes.isEmpty then piecesFrom fuel (c :: before) rest
      else piecesFrom fuel (slashes ++ before) ((c :: rest).drop slashes.length)

/-- The pieces of a text. -/
def pieces (cs : List Char) : List Piece :=
  piecesFrom (cs.length + 1) [] cs

/-! ## Tags -/

/-- A tag that is not closed yet: its name, what stands after an equals sign, and where it
starts. -/
structure OpenTag where
  name : List Char
  parameters : Option (List Char)
  start : Nat
  deriving DecidableEq, Repr

namespace OpenTag

/-- A tag that names an action and not a style. -/
def isActionTag (tag : OpenTag) : Bool :=
  tag.name.head? = some '@'

/-- The text that says the style of a tag. -/
def styleText (tag : OpenTag) : List Char :=
  match tag.parameters with
  | some parameters => tag.name ++ ' ' :: parameters
  | none => tag.name

/-- The stretch that a tag leaves in a text up to a position, if its style cannot be looked up. -/
def faults (tag : OpenTag) (stop : Nat) : List Span :=
  match Style.ofText? tag.styleText with
  | .ok _ => []
  | .error _ => [⟨tag.start, stop⟩]

/-- What closing a tag leaves. The parameters of an action are looked at only now. -/
def faultsClosed (tag : OpenTag) (stop : Nat) : Except Failure (List Span) :=
  if tag.isActionTag then
    if (tag.parameters.getD []).isEmpty || isAction (tag.parameters.getD []) then .ok []
    else impossible .badMarkup
  else .ok (tag.faults stop)

end OpenTag

/-- The name of a tag and its parameters: what stands before and after an equals sign. -/
def tagParts (inside : List Char) : List Char × Option (List Char) :=
  let name := inside.takeWhile (· ≠ '=')
  (name, if name.length < inside.length then some (inside.drop (name.length + 1)) else none)

/-- The tag that a name closes, and the tags that stay open: the one opened last without a name,
else the last one that says the same. -/
def closed (name : List Char) (opened : List OpenTag) : Except Failure (OpenTag × List OpenTag) :=
  if (Text.strip name).isEmpty then
    match opened with
    | tag :: rest => .ok (tag, rest)
    | [] => impossible .badMarkup
  else do
    let normal ← Style.normalName (Text.strip name)
    match opened.find? (·.name = normal) with
    | some tag => return (tag, opened.eraseP (·.name = normal))
    | none => impossible .badMarkup

/-- The characters of a plain piece that are shown. -/
def shownPiece (emoji : Bool) (cs : List Char) : List Char :=
  withoutControls (if emoji then withEmoji cs else cs)

/-- A text with further pieces, given the tags that are open, the last one first. -/
def withPieces (emoji : Bool) (opened : List OpenTag) (t : StyledText) :
    List Piece → Except Failure StyledText
  | [] => .ok { t with faults := t.faults ++ opened.flatMap (·.faults t.chars.length) }
  | .plain cs :: rest =>
    withPieces emoji opened { t with chars := t.chars ++ shownPiece emoji cs } rest
  | .tag inside :: rest =>
    match tagParts inside with
    | ('/' :: name, _) => do
      let (tag, opened) ← closed name opened
      let faults ← tag.faultsClosed t.chars.length
      withPieces emoji opened { t with faults := t.faults ++ faults } rest
    | (name, parameters) => do
      let normal ← Style.normalName name
      withPieces emoji (⟨normal, parameters, t.chars.length⟩ :: opened) t rest

/-- A text without its tags, and with emoji in the place of their codes if they are wanted. -/
def styled (emoji : Bool) (cs : List Char) : Except Failure StyledText :=
  if cs.contains '[' then withPieces emoji [] ⟨[], []⟩ (pieces cs)
  else .ok ⟨shownPiece emoji cs, []⟩

end LayeredLint.Console
