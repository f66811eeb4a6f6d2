import LayeredLint.Console.Sequence
import LayeredLint.Console.Table

/-!
# The console

- `MessageKind`: kinds of messages, each with a glyph.
- `Look`: whether glyphs and colours are wanted.
- `Output`: what a command shows, piece by piece.
- `Output.text`: the characters of a piece. It fails where markup cannot be shown.
-/

namespace LayeredLint

/-- The kind of a message. -/
inductive MessageKind where
  | info
  | ok
  | warn
  | fail
  deriving DecidableEq, Repr

/-- The glyph before a message, with the space after it. -/
def MessageKind.glyph : MessageKind → String
  | .info => "ℹ\ufe0f "
  | .ok => "✅ "
  | .warn => "⚠\ufe0f "
  | .fail => "❌ "

/-- How output should look. Colours only ever show on a terminal; wanting them still changes how a
section is set off. -/
structure Look where
  useColor : Bool := true
  useEmoji : Bool := true
  deriving DecidableEq, Repr

/-- A piece of what a command shows. -/
inductive Output where
  | message (kind : MessageKind) (text : String)
  | heading (title : String)
  | table (t : TextTable)
  /-- A text as it is, but for terminal sequences. -/
  | plain (text : String)
  deriving DecidableEq, Repr

namespace Output

/-- A line of a message. Its text is no markup. -/
def messageText (look : Look) (kind : MessageKind) (text : String) : String :=
  let shown := (if look.useEmoji then kind.glyph else "") ++ text
  let lines := Path.splitChars '\n' (Console.withoutControls shown.toList)
  String.ofList ((lines.map Console.expandTabs).intersperse ['\n']).flatten ++ "\n"

/-- Dashes of a drawn line. -/
def dashes (count : Nat) : List Char :=
  List.replicate count '─'

/-- A title in the middle of a drawn line. A long one is cut, and dashes are left on either side. -/
def ruledTitle (title : Console.StyledText) : Except Failure (List Char) := do
  let line := { title with chars := title.chars.map fun c => if c = '\n' then ' ' else c }
  let line := line.expandTabs.truncated (Console.lineWidth - 4) .ellipsis
  let shown ← if line.chars.isEmpty then .ok [] else line.shown
  let side := (Console.lineWidth - Console.textWidth shown) / 2
  return Console.fitted Console.lineWidth
    (dashes (side - 1) ++ ' ' :: shown ++ ' ' :: dashes (side + 1))

/-- A heading inside a drawn line. -/
def ruledHeading (title : String) : Except Failure String := do
  let line ← if title = "" then .ok (dashes Console.lineWidth)
    else Console.styled true title.toList >>= ruledTitle
  return "\n" ++ String.ofList line ++ "\n"

/-- A heading between dashes. -/
def dashedHeading (title : String) : Except Failure String := do
  let text ← Console.styled true ("\n--- " ++ title ++ " ---").toList
  let lines ← text.lines.mapM fun line => line.expandTabs.shown
  return String.ofList (lines.intersperse ['\n']).flatten ++ "\n"

/-- A heading between blocks: inside a drawn line where colours are wanted, else between dashes.
Names of emoji are always replaced in it. -/
def headingText (look : Look) (title : String) : Except Failure String :=
  if look.useColor then ruledHeading title else dashedHeading title

/-- The characters of a piece. -/
def text (look : Look) : Output → Except Failure String
  | message kind text => .ok (messageText look kind text)
  | heading title => headingText look title
  | table t => (t.lines look.useEmoji).map fun lines => String.join (lines.map (· ++ "\n"))
  | plain text => .ok (String.ofList (Console.withoutSequences text.toList))

end Output

end LayeredLint
