import LayeredLint.Console.Literal
import LayeredLint.Text.Blank
import LayeredLint.Text.Letter

/-!
# Actions

A tag that starts with an at sign names an action of a terminal: what handles it, and arguments in
parentheses.

- `isAction`: whether a text names an action.
-/

namespace LayeredLint.Console

/-- A character in the name of what handles an action. -/
def isHandlerCharacter (c : Char) : Bool :=
  c = '.' || Text.isWordCharacter c

/-- A text in parentheses on one line. -/
def isParenthesized (cs : List Char) : Bool :=
  2 ≤ cs.length && cs.head? = some '(' && cs.getLast? = some ')' && !cs.contains '\n'

/-- A text names an action: a handler, a handler with literal arguments in parentheses, or literals
alone. White space around it does not count. -/
def isAction (cs : List Char) : Bool :=
  let whole := Text.strip cs
  let arguments := whole.dropWhile isHandlerCharacter
  arguments.isEmpty || Literal.isLiteral (if isParenthesized arguments then arguments else whole)

end LayeredLint.Console
