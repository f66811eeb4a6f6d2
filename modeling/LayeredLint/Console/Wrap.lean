import LayeredLint.Console.StyledText
import LayeredLint.Text.Blank

/-!
# Lines of a cell

A cell of a table has some places for each of its lines, and a text that needs more of them goes on
in the next line.

- `Overflow`: what becomes of a word that fits into no line.
- `breaks`: the positions where a text goes on in a new line.
- `StyledText.wrapped`: the lines of a text in some places.
-/

namespace LayeredLint.Console

/-- What becomes of a word that fits into no line. -/
inductive Overflow where
  /-- It goes on in further lines. -/
  | fold
  /-- It is cut, with an ellipsis at its end. -/
  | ellipsis
  deriving DecidableEq, Repr

/-! ## Breaks -/

/-- The word at the front of a text, with the white space around it. -/
def wordAt (cs : List Char) : List Char :=
  let start := (cs.takeWhile Text.isBlank).length
  let stop := start + ((cs.drop start).takeWhile (!Text.isBlank ·)).length
  cs.take (stop + ((cs.drop stop).takeWhile Text.isBlank).length)

/-- The words of a text, with the white space around them. White space alone is no word. -/
def wrapWords : (fuel : Nat) → List Char → List (List Char)
  | 0, _ => []
  | fuel + 1, cs =>
    if cs.all Text.isBlank then []
    else wordAt cs :: wrapWords fuel (cs.drop (wordAt cs).length)

/-- The positions of texts that follow one another, the first of them given. -/
def startsFrom (start : Nat) : List (List Char) → List Nat
  | [] => []
  | piece :: rest => start :: startsFrom (start + piece.length) rest

/-- The positions where words break lines of some places, from a position in the text and a column
of the line on. White space after a word may stick out. -/
def breaksFrom (places : Nat) (overflow : Overflow) (start column : Nat) :
    List (List Char) → List Nat
  | [] => []
  | word :: rest =>
    let needed := textWidth (Text.dropEnd word)
    let next := start + word.length
    let here := if start = 0 then [] else [start]
    if column + needed ≤ places then
      breaksFrom places overflow next (column + textWidth word) rest
    else if needed ≤ places || overflow = .ellipsis then
      here ++ breaksFrom places overflow next (textWidth word) rest
    else
      let folded := chopped places word
      (startsFrom start folded).filter (· ≠ 0) ++
        breaksFrom places overflow next (textWidth (folded.getLast?.getD [])) rest

/-- The positions where a text goes on in a new line. -/
def breaks (places : Nat) (overflow : Overflow) (cs : List Char) : List Nat :=
  breaksFrom places overflow 0 0 (wrapWords (cs.length + 1) cs)

/-! ## Lines -/

namespace StyledText

/-- A line without white space at its end that sticks out. -/
def withoutRest (places : Nat) (t : StyledText) : StyledText :=
  let excess := t.chars.length - places
  let blanks := t.chars.length - (Text.dropEnd t.chars).length
  if excess = 0 || blanks = 0 then t else t.cropped (t.chars.length - min blanks excess)

/-- A line cut to some places. -/
def truncated (places : Nat) (overflow : Overflow) (t : StyledText) : StyledText :=
  if textWidth t.chars ≤ places then t
  else
    match overflow with
    | .fold => t.withChars (fitted places t.chars)
    | .ellipsis => t.withChars (fitted (places - 1) t.chars ++ ['…'])

/-- The lines of a text in some places. -/
def wrapped (places : Nat) (overflow : Overflow) (t : StyledText) : List StyledText :=
  t.lines.flatMap fun line =>
    let line := line.expandTabs
    (line.divided (breaks places overflow line.chars)).map fun part =>
      (part.withoutRest places).truncated places overflow

end StyledText

end LayeredLint.Console
