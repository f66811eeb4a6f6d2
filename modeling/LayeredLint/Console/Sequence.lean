/-!
# Terminal sequences

A terminal takes an escape character, an opening bracket, some numbers and a letter as an order: a
colour, a place for the cursor. Where there is no terminal, texts are shown without such sequences.

- `sequenceLength`: how many characters of a text are a sequence at its start.
- `withoutSequences`: a text without its sequences.
-/

namespace LayeredLint.Console

/-- A character among the numbers of a sequence. -/
def isParameter (c : Char) : Bool :=
  c.isDigit || c = ';' || c = '?'

/-- How many characters of a text are a terminal sequence at its start: none, unless there is a
letter after the numbers. -/
def sequenceLength : List Char → Nat
  | '\x1b' :: '[' :: rest =>
    match rest.dropWhile isParameter with
    | c :: _ => if c.isAlpha then (rest.takeWhile isParameter).length + 3 else 0
    | [] => 0
  | _ => 0

/-- A text without terminal sequences, of which `skipped` more characters belong to one. -/
def withoutSequencesFrom : (skipped : Nat) → List Char → List Char
  | _, [] => []
  | skipped + 1, _ :: rest => withoutSequencesFrom skipped rest
  | 0, c :: rest =>
    match sequenceLength (c :: rest) with
    | 0 => c :: withoutSequencesFrom 0 rest
    | more + 1 => withoutSequencesFrom more rest

/-- A text without terminal sequences. -/
def withoutSequences (cs : List Char) : List Char :=
  withoutSequencesFrom 0 cs

end LayeredLint.Console
