import LayeredLint.Console.Width
import LayeredLint.Failure

/-!
# Styled texts

A text for the console has stretches with styles. Where nothing shows a style, only those styles
matter that cannot be looked up.

- `Span`: a stretch of a text.
- `StyledText`: a text, with the stretches whose styles cannot be looked up.
- `StyledText.append`, `StyledText.part`, `StyledText.divided`: putting texts together and cutting
  them.
- `StyledText.lines`, `StyledText.expandTabs`: lines, and lines without tabs.
- `StyledText.shown`: the characters of a text that can be shown.
-/

namespace LayeredLint.Console

/-- A stretch of a text, from one position up to another. -/
structure Span where
  start : Nat
  stop : Nat
  deriving DecidableEq, Repr

namespace Span

/-- A stretch after some characters more. -/
def shifted (count : Nat) (s : Span) : Span :=
  ⟨s.start + count, s.stop + count⟩

/-- What a stretch has of a part of the text, seen from the start of the part, if it has a character
of it. -/
def within? (start stop : Nat) (s : Span) : Option Span :=
  let here : Span := ⟨max s.start start - start, min s.stop stop - start⟩
  if here.start < here.stop then some here else none

end Span

/-- A text, with the stretches whose styles cannot be looked up. -/
structure StyledText where
  chars : List Char
  faults : List Span := []
  deriving DecidableEq, Repr

namespace StyledText

/-- The characters of a text whose styles can all be looked up. -/
def shown (t : StyledText) : Except Failure (List Char) :=
  if t.faults.isEmpty then .ok t.chars else impossible .notNumber

/-- Two texts in a row. -/
def append (t u : StyledText) : StyledText :=
  ⟨t.chars ++ u.chars, t.faults ++ u.faults.map (Span.shifted t.chars.length)⟩

/-- A part of a text. -/
def part (t : StyledText) (start stop : Nat) : StyledText :=
  ⟨(t.chars.take stop).drop start, t.faults.filterMap (Span.within? start stop)⟩

/-- The parts of a text between positions. -/
def partsFrom (t : StyledText) (start : Nat) : List Nat → List StyledText
  | [] => [t.part start t.chars.length]
  | stop :: rest => t.part start stop :: partsFrom t stop rest

/-- A text cut at positions. A text that is not cut keeps its stretches without characters. -/
def divided (t : StyledText) (positions : List Nat) : List StyledText :=
  if positions.isEmpty then [t] else t.partsFrom 0 positions

/-- The positions of a character, counted from some number on. -/
def positionsFrom (c : Char) (n : Nat) : List Char → List Nat
  | [] => []
  | d :: rest => if d = c then n :: positionsFrom c (n + 1) rest else positionsFrom c (n + 1) rest

/-- The first characters of a text, with the stretches that start in them. -/
def cropped (t : StyledText) (length : Nat) : StyledText :=
  ⟨t.chars.take length,
    (t.faults.filter (·.start < length)).map fun s => ⟨s.start, min s.stop length⟩⟩

/-- A text with other characters. Where they are fewer, what starts after them is dropped. -/
def withChars (t : StyledText) (cs : List Char) : StyledText :=
  if cs.length < t.chars.length then { t.cropped cs.length with chars := cs }
  else { t with chars := cs }

/-- The lines of a text. -/
def lines (t : StyledText) : List StyledText :=
  let cuts := (positionsFrom '\n' 0 t.chars).flatMap fun n => [n, n + 1]
  if cuts.isEmpty then [t] else (t.divided cuts).filter fun line => line.chars ≠ ['\n']

/-! ## Tabs -/

/-- A text with blanks at its end, which belong to the stretches that reach it. -/
def extended (t : StyledText) (count : Nat) : StyledText :=
  let reach (s : Span) : Span := if t.chars.length ≤ s.stop then ⟨s.start, s.stop + count⟩ else s
  ⟨t.chars ++ List.replicate count ' ', t.faults.map reach⟩

/-- A part that may end with a tab, from a column on, with blanks up to the next stop in its
place. -/
def tabbed (column : Nat) (t : StyledText) : StyledText :=
  if t.chars.getLast? = some '\t' then
    let blank := { t with chars := t.chars.dropLast ++ [' '] }
    blank.extended (missingPlaces (column + textWidth blank.chars))
  else t

/-- Parts that may end with tabs, from a column on, put together. -/
def joinTabbed (column : Nat) : List StyledText → StyledText
  | [] => ⟨[], []⟩
  | part :: rest =>
    let here := part.tabbed column
    here.append (joinTabbed (column + textWidth here.chars) rest)

/-- A line with blanks up to the next stop in the place of each tab. -/
def expandTabs (t : StyledText) : StyledText :=
  let tabs := positionsFrom '\t' 0 t.chars
  if tabs.isEmpty then t else joinTabbed 0 (t.divided (tabs.map (· + 1)))

end StyledText

/-- A plain line with blanks up to the next stop in the place of each tab. -/
def expandTabs (line : List Char) : List Char :=
  (StyledText.expandTabs ⟨line, []⟩).chars

end LayeredLint.Console
