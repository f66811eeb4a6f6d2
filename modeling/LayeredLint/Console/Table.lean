import LayeredLint.Console.Columns
import LayeredLint.Console.Markup
import LayeredLint.Console.Wrap
import LayeredLint.Diagnostic
import LayeredLint.Layer
import LayeredLint.Provenance

/-!
# Tables

- `TableColumn`: the header of a column, and how its cells are drawn.
- `TextTable`: a title, columns, and rows of texts.
- `layersTable`, `rulesTable`, `traceTable`, `diagnosticsTable`: what the commands show.
- `TextTable.lines`: a table for the console, with its columns aligned.
-/

namespace LayeredLint

/-- The header of a column, and how its cells are drawn. -/
structure TableColumn where
  header : String
  overflow : Console.Overflow := .ellipsis
  atRight : Bool := false
  deriving DecidableEq, Repr

/-- A title, columns, and rows with a cell for each column. -/
structure TextTable where
  title : String
  columns : List TableColumn
  rows : List (List String) := []
  /-- The columns use all places of a line. -/
  fillsLine : Bool := true
  deriving DecidableEq, Repr

/-! ## What the commands show -/

/-- The row of a layer: its name and its sizes. -/
def layerRow (layers : LayerSet) (layer : Layer) : Except Failure (List String) := do
  let c ← layers.configuration layer
  return [layer.name, toString (layers.items layer).length, toString c.plugins.size,
    toString c.rules.size, toString c.enabledRules.size]

/-- A column of numbers. -/
def numberColumn (header : String) : TableColumn :=
  { header := header, atRight := true }

/-- A column of texts that may be long. -/
def longColumn (header : String) : TableColumn :=
  { header := header, overflow := .fold }

/-- Layers with the sizes of their configurations. -/
def layersTable (layers : LayerSet) (selected : List Layer) : Except Failure TextTable := do
  let rows ← selected.mapM (layerRow layers)
  let sizes := ["Fragments", "Plugins", "Rules", "Enabled"].map numberColumn
  return { title := "Layers", columns := { header := "Layer" } :: sizes, rows := rows,
           fillsLine := false }

/-- The settings of the rules of a configuration, by rule. Rules that are switched off are left out
unless they are asked for. -/
def rulesTable (c : EffectiveConfiguration) (title : String) (includeOff : Bool) : TextTable where
  title := title
  columns := [{ header := "Rule" }, longColumn "Setting"]
  rows := (Text.sortedSet (c.rules.keys.map Name.word)).filterMap fun (rule : String) => do
    let setting ← c.rules.find? (Name.text rule)
    if includeOff || setting.enabled then some [rule, setting.text] else none

/-- The row of an assignment. The name of a fragment has to be a text to be shown. -/
def assignmentRow (a : Assignment) : Except Failure (List String) :=
  match a.fragment.text? with
  | some fragment =>
    .ok [a.rule.word, fragment, a.setting.text, (a.previous.map RuleSetting.text).getD "-"]
  | none => impossible .unrenderable

/-- Assignments in order of composition. -/
def traceTable (assignments : List Assignment) (title : String) : Except Failure TextTable := do
  let rows ← assignments.mapM assignmentRow
  let columns := [{ header := "Rule" }, { header := "Fragment" }, longColumn "Setting",
    longColumn "Replaces"]
  return { title := title, columns := columns, rows := rows }

/-- What a table shows for the rule of a diagnostic. -/
def shownRule (d : Diagnostic) : String :=
  match d.ruleId.filter (· ≠ "") with
  | some rule => rule
  | none => if d.fatal then "fatal" else "-"

/-- Diagnostics in the order of the engine. -/
def diagnosticsTable (diagnostics : List Diagnostic) (title : String) : TextTable where
  title := title
  columns := [{ header := "Location" }, { header := "Severity" }, { header := "Rule" },
    longColumn "Message"]
  rows := diagnostics.map fun d => [d.location, d.severity.word, shownRule d, d.message]

/-! ## Layout -/

namespace Console

/-- How many places a line of the console has. -/
def lineWidth : Nat := 1000

/-- Lists of first items, of second items, and so on. -/
def transposed {α : Type} : (count : Nat) → List (List α) → List (List α)
  | 0, _ => []
  | count + 1, lists => lists.filterMap List.head? :: transposed count (lists.map List.tail)

end Console

namespace TextTable

open Console

/-- How many places a column needs: those of the longest line in its cells, and a blank on either
side. -/
def neededWidth (cells : List StyledText) : Nat :=
  let lines := cells.flatMap fun cell => Text.splitLines cell.chars
  (lines.map textWidth).foldl max 0 + 2

/-- A line of a cell in some places, a blank on either side among them. -/
def paddedLine (column : TableColumn) (width : Nat) (line : List Char) : List Char :=
  let places := width - 2
  if column.atRight then
    let line := Text.dropEnd line
    ' ' :: List.replicate (places - textWidth line) ' ' ++ line ++ [' ']
  else ' ' :: filled places line ++ [' ']

/-- Cells side by side, with an edge of blanks. -/
def sideBySide (cells : List (List Char)) : String :=
  String.ofList (' ' :: (cells.intersperse [' ']).flatten ++ [' '])

/-- The lines of a row. It is as high as its highest cell. -/
def rowLines (columns : List TableColumn) (widths : List Nat) (cells : List StyledText) :
    Except Failure (List String) := do
  let cells ← ((columns.zip widths).zip cells).mapM fun ((column, width), cell) =>
    (cell.wrapped (width - 2) column.overflow).mapM StyledText.shown
  let height := (cells.map List.length).foldl max 0
  return (List.range height).map fun n =>
    sideBySide (((columns.zip widths).zip cells).map fun ((column, width), lines) =>
      paddedLine column width (lines[n]?.getD []))

/-- The lines of a title. An empty one has none. -/
def titleLines (emoji : Bool) (title : String) : Except Failure (List String) := do
  if title = "" then
    return []
  let title ← styled emoji title.toList
  let lines ← title.lines.mapM fun line => line.expandTabs.shown
  return lines.map String.ofList

/-- A line of one character below cells of some widths. -/
def ruleLine (c : Char) (widths : List Nat) : String :=
  sideBySide [List.replicate (total widths + (widths.length - 1)) c]

/-- A table for the console: the title, the headers, a rule, and the rows. The cells are looked at
column by column, and only then the title. -/
def lines (emoji : Bool) (t : TextTable) : Except Failure (List String) := do
  let cells := t.columns.map TableColumn.header :: t.rows
  let columns ← (transposed t.columns.length cells).mapM fun column =>
    column.mapM fun cell => styled emoji cell.toList
  let limit := lineWidth - (t.columns.length + 1)
  let widths := columnWidths limit t.fillsLine (columns.map neededWidth)
  let title ← titleLines emoji t.title
  let rows ← (transposed cells.length columns).mapM (rowLines t.columns widths)
  let blank := ruleLine ' ' widths
  return title ++ blank :: (rows.take 1).flatten ++ ruleLine '─' widths ::
    (rows.drop 1).flatten ++ [blank]

end TextTable

end LayeredLint
