import LayeredLint.Toml.Document
import LayeredLint.Toml.Number

/-!
# Reading a settings document

- `Toml.readValue`, `Toml.readItems`, `Toml.readEntries`: a value, the rest of an array and the
  rest of a table written in place, each with what follows it.
- `Toml.readStatement`: one statement.
- `Toml.read`: the table of a whole document.
-/

namespace LayeredLint.Toml

/-! ## Comments -/

/-- What follows the comment at the front, which ends before the line end. -/
def skipComment : List Char → Except Fault (List Char)
  | '#' :: rest =>
    if (rest.takeWhile (· ≠ '\n')).any isControl then malformed
    else .ok (rest.dropWhile (· ≠ '\n'))
  | cs => .ok cs

/-- What follows the white space, line ends and comments at the front. -/
def skipFiller : (fuel : Nat) → List Char → Except Fault (List Char)
  | 0, cs => .ok cs
  | fuel + 1, cs => do
    match cs.dropWhile isSpaceOrNewline with
    | '#' :: rest => skipFiller fuel (← skipComment ('#' :: rest))
    | rest => return rest

/-! ## Values -/

/-- The truth value at the front, and what follows it. -/
def readWord? (cs : List Char) : Option (Value × List Char) :=
  if "true".toList.isPrefixOf cs then some (.bool true, cs.drop 4)
  else if "false".toList.isPrefixOf cs then some (.bool false, cs.drop 5)
  else none

/-- A value that holds no others. -/
def readPlain (cs : List Char) : Except Fault (Value × List Char) :=
  match readWord? cs with
  | some found => .ok found
  | none =>
    match readMoment? cs with
    | some reading => reading
    | none => (readNumber? cs).getD malformed

/-- How deeply arrays and tables may be nested, where an array counts two and a table three. This is
what a limit of 1000 nested calls leaves to the reader at one depth of the stack; called from further
down it has less. -/
def depthLimit : Nat := 985

/-- What an array and a table in place count. -/
def depthOf (c : Char) : Nat :=
  if c = '[' then 2 else 3

mutual

/-- A value, which is nested no deeper than `depth`, and what follows it. -/
def readValue (depth : Nat) : (fuel : Nat) → List Char → Except Fault (Value × List Char)
  | 0, _ => malformed
  | _ + 1, [] => malformed
  | fuel + 1, c :: rest =>
    if c = '"' ∨ c = '\'' then do
      let (s, after) ← readQuoted c rest
      return (.str s, after)
    else if c = '[' ∨ c = '\x7b' then
      if depth < depthOf c then .error .tooDeep
      else if c = '[' then do
        let (items, after) ←
          readItems (depth - depthOf c) fuel (← skipFiller (rest.length + 1) rest)
        return (.list items, after)
      else
        match skipLineSpace rest with
        | '\x7d' :: after => .ok (.dict [], after)
        | cs => do
          let (entries, after) ← readEntries (depth - depthOf c) fuel [] [] cs
          return (.dict entries, after)
    else readPlain (c :: rest)

/-- The items up to the closing bracket, which may follow a comma, and what follows it. -/
def readItems (depth : Nat) : (fuel : Nat) → List Char → Except Fault (List Value × List Char)
  | 0, _ => malformed
  | _ + 1, ']' :: after => .ok ([], after)
  | fuel + 1, cs => do
    let (item, rest) ← readValue depth fuel cs
    match ← skipFiller (rest.length + 1) rest with
    | ']' :: after => return ([item], after)
    | ',' :: rest => do
      let (items, after) ← readItems depth fuel (← skipFiller (rest.length + 1) rest)
      return (item :: items, after)
    | _ => malformed

/-- The entries from the next one up to the closing brace, added to those before, and what follows
the brace. -/
def readEntries (depth : Nat) : (fuel : Nat) → Entries → List Key → List Char →
    Except Fault (Entries × List Char)
  | 0, _, _, _ => malformed
  | fuel + 1, entries, filled, cs => do
    let (key, rest) ← readKey cs
    match rest with
    | '=' :: rest => do
      let (v, rest) ← readValue depth fuel (skipLineSpace rest)
      let (entries, filled) ← assignInline entries filled key v
      match skipLineSpace rest with
      | '\x7d' :: after => return (entries, after)
      | ',' :: rest => readEntries depth fuel entries filled (skipLineSpace rest)
      | _ => malformed
    | _ => malformed

end

/-- A bound for the number of nested calls: each has read a character, or stands for a value. -/
def callBound (cs : List Char) : Nat :=
  2 * cs.length + 2

/-! ## Statements -/

/-- What follows one mark. -/
def expect (mark : Char) : List Char → Except Fault (List Char)
  | [] => malformed
  | c :: rest => if c = mark then .ok rest else malformed

/-- A header, given what follows its first bracket. -/
def readHeader (d : Document) (rest : List Char) : Except Fault (Document × List Char) :=
  match rest with
  | '[' :: rest => do
    let (key, rest) ← readKey (skipLineSpace rest)
    let d ← d.openItem key
    let rest ← expect ']' rest
    return (d, ← expect ']' rest)
  | rest => do
    let (key, rest) ← readKey (skipLineSpace rest)
    let d ← d.openTable key
    return (d, ← expect ']' rest)

/-- An entry: a key, an equals sign and a value. -/
def readEntry (d : Document) (cs : List Char) : Except Fault (Document × List Char) := do
  let (key, rest) ← readKey cs
  let rest ← expect '=' rest
  let (v, after) ← readValue depthLimit (callBound rest) (skipLineSpace rest)
  return (← d.assign key v, after)

/-- A statement, which may be empty, and what follows it. -/
def readStatement (d : Document) (cs : List Char) : Except Fault (Document × List Char) :=
  match cs with
  | [] => .ok (d, [])
  | c :: rest =>
    if c = '\n' ∨ c = '#' then .ok (d, c :: rest)
    else if c = '[' then readHeader d.settle rest
    else if isBare c ∨ c = '"' ∨ c = '\'' then readEntry d (c :: rest)
    else malformed

/-- The statements of a document, one to a line. -/
def readStatements : (fuel : Nat) → Document → List Char → Except Fault Document
  | 0, d, _ => .ok d
  | fuel + 1, d, cs => do
    let (d, rest) ← readStatement d (skipLineSpace cs)
    match ← skipComment (skipLineSpace rest) with
    | [] => return d
    | '\n' :: rest => readStatements fuel d rest
    | _ => malformed

/-- A line end of two characters counts as one. -/
def joinLineEnds : List Char → List Char
  | '\r' :: '\n' :: rest => '\n' :: joinLineEnds rest
  | c :: rest => c :: joinLineEnds rest
  | [] => []

/-- The entries of a whole document. -/
def read (document : List Char) : Except Fault Entries := do
  let cs := joinLineEnds document
  let d ← readStatements (cs.length + 1) {} cs
  return d.entries

end LayeredLint.Toml
