import LayeredLint.Toml.Text
import LayeredLint.Value.Key

/-!
# The tables of a settings document

A document is built statement by statement. A table may be opened by a header once, arrays of tables
grow by a header each time, and what a value has filled in place is closed for good.

- `Toml.updateAt?`: change the table at the end of a path, which is made where it is not there.
- `Toml.Document`: the tables built so far, and what may no longer be opened.
- `Document.openTable`, `Document.openItem`, `Document.assign`: the three statements.
- `Toml.assignInline`: an entry of a table written in place.
-/

namespace LayeredLint.Toml

/-- The entries of a table. -/
abbrev Entries := List (Value × Value)

/-- The parts of a key. -/
abbrev Key := List String

/-! ## Paths into tables -/

/-- The entries of a table. -/
def tableOf? : Value → Option Entries
  | .dict entries => some entries
  | _ => none

/-- Change a table; of an array the last item is meant, where arrays may be gone through. -/
def updateTable? (throughArrays : Bool) (change : Entries → Option Entries) :
    Value → Option Value
  | .dict entries => Value.dict <$> change entries
  | .list items => do
    if !throughArrays then none
    let entries ← items.getLast?.bind tableOf?
    let changed ← change entries
    return .list (items.dropLast ++ [.dict changed])
  | _ => none

/-- Change the table at the end of a path. Tables on the way are made where they are not there;
there is no way through a value of another kind. -/
def updateAt? (throughArrays : Bool) (change : Entries → Option Entries) :
    Key → Entries → Option Entries
  | [], entries => change entries
  | part :: rest, entries => do
    let current := (LayeredLint.Entries.find? (Value.str part) entries).getD (.dict [])
    let changed ← updateTable? throughArrays (updateAt? throughArrays change rest) current
    return LayeredLint.Entries.insert (.str part) changed entries

/-- Add an entry under a name that is still free. -/
def insertNew? (name : String) (v : Value) (entries : Entries) : Option Entries :=
  if LayeredLint.Entries.contains (Value.str name) entries then none
  else some (LayeredLint.Entries.insert (.str name) v entries)

/-- Add an empty table to the array under a name. -/
def addItem? (name : String) (entries : Entries) : Option Entries :=
  match LayeredLint.Entries.find? (Value.str name) entries with
  | none => some (LayeredLint.Entries.insert (.str name) (.list [.dict []]) entries)
  | some (.list items) =>
    some (LayeredLint.Entries.insert (.str name) (.list (items ++ [.dict []])) entries)
  | some _ => none

/-- A key apart: the table it leads to, and the name there. -/
def splitKey? (key : Key) : Option (Key × String) :=
  key.getLast?.map (key.dropLast, ·)

/-- Fail where a change is not possible. -/
def orMalformed {α : Type} : Option α → Except Fault α
  | some a => .ok a
  | none => malformed

/-! ## Statements -/

/-- The tables built so far. -/
structure Document where
  entries : Entries := []
  /-- The table that entries are added to. -/
  header : Key := []
  /-- Tables that a header cannot open again. -/
  opened : List Key := []
  /-- The same, from the next header on. -/
  pending : List Key := []
  /-- Tables and arrays filled in place; nothing inside them changes any more. -/
  closed : List Key := []

namespace Document

/-- A key leads into something that was filled in place. -/
def isClosed (d : Document) (key : Key) : Bool :=
  d.closed.any fun c => c.isPrefixOf key

/-- A table that a header cannot open. -/
def isOpened (d : Document) (key : Key) : Bool :=
  d.opened.contains key

/-- What waits for the next header takes effect. -/
def settle (d : Document) : Document :=
  { d with opened := d.opened ++ d.pending, pending := [] }

/-- Everything at and below a key may be opened again. -/
def release (d : Document) (key : Key) : Document :=
  { d with
    opened := d.opened.filter fun k => !key.isPrefixOf k
    closed := d.closed.filter fun k => !key.isPrefixOf k }

/-- A header that opens a table. -/
def openTable (d : Document) (key : Key) : Except Fault Document :=
  if d.isOpened key || d.isClosed key then malformed
  else do
    let entries ← orMalformed (updateAt? true some key d.entries)
    return { d with entries := entries, header := key, opened := d.opened ++ [key] }

/-- A header that adds a table to an array. -/
def openItem (d : Document) (key : Key) : Except Fault Document :=
  if d.isClosed key then malformed
  else do
    let (parent, name) ← orMalformed (splitKey? key)
    let entries ← orMalformed (updateAt? true (addItem? name) parent d.entries)
    let released := d.release key
    return { released with entries := entries, header := key, opened := released.opened ++ [key] }

/-- Tables and arrays are filled in place, so that nothing is added to them later. -/
def fillsInPlace : Value → Bool
  | .dict _ => true
  | .list _ => true
  | _ => false

/-- The tables that a key with several parts goes through, below the header. -/
def tablesThrough (header key : Key) : List Key :=
  (List.range (key.length - 1)).map fun n => header ++ key.take (n + 1)

/-- An entry of the table that was opened last. -/
def assign (d : Document) (key : Key) (v : Value) : Except Fault Document := do
  let (parent, name) ← orMalformed (splitKey? key)
  let through := tablesThrough d.header key
  if through.any d.isOpened || d.isClosed (d.header ++ parent) then
    malformed
  let entries ← orMalformed (updateAt? true (insertNew? name v) (d.header ++ parent) d.entries)
  return { d with
    entries := entries
    pending := d.pending ++ through
    closed := if fillsInPlace v then d.closed ++ [d.header ++ key] else d.closed }

end Document

/-- An entry of a table written in place. `filled` holds the keys of the entries that are tables or
arrays themselves. -/
def assignInline (entries : Entries) (filled : List Key) (key : Key) (v : Value) :
    Except Fault (Entries × List Key) := do
  if filled.any fun c => c.isPrefixOf key then
    malformed
  let (parent, name) ← orMalformed (splitKey? key)
  let entries ← orMalformed (updateAt? false (insertNew? name v) parent entries)
  return (entries, if Document.fillsInPlace v then filled ++ [key] else filled)

end LayeredLint.Toml
