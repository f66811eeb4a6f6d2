import LayeredLint.Record.Conversion

/-!
# Fields of records

A record is read from a table. A field may go by two names, the one used by tools and the one used
in code; where both are given the first decides.

- `FieldName`: the two names.
- `field`: a field that may be left out.
- `requiredField`: a field that may not.
- `unknownKeys`: the entries that belong to no field.
-/

namespace LayeredLint.Record

/-- The names of a field: the one used by tools, and the one used in code. -/
structure FieldName where
  toolName : String
  codeName : String
  deriving DecidableEq, Repr

/-- A field with one name. -/
def FieldName.plain (name : String) : FieldName := ⟨name, name⟩

/-- The entry of a field: the name it was given by, and its value. -/
def FieldName.find? (name : FieldName) (entries : List (Value × Value)) : Option (String × Value) :=
  match Entries.find? (Value.str name.toolName) entries with
  | some v => some (name.toolName, v)
  | none => (Entries.find? (Value.str name.codeName) entries).map (name.codeName, ·)

/-- A field that has a default. -/
def field {α : Type} (entries : List (Value × Value)) (name : FieldName)
    (convert : Value → Checked α) (default : α) : Checked α :=
  match name.find? entries with
  | some (used, v) => (convert v).under (.field used)
  | none => .ok default

/-- A field that has to be given. -/
def requiredField {α : Type} (entries : List (Value × Value)) (name : FieldName)
    (convert : Value → Checked α) : Checked α :=
  match name.find? entries with
  | some (used, v) => (convert v).under (.field used)
  | none => (issue .missing : Checked α).under (.field name.toolName)

/-- A check that only finds issues, after the fields of a record. -/
def Checked.alsoRefuse {α : Type} (checked : Checked α) (issues : List Issue) : Checked α :=
  if issues.isEmpty then checked
  else Checked.apply (Checked.apply (.ok fun a (_ : Unit) => a) checked) (.error issues)

/-- The keys that name none of the fields, in order. -/
def unknownKeys (names : List FieldName) (entries : List (Value × Value)) : List Value :=
  (entries.map Prod.fst).filter fun key =>
    !names.any fun name => key.text? = some name.toolName || key.text? = some name.codeName

/-- A record in the place of a field: only a table can be one. -/
def recordOfValue {α : Type} (read : List (Value × Value) → Checked α) : Value → Checked α
  | .dict entries => read entries
  | _ => issue .modelType

end LayeredLint.Record
