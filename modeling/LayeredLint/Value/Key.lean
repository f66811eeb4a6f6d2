import LayeredLint.Table
import LayeredLint.Value.Identity

/-!
# Values as keys

Numbers are one key when they are numerically equal, and a severity is one key with its word, so
`1`, `1.0` and true name the same entry of a table.

- `Value.keyForm`: one representative for all keys that name the same entry.
- `SameKey Value`: keys are the same when their representatives are.
- `Value.ofEntries`: the table that a sequence of assignments makes.
-/

namespace LayeredLint.Value

mutual

/-- The representative of a key. -/
def keyForm : Value → Value
  | .bool b => .int (if b then 1 else 0)
  | .float x => match x.integer? with
    | some n => .int n
    | none => .float x
  | .severity s => .str s.word
  | .tuple items => .tuple (keyForms items)
  | .setting s options => .setting s (keyForms options)
  | v => v

/-- The representatives of the parts of a key. -/
def keyForms : List Value → List Value
  | [] => []
  | v :: rest => keyForm v :: keyForms rest

end

/-- Two values that name the same entry of a table. -/
instance : SameKey Value where
  same a b := keyForm a = keyForm b
  refl a := by simp
  symm h := by simpa using (by simpa using h : _ = _).symm
  trans h h' := by simp_all

theorem same_iff {a b : Value} : same a b = true ↔ keyForm a = keyForm b := by
  simp [same]

/-- Among texts, only equal ones are the same key. -/
@[simp] theorem same_str (a b : String) : same (Value.str a) (Value.str b) = decide (a = b) := by
  simp [same, keyForm]

/-- The table that a sequence of assignments makes. -/
def ofEntries (assignments : List (Value × Value)) : Value :=
  .dict (Entries.ofList assignments)

end LayeredLint.Value
