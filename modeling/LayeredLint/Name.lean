import LayeredLint.Table
import LayeredLint.Value.Text

/-!
# Names of plugins and rules

Plugins and rules go by texts. A severity is a text too, so it can stand where a name belongs; it
then counts as its word, and only messages show it differently.

- `Name`: a text or a severity.
- `Name.word`: what a name counts as.
- `Name.ofValue?`, `Name.toValue`: names among values.
- `SameKey Name`: names are the same when their words are.
- `Name.display`: a name inside a message.
-/

namespace LayeredLint

/-- The name of a plugin, or the id of a rule. -/
inductive Name where
  | text (s : String)
  | severity (s : Severity)
  deriving DecidableEq, Repr

namespace Name

instance : Coe String Name := ⟨.text⟩

/-- What a name counts as. -/
def word : Name → String
  | .text s => s
  | .severity s => s.word

/-- The name that a value stands for. -/
def ofValue? : Value → Option Name
  | .str s => some (.text s)
  | .severity s => some (.severity s)
  | _ => none

/-- A name as a value. -/
def toValue : Name → Value
  | .text s => .str s
  | .severity s => .severity s

/-- A name inside a message. -/
def display : Name → String
  | .text s => s
  | .severity s => s.name

/-- Two names are the same when they count as the same word. -/
instance : SameKey Name where
  same a b := a.word == b.word
  refl a := by simp
  symm h := by simpa using (by simpa using h : _ = _).symm
  trans h h' := by simp_all

theorem same_iff {a b : Name} : same a b = true ↔ a.word = b.word := by
  simp [same]

@[simp] theorem ofValue?_toValue (n : Name) : ofValue? n.toValue = some n := by
  cases n <;> rfl

end Name

end LayeredLint
