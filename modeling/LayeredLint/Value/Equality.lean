import LayeredLint.Value.Key

/-!
# Equal values

Two values may be equal without being built alike: numbers compare by what they count, a severity
equals its word, and tables do not mind the order of their entries. A NaN equals only the NaN of the
same payload.

- `Value.equal`: that equality.
-/

namespace LayeredLint.Value

/-- Whether a value is a number; truth values count as 0 and 1. -/
def isNumber : Value → Bool
  | .bool _ => true
  | .int _ => true
  | .float _ => true
  | _ => false

/-- Numbers are equal when they count the same. -/
def numberEqual (a b : Value) : Bool :=
  isNumber a && isNumber b && keyForm a = keyForm b

/-- The two tables assign the same accesses to the same globals. -/
def globalsEqual (a b : List (Value × GlobalAccess)) : Bool :=
  a.length = b.length && a.all fun e => Entries.find? e.1 b = some e.2

mutual

/-- Whether two values are equal. -/
def equal : Value → Value → Bool
  | .list a, .list b => equalItems a b
  | .tuple a, .tuple b => equalItems a b
  | .dict a, .dict b => a.length = b.length && entriesWithin a b
  | .setting s a, .setting t b => s = t && equalItems a b
  | .language g v s p o, .language g' v' s' p' o' =>
    globalsEqual g g' && equal v v' && s = s' && equal p p' && o.length = o'.length &&
      entriesWithin o o'
  | .str a, b => b.text? = some a
  | .severity a, b => b.text? = some a.word
  | a, b => if isNumber a then numberEqual a b else a = b
  termination_by structural a => a

/-- `equal`, item by item. -/
def equalItems : List Value → List Value → Bool
  | [], [] => true
  | a :: as, b :: bs => equal a b && equalItems as bs
  | _, _ => false
  termination_by structural a => a

/-- Every entry of the first table has an equal one in the second. -/
def entriesWithin : List (Value × Value) → List (Value × Value) → Bool
  | [], _ => true
  | (k, v) :: rest, b =>
    (match Entries.find? k b with
      | some w => equal v w
      | none => false) && entriesWithin rest b
  termination_by structural a => a

end

end LayeredLint.Value
