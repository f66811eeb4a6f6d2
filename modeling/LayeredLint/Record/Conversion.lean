import LayeredLint.Binary64.Decimal
import LayeredLint.Failure
import LayeredLint.Path
import LayeredLint.Text.Blank
import LayeredLint.Text.Digit
import LayeredLint.Text.Utf8
import LayeredLint.Value.Key

/-!
# Converting values

The fields of a record take values of a kind, and values of other kinds that plainly stand for one:
a number in a text, a truth value as a word, a text in bytes.

- `textOfValue`, `boolOfValue`, `intOfValue`, `pathOfValue`: one value.
- `integerOfText`: the integer that a text stands for.
- `textsOfValue`, `textTableOfValue`: sequences and tables of texts, with every issue in them.
-/

namespace LayeredLint.Record

/-- A converted value, or everything that is wrong with it. -/
abbrev Checked (α : Type) := Except (List Issue) α

/-- A single issue at the place looked at. -/
def issue {α : Type} (kind : IssueKind) : Checked α :=
  .error [⟨[], kind⟩]

/-- Issues seen from outside the part they are in. -/
def Checked.under {α : Type} (step : Step) : Checked α → Checked α
  | .ok a => .ok a
  | .error issues => .error (issues.map (Issue.under step))

/-- Combine two checks and keep the issues of both. -/
def Checked.apply {α β : Type} : Checked (α → β) → Checked α → Checked β
  | .ok f, .ok a => .ok (f a)
  | .ok _, .error issues => .error issues
  | .error issues, .ok _ => .error issues
  | .error issues, .error others => .error (issues ++ others)

/-- All the results of checks, or all their issues. -/
def Checked.all {α : Type} : List (Checked α) → Checked (List α)
  | [] => .ok []
  | c :: rest => Checked.apply (Checked.apply (.ok List.cons) c) (Checked.all rest)

/-! ## Texts -/

/-- The text of a text or of bytes, none where a text is broken or bytes are not UTF-8. -/
def textOrBytes? : Value → Option (Option String)
  | .str s => some (some s)
  | .brokenText _ => some none
  | .severity s => some (some s.word)
  | .bytes bs => some ((Utf8.decode? bs).map String.ofList)
  | _ => none

/-- A text, as such or in bytes. -/
def textOfValue (v : Value) : Checked String :=
  match textOrBytes? v with
  | some (some s) => .ok s
  | some none => issue .stringUnicode
  | none => issue .stringType

/-! ## Truth values -/

/-- The words for true. -/
def trueWords : List String := ["1", "true", "t", "yes", "y", "on"]

/-- The words for false. -/
def falseWords : List String := ["0", "false", "f", "no", "n", "off"]

/-- The truth value of a word in any case. -/
def boolOfText (s : String) : Checked Bool :=
  let word := String.ofList (s.toList.map Char.toLower)
  if trueWords.contains word then .ok true
  else if falseWords.contains word then .ok false
  else issue .boolParsing

/-! ## Integers -/

/-- White space around a number: as in names, but without the four separators. -/
def isNumberBlank (c : Char) : Bool :=
  Text.isBlank c && !(28 ≤ c.toNat && c.toNat ≤ 31)

/-- What follows zeros at the front of a number, given the last character that was dropped: zeros
and underscores are dropped up to another digit or a minus sign. A zero stays before a point, and
where nothing else follows. -/
def afterZeros? (last : Char) : List Char → Option (List Char)
  | [] => some [last]
  | c :: rest =>
    if c = '0' ∨ c = '_' then afterZeros? c rest
    else if c = '-' ∨ c.isDigit then some (c :: rest)
    else if c = '.' then some (last :: c :: rest)
    else none

/-- A number without the zeros at its front; it starts with a digit or a minus sign. -/
def withoutZeros? : List Char → Option (List Char)
  | [] => none
  | c :: rest =>
    if c = '0' then afterZeros? c rest
    else if c = '-' ∨ c.isDigit then some (c :: rest)
    else none

/-- A number without a plus sign at its front. -/
def withoutPlus? : List Char → Option (List Char)
  | '+' :: '-' :: _ => none
  | '+' :: rest => some rest
  | cs => some cs

/-- A number without a fraction that is zero. A point alone is no fraction. -/
def withoutZeroFraction (cs : List Char) : List Char :=
  let fraction := (cs.dropWhile (· ≠ '.')).drop 1
  if !fraction.isEmpty && fraction.all (· = '0') then cs.takeWhile (· ≠ '.') else cs

/-- A number without the single underscores between its parts. -/
def withoutUnderscores? (cs : List Char) : Option (List Char) :=
  let groups := Path.splitChars '_' cs
  if groups.all fun group => !group.isEmpty then some groups.flatten else none

/-- The integer of digits after an optional minus sign, with no needless zero at the front. -/
def plainInteger (cs : List Char) : Checked Int :=
  let negative := cs.head? = some '-'
  let body := if negative then cs.drop 1 else cs
  let digits := body.takeWhile Char.isDigit
  let startsWithZero := digits.head? = some '0'
  if !startsWithZero && Text.digitLimit < (cs.length - body.length) + digits.length then
    issue .intParsingSize
  else if digits.isEmpty || digits.length < body.length || startsWithZero && digits ≠ ['0'] then
    issue .intParsing
  else
    let n : Int := Binary64.digitsValue digits
    .ok (if negative then -n else n)

/-- A number in the form that `plainInteger` reads, none where the text is no number. -/
def plainForm? (cs : List Char) : Option (List Char) := do
  let trimmed := ((cs.dropWhile isNumberBlank).reverse.dropWhile isNumberBlank).reverse
  let digits ← withoutZeros? (← withoutPlus? trimmed)
  withoutUnderscores? (withoutZeroFraction digits)

/-- The integer that a text stands for. -/
def integerOfText (s : String) : Checked Int :=
  match plainForm? s.toList with
  | some cs => plainInteger cs
  | none => issue .intParsing

/-- The least number above all integers of 64 bits. -/
def wordLimit : Int := 9223372036854775808

/-- An integer of 64 bits. -/
def isWord (n : Int) : Bool :=
  -wordLimit ≤ n && n < wordLimit

/-- The integer that a floating point number is equal to, strictly between the limits of 64
bits. -/
def integerOfFloat (x : Binary64) : Checked Int :=
  match x with
  | .finite .. =>
    match x.integer? with
    | some n =>
      if -wordLimit < n ∧ n < wordLimit then .ok n else issue .intParsingSize
    | none => issue .intFromFloat
  | _ => issue .finiteNumber

/-- An integer, as such, as a truth value, as a number or as a text. -/
def intOfValue (v : Value) : Checked Int :=
  match v with
  | .int n => .ok n
  | .bool b => .ok (if b then 1 else 0)
  | .float x => integerOfFloat x
  | v =>
    match textOrBytes? v with
    | some (some s) => integerOfText s
    | some none => issue .intParsing
    | none => issue .intType

/-! ## Numbers as truth values -/

/-- The truth value of 0 or 1, among integers of 64 bits. -/
def boolOfInt (n : Int) : Checked Bool :=
  if n = 0 then .ok false
  else if n = 1 then .ok true
  else if isWord n then issue .boolParsing
  else issue .boolType

/-- A truth value, as such, as a number or as a word. -/
def boolOfValue (v : Value) : Checked Bool :=
  match v with
  | .bool b => .ok b
  | .int n => boolOfInt n
  | .float x =>
    match integerOfFloat x with
    | .ok n => boolOfInt n
    | .error _ => issue .boolType
  | v =>
    match textOrBytes? v with
    | some (some s) => boolOfText s
    | some none => issue .boolParsing
    | none => issue .boolType

/-! ## Other kinds -/

/-- A path, which only a text stands for. -/
def pathOfValue (v : Value) : Checked Path :=
  match v.text? with
  | some s => .ok (Path.ofString s)
  | none => issue .pathType

/-- A value or null. -/
def optional {α : Type} (convert : Value → Checked α) : Value → Checked (Option α)
  | .null => .ok none
  | v => some <$> convert v

/-- One of some words. -/
def wordOfValue (words : List String) : Value → Checked String
  | .str s => if words.contains s then .ok s else issue .literalError
  | _ => issue .literalError

/-- Every item converted, with the issues of all of them. -/
def itemsOfValue {α : Type} (convert : Value → Checked α) (v : Value) : Checked (List α) :=
  let all (items : List Value) : Checked (List α) :=
    Checked.all (items.mapIdx fun i item => (convert item).under (.index i))
  match v with
  | .list items => all items
  | .tuple items => all items
  | _ => issue .tupleType

/-- A sequence of texts. -/
def textsOfValue (v : Value) : Checked (List String) :=
  itemsOfValue textOfValue v

/-- The step to the entry of a key: its text, its number where it is a small one, or else the key
as messages show it. -/
def stepOfKey (key : Value) : Step :=
  match key.text?, key.integer? with
  | some s, _ => .field s
  | none, some n =>
    if isWord n then .index n else .field key.shown
  | none, none => .field key.shown

/-- A table from texts to texts. -/
def textTableOfValue : Value → Checked (Table String String)
  | .dict entries =>
    Table.ofList <$> Checked.all (entries.map fun (key, v) =>
      let step := stepOfKey key
      Checked.apply
        (Checked.apply (.ok Prod.mk) (((textOfValue key).under (.field "[key]")).under step))
        ((textOfValue v).under step))
  | _ => issue .dictType

end LayeredLint.Record
