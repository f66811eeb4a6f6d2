import LayeredLint.Binary64.Basic
import LayeredLint.Console.Literal.Token

/-!
# Literals

The arguments of an action are literals: numbers, texts, constants, and tuples, sets and tables of
them.

- `Literal.Kind`: what a literal stands for, as far as literals around it depend on it.
- `Literal.expression?`: the literal at the front of tokens.
- `Literal.isLiteral`: whether a text is a literal, or several with commas between them.
-/

namespace LayeredLint.Console.Literal

/-- What a literal stands for. -/
inductive Kind where
  /-- A number, written with or without a sign. -/
  | number (n : Number) (signed : Bool)
  /-- Any other value that can be a key. -/
  | fixed
  /-- A set, a table, or a tuple with one of them, which can be no key. -/
  | changing
  deriving DecidableEq, Repr

/-- A value that can be a key of a table or an item of a set. -/
def Kind.isKey (k : Kind) : Bool :=
  k ≠ .changing

/-- A number that has a floating point number next to it. -/
def Number.isReal : Number → Bool
  | .whole n =>
    match Binary64.ofRatio false n 1 with
    | .finite .. => true
    | _ => false
  | .real => true
  | .imaginary => false

/-- A sum is one of a real number and an imaginary one without a sign. -/
def isSum : Kind → Kind → Bool
  | .number left _, .number .imaginary false => left.isReal
  | _, _ => false

/-- A tuple of values. -/
def tupleOf (items : List Kind) : Kind :=
  if items.all Kind.isKey then .fixed else .changing

/-- What follows texts in quotes that stand side by side, none where texts and bytes meet. -/
def afterQuoted? (bytes : Bool) : List Token → Option (List Token)
  | .quoted others :: rest => if others = bytes then afterQuoted? bytes rest else none
  | rest => some rest

mutual

/-- The literal at the front of tokens, and what follows: an operand, or a sum of two. -/
def expression? : (fuel : Nat) → List Token → Option (Kind × List Token)
  | 0, _ => none
  | fuel + 1, tokens => do
    let (left, rest) ← operand? fuel tokens
    match rest with
    | .plus :: rest | .minus :: rest =>
      let (right, after) ← operand? fuel rest
      if isSum left right then some (.fixed, after) else none
    | _ => some (left, rest)

/-- The operand at the front of tokens, and what follows. One sign may stand before a number. -/
def operand? : (fuel : Nat) → List Token → Option (Kind × List Token)
  | 0, _ => none
  | fuel + 1, .plus :: rest | fuel + 1, .minus :: rest =>
    match primary? fuel rest with
    | some (.number n false, after) => some (.number n true, after)
    | _ => none
  | fuel + 1, tokens => primary? fuel tokens

/-- The value without a sign at the front of tokens, and what follows. -/
def primary? : (fuel : Nat) → List Token → Option (Kind × List Token)
  | 0, _ => none
  | _ + 1, .number n :: rest => some (.number n false, rest)
  | _ + 1, .constant :: rest => some (.fixed, rest)
  | _ + 1, .setWord :: .openParen :: .closeParen :: rest => some (.changing, rest)
  | _ + 1, .quoted bytes :: rest => (afterQuoted? bytes rest).map (.fixed, ·)
  | _ + 1, .openParen :: .closeParen :: rest => some (.fixed, rest)
  | fuel + 1, .openParen :: rest => do
    let (first, rest) ← expression? fuel rest
    match rest with
    | .closeParen :: after => some (first, after)
    | .comma :: rest =>
      let (others, after) ← items? fuel (some .closeParen) rest
      some (tupleOf (first :: others), after)
    | _ => none
  | _ + 1, .openBrace :: .closeBrace :: rest => some (.changing, rest)
  | fuel + 1, .openBrace :: rest => do
    let (first, rest) ← expression? fuel rest
    if !first.isKey then none
    else
      match rest with
      | .closeBrace :: after => some (.changing, after)
      | .comma :: rest =>
        let (others, after) ← items? fuel (some .closeBrace) rest
        if others.all Kind.isKey then some (.changing, after) else none
      | .colon :: rest =>
        let (_, rest) ← expression? fuel rest
        let after ← afterEntries? fuel rest
        some (.changing, after)
      | _ => none
  | _ + 1, _ => none

/-- Further items up to what closes them, and what follows that. A comma may stand after the last
item. Without a token that closes them they reach to the end. -/
def items? : (fuel : Nat) → (closing : Option Token) → List Token →
    Option (List Kind × List Token)
  | 0, _, _ => none
  | fuel + 1, closing, tokens =>
    if tokens.head? = closing then some ([], tokens.tail)
    else do
      let (item, rest) ← expression? fuel tokens
      if rest.head? = closing then some ([item], rest.tail)
      else
        match rest with
        | .comma :: rest =>
          let (items, after) ← items? fuel closing rest
          some (item :: items, after)
        | _ => none

/-- What follows further entries of a table. -/
def afterEntries? : (fuel : Nat) → List Token → Option (List Token)
  | 0, _ => none
  | _ + 1, .closeBrace :: after => some after
  | _ + 1, .comma :: .closeBrace :: after => some after
  | fuel + 1, .comma :: rest => do
    let (key, rest) ← expression? fuel rest
    match rest with
    | .colon :: rest =>
      let (_, rest) ← expression? fuel rest
      if key.isKey then afterEntries? fuel rest else none
    | _ => none
  | _ + 1, _ => none

end

/-- Tokens are a literal, or several with commas between them. -/
def areLiteral (tokens : List Token) : Bool :=
  let fuel := 4 * tokens.length + 4
  match expression? fuel tokens with
  | some (_, []) => true
  | some (_, .comma :: rest) => (items? fuel none rest).isSome
  | _ => false

/-- A text is a literal, or several with commas between them. -/
def isLiteral (cs : List Char) : Bool :=
  (tokens? cs).any areLiteral

end LayeredLint.Console.Literal
