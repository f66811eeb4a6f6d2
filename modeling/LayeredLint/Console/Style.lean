import LayeredLint.Console.Color
import LayeredLint.Text.Blank

/-!
# Styles

The name of a tag in a text for the console says how the text is drawn: words for attributes and
colours.

- `Attribute`: what a style turns on or off.
- `Style`: attributes, colours and a link.
- `Style.ofText?`: the style that a text says.
- `Style.text`: one text for all texts that say the same style.
-/

namespace LayeredLint.Console

/-! ## Attributes -/

/-- What a style turns on or off. -/
inductive Attribute where
  | bold
  | dim
  | italic
  | underline
  | blink
  | blink2
  | reverse
  | conceal
  | strike
  | underline2
  | frame
  | encircle
  | overline
  deriving DecidableEq, Repr

namespace Attribute

/-- The attributes, in the order in which they are written. -/
def all : List Attribute :=
  [bold, dim, italic, underline, blink, blink2, reverse, conceal, strike, underline2, frame,
   encircle, overline]

/-- The word for an attribute. -/
def word : Attribute → String
  | bold => "bold"
  | dim => "dim"
  | italic => "italic"
  | underline => "underline"
  | blink => "blink"
  | blink2 => "blink2"
  | reverse => "reverse"
  | conceal => "conceal"
  | strike => "strike"
  | underline2 => "underline2"
  | frame => "frame"
  | encircle => "encircle"
  | overline => "overline"

/-- Short words for some attributes. -/
def shortWords : List (String × Attribute) :=
  [("b", bold), ("d", dim), ("i", italic), ("u", underline), ("r", reverse), ("c", conceal),
   ("s", strike), ("uu", underline2), ("o", overline)]

/-- The attribute of a word. -/
def ofWord? (w : List Char) : Option Attribute :=
  (all.find? fun a => a.word.toList = w) <|>
    ((shortWords.find? fun entry => entry.1.toList = w).map Prod.snd)

/-- The word for an attribute stands for it. -/
theorem ofWord?_word (a : Attribute) : ofWord? a.word.toList = some a := by
  cases a <;> decide

end Attribute

/-! ## Styles -/

/-- How a text is drawn. What is not said stays as it is around the text. -/
structure Style where
  /-- Attributes turned on or off, the last said first. -/
  attributes : List (Attribute × Bool) := []
  color : Option (List Char) := none
  background : Option (List Char) := none
  link : Option (List Char) := none
  deriving DecidableEq, Repr

namespace Style

/-- A style with an attribute turned on or off. -/
def withAttribute (style : Style) (a : Attribute) (on : Bool) : Style :=
  { style with attributes := (a, on) :: style.attributes }

/-- Whether a style turns an attribute on or off. -/
def setting? (style : Style) (a : Attribute) : Option Bool :=
  (style.attributes.find? (·.1 = a)).map Prod.snd

/-- The words of a style in a fixed order. -/
def words (style : Style) : List (List Char) :=
  let attributes := Attribute.all.filterMap fun a =>
    (style.setting? a).map fun on => ((if on then "" else "not ") ++ a.word).toList
  attributes ++ style.color.toList ++
    (style.background.toList.map ("on ".toList ++ ·)) ++ style.link.toList.map ("link ".toList ++ ·)

/-- One text for all texts that say the same style. -/
def text (style : Style) : List Char :=
  if style.words.isEmpty then "none".toList else (style.words.intersperse [' ']).flatten

/-- A style with what further words say, none where they say no style. -/
def withWords? (style : Style) : List (List Char) → Except Failure (Option Style)
  | [] => .ok (some style)
  | word :: rest =>
    let lower := Text.lowerCase word
    if lower = "on".toList then
      match rest with
      | [] => .ok none
      | name :: rest => do
        match ← color? name with
        | some color => withWords? { style with background := some color } rest
        | none => return none
    else if lower = "not".toList then
      match rest with
      | [] => .ok none
      | name :: rest =>
        match Attribute.ofWord? name with
        | some a => withWords? (style.withAttribute a false) rest
        | none => .ok none
    else if lower = "link".toList then
      match rest with
      | [] => .ok none
      | target :: rest => withWords? { style with link := some target } rest
    else
      match Attribute.ofWord? lower with
      | some a => withWords? (style.withAttribute a true) rest
      | none => do
        match ← color? lower with
        | some color => withWords? { style with color := some color } rest
        | none => return none

/-- The style that a text says, if it says one. -/
def ofText? (cs : List Char) : Except Failure (Option Style) :=
  if Text.strip cs = "none".toList then .ok (some {}) else withWords? {} (Text.splitBlank cs)

/-- One text for all names that say the same style, and for all other names that differ in letter
case alone. -/
def normalName (name : List Char) : Except Failure (List Char) := do
  match ← ofText? name with
  | some style => return style.text
  | none => return Text.lowerCase (Text.strip name)

end Style

end LayeredLint.Console
