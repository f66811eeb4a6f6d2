import LayeredLint.Console.EmojiTable
import LayeredLint.Path
import LayeredLint.Text.Blank
import LayeredLint.Text.Case

/-!
# Emoji codes

A title or a cell may name an emoji between two colons.

- `emoji?`: the emoji of a name.
- `codeName?`: the name in a code.
- `withEmoji`: a text with emoji in the place of their codes.
-/

namespace LayeredLint.Console

/-! ## Names -/

/-- Names with what stands after each of them. -/
def paired : List (List Char) → List (List Char × List Char)
  | name :: emoji :: rest => (name, emoji) :: paired rest
  | _ => []

/-- The emoji of a name in the lines of a table. -/
def lookup? (lines : List String) (name : List Char) : Option (List Char) :=
  let entries := lines.flatMap fun line => paired (Path.splitChars ' ' line.toList)
  (entries.find? (·.1 = name)).map Prod.snd

/-- The tones of skin, with the marks that ask for them. -/
def tones : List (String × Char) :=
  [("_light_skin_tone", Char.ofNat 0x1F3FB), ("_medium-light_skin_tone", Char.ofNat 0x1F3FC),
   ("_medium_skin_tone", Char.ofNat 0x1F3FD), ("_medium-dark_skin_tone", Char.ofNat 0x1F3FE),
   ("_dark_skin_tone", Char.ofNat 0x1F3FF)]

/-- What stands before the end of a text. -/
def beforeEnd? (ending cs : List Char) : Option (List Char) :=
  if ending.isSuffixOf cs then some (cs.take (cs.length - ending.length)) else none

/-- An emoji with a tone after its first character, which then needs no mark for a picture. -/
def toned (tone : Char) : List Char → List Char
  | c :: '\uFE0F' :: rest => c :: tone :: rest
  | c :: rest => c :: tone :: rest
  | [] => []

/-- The emoji of a person with a tone of skin. -/
def tonedEmoji? (name : List Char) : Option (List Char) :=
  tones.findSome? fun (ending, tone) => do
    let person ← beforeEnd? ending.toList name
    (lookup? tonedEmojiLines person).map (toned tone)

/-- A flag by its region, or by its region after a word for flags. -/
def flag? (name : List Char) : Option (List Char) :=
  let word := "flag_for_".toList
  lookup? flagLines (if word.isPrefixOf name then name.drop word.length else name)

/-- The emoji of a name. -/
def emoji? (name : List Char) : Option (List Char) :=
  lookup? emojiLines name <|> lookup? tonedEmojiLines name <|> tonedEmoji? name <|> flag? name

/-! ## Codes -/

/-- The endings of a code that say how its emoji is to be drawn, with their marks. -/
def drawings : List (String × Char) :=
  [("-emoji", '\uFE0F'), ("-text", '\uFE0E')]

/-- The emoji of a code, by what stands between its colons. Letter case is ignored in names. -/
def codeEmoji? (code : List Char) : Option (List Char) :=
  let drawn := drawings.findSome? fun (ending, mark) =>
    (beforeEnd? ending.toList code).map fun name => (name, [mark])
  let (name, marks) := drawn.getD (code, [])
  (emoji? (Text.lowerCase name)).map (· ++ marks)

/-- What stands between two colons, given the character that may be the first of them. A code holds
no white space. -/
def codeName? (first : Char) (rest : List Char) : Option (List Char) :=
  let name := rest.takeWhile fun c => c ≠ ':' && !Text.isBlank c
  if first = ':' ∧ rest[name.length]? = some ':' then some name else none

/-- What is shown for a code: its emoji, or the code itself. -/
def shownCode (code : List Char) : List Char :=
  (codeEmoji? code).getD (':' :: code ++ [':'])

/-- A text with emoji in the place of their codes. -/
def withEmoji : List Char → List Char
  | [] => []
  | c :: rest =>
    match codeName? c rest with
    | some code => shownCode code ++ withEmoji (rest.drop (code.length + 1))
    | none => c :: withEmoji rest
termination_by cs => cs.length
decreasing_by
  · simp only [List.length_drop, List.length_cons]
    omega
  · simp

end LayeredLint.Console
