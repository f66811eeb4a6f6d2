/-!
# Shell words

A command line written as one text is cut into words the way a shell does, without expansions and
without comments.

- `WordState`: where a reader stands between two characters.
- `words`: the words of a text, or the reason why it ends too early.
-/

namespace LayeredLint.Text

/-- Why a text has no words: it ends inside quotes, or right after a backslash. -/
inductive WordError where
  | openQuote
  | openEscape
  deriving DecidableEq, Repr

/-- The wording of a `WordError`. -/
def WordError.message : WordError → String
  | .openQuote => "No closing quotation"
  | .openEscape => "No escaped character"

/-- Where the reader stands: outside quotes, after a backslash there, inside the quotes `mark`, or
after a backslash inside double quotes. -/
inductive WordState where
  | plain
  | escaped
  | quoted (mark : Char)
  | quotedEscaped
  deriving DecidableEq, Repr

/-- Words are separated by runs of these. -/
def isSeparator (c : Char) : Bool :=
  c = ' ' || c = '\t' || c = '\r' || c = '\n'

/-- Close the word under construction, if one was begun. -/
def closeWord : Option (List Char) → List String
  | none => []
  | some word => [String.ofList word.reverse]

/-- Add a character to the word under construction, which it begins if there is none. -/
def growWord (word : Option (List Char)) (c : Char) : Option (List Char) :=
  some (c :: word.getD [])

/-- Read on from a state with the word under construction, its characters in reverse. A word
begins with a character or with quotes, so that empty quotes make an empty word. -/
def wordsFrom : WordState → Option (List Char) → List Char → Except WordError (List String)
  | .plain, word, [] => .ok (closeWord word)
  | .escaped, _, [] => .error .openEscape
  | .quoted _, _, [] => .error .openQuote
  | .quotedEscaped, _, [] => .error .openEscape
  | .plain, word, c :: rest =>
    if isSeparator c then (closeWord word ++ ·) <$> wordsFrom .plain none rest
    else if c = '\\' then wordsFrom .escaped word rest
    else if c = '\'' ∨ c = '"' then wordsFrom (.quoted c) (some (word.getD [])) rest
    else wordsFrom .plain (growWord word c) rest
  | .escaped, word, c :: rest => wordsFrom .plain (growWord word c) rest
  | .quoted mark, word, c :: rest =>
    if c = mark then wordsFrom .plain word rest
    else if c = '\\' ∧ mark = '"' then wordsFrom .quotedEscaped word rest
    else wordsFrom (.quoted mark) (growWord word c) rest
  | .quotedEscaped, word, c :: rest =>
    -- Inside double quotes a backslash quotes only itself and the mark.
    if c = '\\' ∨ c = '"' then wordsFrom (.quoted '"') (growWord word c) rest
    else wordsFrom (.quoted '"') (growWord (growWord word '\\') c) rest

/-- The words of a text. -/
def words (s : String) : Except WordError (List String) :=
  wordsFrom .plain none s.toList

end LayeredLint.Text
