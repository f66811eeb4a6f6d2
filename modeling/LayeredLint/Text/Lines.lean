/-!
# Lines

- `universalNewlines`: a text with every line end as a line feed.
- `isLineEnd`, `splitLines`: the lines of a text by the line ends of all scripts.
-/

namespace LayeredLint.Text

/-- A text with every line end as a line feed. -/
def universalNewlines : List Char → List Char
  | '\r' :: '\n' :: rest => '\n' :: universalNewlines rest
  | '\r' :: rest => '\n' :: universalNewlines rest
  | c :: rest => c :: universalNewlines rest
  | [] => []

/-- A character that ends a line: those of ASCII from the line feed to the carriage return, the
separators of files, groups and records, and those of other scripts. -/
def isLineEnd (c : Char) : Bool :=
  let n := c.toNat
  (0xA ≤ n && n ≤ 0xD) || (0x1C ≤ n && n ≤ 0x1E) || n == 0x85 || n == 0x2028 || n == 0x2029

/-- The texts between line ends. -/
def splitLines : List Char → List (List Char)
  | [] => [[]]
  | c :: rest =>
    if isLineEnd c then [] :: splitLines rest
    else match splitLines rest with
      | line :: lines => (c :: line) :: lines
      | [] => [[c]]

end LayeredLint.Text
