/-!
# Paths

Paths are compared and joined by their components; no file is looked at.

- `Path`: a root and the components below it.
- `Path.ofString`, `Path.toString`: reading drops empty components and single dots.
- `Path.join`: a path seen from another; an absolute one stays as it is.
- `Path.resolve`: a path without double dots.
- `Path.suffix`: the extension of the last component.
-/

namespace LayeredLint

/-- Where a path starts: at the place it is seen from, at `/`, or at the separate root `//`. -/
inductive PathRoot where
  | relative
  | slash
  | doubleSlash
  deriving DecidableEq, Repr

/-- A root and the components below it. No component is empty or a single dot. -/
structure Path where
  root : PathRoot
  parts : List String
  deriving DecidableEq, Repr

namespace Path

/-- The pieces of a text between the occurrences of a character. -/
def splitChars (separator : Char) : List Char → List (List Char)
  | [] => [[]]
  | c :: rest =>
    if c = separator then [] :: splitChars separator rest
    else match splitChars separator rest with
      | piece :: pieces => (c :: piece) :: pieces
      | [] => [[c]]

/-- The components of a text. -/
def components (cs : List Char) : List String :=
  ((splitChars '/' cs).filter fun piece => piece ≠ [] ∧ piece ≠ ['.']).map String.ofList

/-- The root a text starts at: exactly two slashes are a root of their own. -/
def rootOf : List Char → PathRoot
  | '/' :: '/' :: '/' :: _ => .slash
  | '/' :: '/' :: _ => .doubleSlash
  | '/' :: _ => .slash
  | _ => .relative

/-- The path a text stands for. -/
def ofString (s : String) : Path :=
  ⟨rootOf s.toList, components s.toList⟩

/-- The text of a path; the empty path is a dot. -/
def toString (p : Path) : String :=
  let body := String.intercalate "/" p.parts
  match p.root with
  | .relative => if p.parts.isEmpty then "." else body
  | .slash => "/" ++ body
  | .doubleSlash => "//" ++ body

/-- Whether a path has a root. -/
def isAbsolute (p : Path) : Bool :=
  p.root ≠ .relative

/-- A path seen from `base`. -/
def join (base p : Path) : Path :=
  if p.isAbsolute then p else ⟨base.root, base.parts ++ p.parts⟩

/-- Go one component down, or one up for a double dot. There is nothing above the root. -/
def descend (above : List String) (part : String) : List String :=
  if part = ".." then above.dropLast else above ++ [part]

/-- An absolute path without double dots, below the single root. -/
def resolve (p : Path) : Path :=
  ⟨.slash, p.parts.foldl descend []⟩

/-- The last component, empty for a root and for the empty path. -/
def name (p : Path) : String :=
  p.parts.getLast?.getD ""

/-- The extension of a name: from its last dot on, unless that is its first or last character. -/
def nameSuffix (name : List Char) : List Char :=
  let extension := (name.reverse.takeWhile (· ≠ '.')).reverse
  let stem := (name.reverse.dropWhile (· ≠ '.')).drop 1
  if extension.isEmpty || stem.isEmpty then [] else '.' :: extension

/-- The extension of the last component. -/
def suffix (p : Path) : String :=
  String.ofList (nameSuffix p.name.toList)

/-- The directory of a path. -/
def parent (p : Path) : Path :=
  ⟨p.root, p.parts.dropLast⟩

end Path

end LayeredLint
