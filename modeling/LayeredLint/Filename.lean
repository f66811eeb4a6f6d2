import LayeredLint.Failure
import LayeredLint.Path
import LayeredLint.Text.Blank

/-!
# Filenames

The extension of a filename selects the parser, so only the names with a known one are verified.

- `Filename.extensions`: the known extensions.
- `Filename.path`: the path of a name, under either kind of slash.
- `Filename.extensionOf`: the extension of a name, in lower case.
- `checkFilename`: a name with a known extension, or the error.
-/

namespace LayeredLint

namespace Filename

/-- The known extensions, sorted. -/
def extensions : List String :=
  [".cjs", ".cts", ".js", ".jsx", ".mjs", ".mts", ".ts", ".tsx"]

/-- The character that separates the directories of a name: a backslash counts as a slash. -/
def normalSlash (c : Char) : Char :=
  if c = '\\' then '/' else c

/-- A name with slashes only. -/
def slashed (filename : String) : List Char :=
  filename.toList.map normalSlash

/-- The path that a name stands for. -/
def path (filename : String) : Path :=
  Path.ofString (String.ofList (slashed filename))

/-- The extension of a name, in lower case; empty where there is none. -/
def extensionOf (filename : String) : String :=
  Text.lowerText (path filename).suffix

/-- The name has a known extension. -/
def accepted (filename : String) : Bool :=
  extensions.contains (extensionOf filename)

end Filename

/-- The name itself where its extension is known. -/
def checkFilename (filename : String) : Except Failure String :=
  if Filename.accepted filename then .ok filename else invalid (.unknownExtension filename)

theorem checkFilename_eq_ok_iff {filename name : String} :
    checkFilename filename = .ok name ↔ Filename.accepted filename = true ∧ name = filename := by
  unfold checkFilename
  split
  · next h => exact ⟨fun heq => ⟨h, (Except.ok.inj heq).symm⟩, fun heq => heq.2 ▸ rfl⟩
  · next h => exact ⟨fun heq => (nomatch heq), fun heq => absurd heq.1 h⟩

end LayeredLint
