import LayeredLint.Path.Resolution
import LayeredLint.Text.Utf8

/-!
# Workspaces

The files that a project consists of, as data.

- `Workspace`: a current directory, and the directories and files below it.
- `Workspace.follow`: the place that a path leads to.
- `Workspace.readFile?`: the bytes of a file.
- `Workspace.addFile`, `Workspace.removeFile`: a new file under a name not in use, and its removal.
-/

namespace LayeredLint

/-- A current directory, and what there is below it. All paths are absolute and hold no double
dots. -/
structure Workspace where
  root : Path
  directories : List Path := []
  files : List (Path × List UInt8) := []
  deriving DecidableEq, Repr

namespace Workspace

/-! ## Looking up -/

/-- A directory: the current one, one above it, or one below it. -/
def isDirectory (w : Workspace) (p : Path) : Bool :=
  (p.root = w.root.root && p.parts.isPrefixOf w.root.parts) || w.directories.contains p

/-- The bytes of a file at a place. -/
def contentAt? (w : Workspace) (p : Path) : Option (List UInt8) :=
  (w.files.find? fun e => e.1 = p).map Prod.snd

/-- A place as a directory, or what is in the way. -/
def enter (w : Workspace) (p : Path) : Except Fault Path :=
  if w.isDirectory p then .ok p
  else if (w.contentAt? p).isSome then .error .notDirectory
  else .error .missingDirectory

/-- One step on from a place, which has to be a directory. -/
def step (w : Workspace) (p : Path) (part : String) : Except Fault Path := do
  let p ← w.enter p
  return if part = ".." then p.parent else ⟨p.root, p.parts ++ [part]⟩

/-- The place that a path leads to, seen from the current directory. Everything on the way has to
be a directory. -/
def follow (w : Workspace) (p : Path) : Except Fault Path :=
  let path := w.root.join p
  path.parts.foldlM w.step ⟨.slash, []⟩

/-- The bytes of a file, seen from the current directory. -/
def readFile? (w : Workspace) (p : Path) : Option (List UInt8) :=
  match w.follow p with
  | .ok place => w.contentAt? place
  | .error _ => none

/-! ## Changing -/

/-- The greatest length of the name of a file. -/
def longestName (w : Workspace) : Nat :=
  (w.files.map fun e => e.1.name.length).foldl max 0

/-- A name for a new file, around a mark that is longer than every name in use. -/
def freshName (w : Workspace) (start ending : String) : String :=
  start ++ String.ofList (List.replicate (w.longestName + 1) 'x') ++ ending

/-- Write a new file into a directory, and say where it is. -/
def addFile (w : Workspace) (directory : Path) (start ending : String) (content : List UInt8) :
    Except Fault (Path × Workspace) := do
  if directory.hasNull then
    throw .nullInPath
  let place ← w.enter (← w.follow directory)
  let file : Path := ⟨place.root, place.parts ++ [w.freshName start ending]⟩
  return (file, { w with files := w.files ++ [(file, content)] })

/-- Remove the file at a place. -/
def removeFile (w : Workspace) (p : Path) : Workspace :=
  { w with files := w.files.filter fun e => e.1 ≠ p }

/-- The files of a directory. -/
def filesIn (w : Workspace) (directory : Path) : List (Path × List UInt8) :=
  w.files.filter fun e => e.1.parent = directory

/-! ## Building -/

/-- The directories that a place lies in, and the place itself. -/
def directoriesTo (p : Path) : List Path :=
  (List.range p.parts.length).map fun n => ⟨p.root, p.parts.take (n + 1)⟩

/-- A workspace with a directory, given by its path from the current one. -/
def withDirectory (w : Workspace) (p : Path) : Workspace :=
  let place := (w.root.join p).resolve
  { w with directories := w.directories ++ (directoriesTo place).filter fun d =>
      !w.directories.contains d }

/-- A workspace with a file, given by its path from the current directory. -/
def withFile (w : Workspace) (p : Path) (content : List UInt8) : Workspace :=
  let place := (w.root.join p).resolve
  let w := w.withDirectory place.parent
  { w with files := (w.files.filter fun e => e.1 ≠ place) ++ [(place, content)] }

end Workspace

end LayeredLint
