import LayeredLint.Failure
import LayeredLint.Path

/-!
# Resolving paths

No directory has a name with a null character in it, so a path with one leads nowhere.

- `Path.hasNull`: a component holds a null character.
- `Path.resolved`: a path without double dots, unless it has one.
-/

namespace LayeredLint.Path

/-- A component holds a null character. -/
def hasNull (p : Path) : Bool :=
  p.parts.any fun part => part.toList.contains '\x00'

/-- A path without double dots. Every component is looked up, also one that a double dot takes
back. -/
def resolved (p : Path) : Except Failure Path :=
  if p.hasNull then impossible .nullInPath else .ok p.resolve

end LayeredLint.Path
