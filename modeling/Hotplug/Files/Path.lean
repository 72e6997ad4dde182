import Hotplug.Text.Cut

/-!
# Paths

A path is a text of names between slashes. Empty names and `.` stand for the directory they are
in, so that `a//b/.` is `a/b`; a path that begins with a slash begins at the root.

## Main definitions

* `Path.parts` — the names between slashes.
* `Path.parent?` — the path of the directory that a path is in.
* `Path.ancestors` — a path and the paths of all directories above it.
-/

namespace Hotplug.Path

/-- The names between slashes, empty ones included. -/
def parts (path : String) : List String :=
  Text.split '/' path

/-- Whether a name stands for the directory it is in. -/
def isSelf (part : String) : Bool :=
  part.isEmpty || part == "."

/-- Whether a path begins at the root. -/
def isAbsolute (path : String) : Bool :=
  path.toList.head? == some '/'

/-- The names without those at the end that stand for the directory they are in. -/
def trimmed (names : List String) : List String :=
  (names.reverse.dropWhile isSelf).reverse

/-- The path with some names, of which the first is empty where it begins at the root. -/
def ofParts (names : List String) : String :=
  if names = [""] then "/" else "/".intercalate names

/-- The path of the directory that a path is in: the path without its last name. The root and the
empty path are in none. -/
def parent? (path : String) : Option String :=
  match parts path with
  | [] => none
  | first :: rest =>
    match trimmed rest with
    | [] => if first.isEmpty then none else some ""
    | names => some (ofParts (first :: trimmed names.dropLast))

/-- Whether some path has a path to the directory it is in, in fewer steps than `fuel`. -/
def ancestorsFrom : (fuel : Nat) → String → List String
  | 0, _ => []
  | fuel + 1, path =>
    if path.isEmpty then []
    else path :: (parent? path).elim [] (ancestorsFrom fuel)

/-- A path and the paths of all directories above it, from the longest to the shortest. Each has a
name less than the one before. -/
def ancestors (path : String) : List String :=
  ancestorsFrom ((parts path).length + 1) path

example : parent? "/a/./b//c/" = some "/a/./b" := by decide +kernel

example : parent? "b" = some "" := by decide +kernel

example : parent? "/" = none := by decide +kernel

example : ancestors "/a//b/." = ["/a//b/.", "/a", "/"] := by decide +kernel

end Hotplug.Path
