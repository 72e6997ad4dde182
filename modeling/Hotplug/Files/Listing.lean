import Hotplug.Digits
import Hotplug.Files.Operations

/-!
# File trees as text

A tree is listed with a line for every entry below a place: `name/` for a directory, `name SIZE` for
a file, `name [SIZE]` for a block device, and `name -> target` for a link. Lines are sorted, so that
trees with the same entries have the same listing.

## Main definitions

* `FileTree.listing` — the lines of the entries below a place.
* `FileTree.plant` — adds an entry, with the directories above it.
-/

namespace Hotplug.FileTree

/-- The line of an entry at some names. -/
def line (place : Place) : Entry → String
  | .directory => "/".intercalate place ++ "/"
  | .file size => "/".intercalate place ++ " " ++ Digits.text size
  | .blockDevice size => "/".intercalate place ++ " [" ++ Digits.text size ++ "]"
  | .link target => "/".intercalate place ++ " -> " ++ target

/-- The lines of the entries below a place, sorted. -/
def listing (t : FileTree) (place : Place) : List String :=
  ((t.below place).map fun (p, e) => line p e).mergeSort fun a b => a ≤ b

/-- Adds an entry at a path, with the directories above it. Where it cannot be there, it is not. -/
def plant (t : FileTree) (path : String) (e : Entry) : FileTree :=
  let above := (Path.parent? path).elim t fun parent => (t.createDirs parent).2
  match e with
  | .directory => (t.createDirs path).2
  | .file size => (above.createFile path size).toOption.getD above
  | other => (above.createEntry path other).toOption.getD above

end Hotplug.FileTree
