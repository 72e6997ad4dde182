import Hotplug.Files.Path

/-!
# File trees

What the node's file system holds: directories, files and block devices with a size, and symbolic
links, each at a place, the names from the root down to it.

## Main definitions

* `FileError` — why a file operation fails, with its message.
* `FileTree` — the entries; `FileTree.lookup?` looks one up.
* `FileTree.put`, `FileTree.remove`, `FileTree.isEmptyAt` — changing one entry.
-/

namespace Hotplug

/-- Why a file operation fails. -/
inductive FileError where
  | missing | occupied | notDirectory | isDirectory | invalid | busy | nameTooLong | notEmpty
  | linkLoop
  /-- The path holds a NUL. -/
  | nulByte
  deriving DecidableEq, Repr, Inhabited

/-- The message of a failure. -/
def FileError.message : FileError → String
  | missing => "No such file or directory (os error 2)"
  | busy => "Device or resource busy (os error 16)"
  | occupied => "File exists (os error 17)"
  | notDirectory => "Not a directory (os error 20)"
  | isDirectory => "Is a directory (os error 21)"
  | invalid => "Invalid argument (os error 22)"
  | nameTooLong => "File name too long (os error 36)"
  | notEmpty => "Directory not empty (os error 39)"
  | linkLoop => "Too many levels of symbolic links (os error 40)"
  | nulByte => "file name contained an unexpected NUL byte"

/-- What may be at a place. -/
inductive Entry where
  | directory
  /-- A file of so many bytes. -/
  | file (size : Nat)
  /-- A block device of so many bytes. -/
  | blockDevice (size : Nat)
  /-- A symbolic link to a path. -/
  | link (target : String)
  deriving DecidableEq, Repr, Inhabited

/-- The names from the root down. -/
abbrev Place : Type := List String

/-- The entries at their places. The root is always a directory. -/
structure FileTree where
  entries : List (Place × Entry)
  deriving DecidableEq, Repr, Inhabited

namespace FileTree

/-- The tree with nothing but the root. -/
def empty : FileTree := ⟨[]⟩

/-- What is at a place. -/
def lookup? (t : FileTree) (place : Place) : Option Entry :=
  if place.isEmpty then some .directory else (t.entries.find? (·.1 == place)).map (·.2)

/-- The tree without what was at a place. -/
def remove (t : FileTree) (place : Place) : FileTree :=
  ⟨t.entries.filter (·.1 != place)⟩

/-- The tree with an entry at a place, instead of what was there. -/
def put (t : FileTree) (place : Place) (e : Entry) : FileTree :=
  ⟨(place, e) :: (t.remove place).entries⟩

/-- Whether nothing is in the directory at a place. -/
def isEmptyAt (t : FileTree) (place : Place) : Bool :=
  t.entries.all fun e => !(e.1.dropLast == place && !e.1.isEmpty)

/-- The entries below a place, each at the names from there. -/
def below (t : FileTree) (place : Place) : List (Place × Entry) :=
  t.entries.filterMap fun (p, e) =>
    if place.isPrefixOf p && place.length < p.length then some (p.drop place.length, e) else none

@[simp] theorem lookup?_root (t : FileTree) : t.lookup? [] = some .directory := rfl

/-- An entry is found where it is put. -/
theorem lookup?_put_self (t : FileTree) {place : Place} (e : Entry) (h : place ≠ []) :
    (t.put place e).lookup? place = some e := by
  simp [lookup?, put, h]

/-- Putting an entry leaves all other places as they are. -/
theorem lookup?_put_of_ne (t : FileTree) {place other : Place} (e : Entry) (h : other ≠ place) :
    (t.put place e).lookup? other = t.lookup? other := by
  have hne : (place == other) = false := by simpa using fun h' => h h'.symm
  simp only [lookup?, put, remove, List.find?_cons, hne]
  congr 2
  rw [List.find?_filter]
  congr 1
  funext x
  by_cases hx : x.1 = other
  · simp [hx, h]
  · simp [hx]

end FileTree

end Hotplug
