import Hotplug.Files.Tree

/-!
# File operations

A path is followed name by name. Symbolic links on the way are followed too, forty at most; an
operation on the last name itself, such as removing it, does not follow it, while creating a file
does.

## Main definitions

* `FileTree.resolve` — the place a path leads to.
* `FileTree.kind`, `FileTree.openFile`, `FileTree.endAt`, `FileTree.makeDir`, `FileTree.createFile`,
  `FileTree.removeDir`, `FileTree.removeFile` — the operations of the system.
* `FileTree.createDirs` — makes a directory and those above it that are missing.
-/

namespace Hotplug.FileTree

/-- The most symbolic links on one path. -/
def maxLinks : Nat := 40

/-- The most bytes of one name. -/
def maxName : Nat := 255

/-- The most bytes of a whole path. -/
def maxPath : Nat := 4095

/-- Where following names without following links ends. -/
inductive Stride where
  /-- At a place. -/
  | arrived (place : Place)
  /-- At a link, met in a directory, with names still to follow. -/
  | link (directory : Place) (target : String) (rest : List String)
  /-- Nowhere. -/
  | failed (e : FileError)
  deriving DecidableEq, Repr

/-- Follows names from a place up to the first link. -/
def stride (t : FileTree) : Place → List String → Stride
  | place, [] => .arrived place
  | place, part :: rest =>
    match t.lookup? place with
    | some .directory =>
      if Path.isSelf part then stride t place rest
      else if part = ".." then stride t place.dropLast rest
      else if maxName < part.utf8ByteSize then .failed .nameTooLong
      else
        match t.lookup? (place ++ [part]) with
        | none => .failed .missing
        | some (.link target) => .link place target rest
        | some _ => stride t (place ++ [part]) rest
    | _ => .failed .notDirectory

/-- Where a path begins that is met at a place. -/
def startOf (path : String) (place : Place) : Place :=
  if Path.isAbsolute path then [] else place

/-- Follows names and links from a place. Also says how many more links may follow. -/
def walk (t : FileTree) : (links : Nat) → Place → List String → Except FileError (Place × Nat)
  | links, place, parts =>
    match stride t place parts with
    | .arrived place => .ok (place, links)
    | .failed e => .error e
    | .link directory target rest =>
      match links with
      | 0 => .error .linkLoop
      | links + 1 => walk t links (startOf target directory) (Path.parts target ++ rest)

/-- A path that can be asked about at all. -/
def checkPath (path : String) : Except FileError Unit :=
  if path.toList.contains '\x00' then .error .nulByte
  else if path.isEmpty then .error .missing
  else if maxPath < path.utf8ByteSize then .error .nameTooLong
  else .ok ()

/-- The place a path leads to. -/
def resolve (t : FileTree) (path : String) : Except FileError Place := do
  checkPath path
  return (← walk t maxLinks [] (Path.parts path)).1

/-- The last name of a path. -/
inductive Final where
  /-- The path is the root. -/
  | root
  /-- The last name is `.`. -/
  | self
  /-- The last name is `..`. -/
  | parent
  /-- Any other name; after it there may be a slash. -/
  | name (name : String) (slash : Bool)
  deriving DecidableEq, Repr

/-- The names before the last, and the last; slashes at the end do not count as names. -/
def splitFinal (parts : List String) : List String × Final :=
  match parts.reverse.dropWhile (·.isEmpty) with
  | [] => ([], .root)
  | last :: before =>
    (before.reverse,
      if last = "." then .self
      else if last = ".." then .parent
      else .name last (before.length + 1 < parts.length))

/-- The directory that the last of some names is in, with that name, and how many more links may
follow. -/
def locateFrom (t : FileTree) (links : Nat) (place : Place) (parts : List String) :
    Except FileError (Place × Final × Nat) := do
  let (before, last) := splitFinal parts
  let (directory, links) ← walk t links place before
  if t.lookup? directory = some .directory then return (directory, last, links)
  else .error .notDirectory

/-- The directory that the last name of a path is in, with that name. -/
def locate (t : FileTree) (path : String) : Except FileError (Place × Final) := do
  checkPath path
  let (directory, last, _) ← locateFrom t maxLinks [] (Path.parts path)
  return (directory, last)

/-- A name that a directory can hold. -/
def checkName (name : String) : Except FileError Unit :=
  if maxName < name.utf8ByteSize then .error .nameTooLong else .ok ()

/-! ### The operations -/

/-- What a path leads to, links followed. -/
def kind (t : FileTree) (path : String) : Except FileError Entry := do
  match t.lookup? (← resolve t path) with
  | some e => return e
  | none => .error .missing

/-- The place of what a path leads to, which is there. -/
def openFile (t : FileTree) (path : String) : Except FileError Place := do
  let place ← resolve t path
  match t.lookup? place with
  | some _ => return place
  | none => .error .missing

/-- How many bytes are before the end of what is at a place; none where it has no end. -/
def endAt (t : FileTree) (place : Place) : Nat :=
  match t.lookup? place with
  | some (.file size) | some (.blockDevice size) => size
  | _ => 0

/-- Whether a path leads to a directory. -/
def isDir (t : FileTree) (path : String) : Bool :=
  match kind t path with
  | .ok .directory => true
  | _ => false

/-- Makes one directory. -/
def makeDir (t : FileTree) (path : String) : Except FileError FileTree := do
  let (directory, last) ← locate t path
  match last with
  | .name name _ =>
    checkName name
    match t.lookup? (directory ++ [name]) with
    | none => return t.put (directory ++ [name]) .directory
    | some _ => .error .occupied
  | _ => .error .occupied

/-- Makes the first of some directories, and the others before it as far as they are missing. Of a
failure the directories made before it stay. -/
def createDirsAlong : List String → FileTree → Except FileError Unit × FileTree
  | [], t => (.ok (), t)
  | path :: above, t =>
    match makeDir t path with
    | .ok t => (.ok (), t)
    | .error .missing =>
      match createDirsAlong above t with
      | (.error e, t) => (.error e, t)
      | (.ok _, t) =>
        match makeDir t path with
        | .ok t => (.ok (), t)
        | .error e => (if isDir t path then .ok () else .error e, t)
    | .error e => (if isDir t path then .ok () else .error e, t)

/-- Makes a directory, and those above it that are missing. A directory that is there already is
no failure. -/
def createDirs (t : FileTree) (path : String) : Except FileError Unit × FileTree :=
  createDirsAlong (Path.ancestors path) t

/-- Makes a file, or empties the one that is there; a link is followed to where it leads, and a
block device stays what it is. -/
def createFileFrom (t : FileTree) (size : Nat) :
    (rounds links : Nat) → Place → List String → Except FileError FileTree
  | 0, _, _, _ => .error .linkLoop
  | rounds + 1, links, place, parts => do
    let (directory, last, links) ← locateFrom t links place parts
    match last with
    | .name name slash =>
      if slash then .error .isDirectory
      else
        checkName name
        match t.lookup? (directory ++ [name]) with
        | some .directory => .error .isDirectory
        | some (.link target) =>
          match links with
          | 0 => .error .linkLoop
          | links + 1 =>
            createFileFrom t size rounds links (startOf target directory) (Path.parts target)
        | some (.blockDevice _) => return t
        | _ => return t.put (directory ++ [name]) (.file size)
    | _ => .error .isDirectory

/-- Makes a file of some size in place of the one that may be there. -/
def createFile (t : FileTree) (path : String) (size : Nat) : Except FileError FileTree := do
  checkPath path
  createFileFrom t size (maxLinks + 1) maxLinks [] (Path.parts path)

/-- Makes an entry that is no directory under a name that is free. -/
def createEntry (t : FileTree) (path : String) (e : Entry) : Except FileError FileTree := do
  let (directory, last) ← locate t path
  match last with
  | .name name slash =>
    checkName name
    match t.lookup? (directory ++ [name]) with
    | none => if slash then .error .missing else return t.put (directory ++ [name]) e
    | some _ => .error .occupied
  | _ => .error .occupied

/-- Removes an empty directory. -/
def removeDir (t : FileTree) (path : String) : Except FileError FileTree := do
  let (directory, last) ← locate t path
  match last with
  | .root => .error .busy
  | .self => .error .invalid
  | .parent => .error .notEmpty
  | .name name _ =>
    checkName name
    match t.lookup? (directory ++ [name]) with
    | none => .error .missing
    | some .directory =>
      if t.isEmptyAt (directory ++ [name]) then return t.remove (directory ++ [name])
      else .error .notEmpty
    | some _ => .error .notDirectory

/-- Removes a file or a link. -/
def removeFile (t : FileTree) (path : String) : Except FileError FileTree := do
  let (directory, last) ← locate t path
  match last with
  | .name name slash =>
    checkName name
    match t.lookup? (directory ++ [name]) with
    | none => .error .missing
    | some .directory => .error .isDirectory
    | some _ => if slash then .error .notDirectory else return t.remove (directory ++ [name])
  | _ => .error .isDirectory

end Hotplug.FileTree
