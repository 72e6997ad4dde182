import Hotplug.Files.Operations
import Hotplug.Program

/-!
# Requests to a file system

## Main definitions

* `Files.Request`, `Files.Result` — the requests and what a success gives.
* `Files.Kind`, `Files.Space` — what a path may lead to, and the counts of a file system.
* `Files.interface`, `Files.step` — the interface, and its answers from a file tree.
-/

namespace Hotplug.Files

/-- An open file, known by the place where it was found. -/
structure Handle where
  place : Place
  deriving DecidableEq, Repr, Inhabited

/-- A request to the file system. -/
inductive Request where
  /-- Makes a directory and those above it that are missing. -/
  | createDirs (path : String)
  /-- Makes an empty file. -/
  | createFile (path : String)
  /-- Asks what a path leads to. -/
  | stat (path : String)
  /-- Removes an empty directory. -/
  | removeDir (path : String)
  /-- Removes a file. -/
  | removeFile (path : String)
  /-- Opens what a path leads to. -/
  | openFile (path : String)
  /-- Goes to the end of an open file, and says how far that is from its start. -/
  | seekEnd (file : Handle)
  /-- Asks for the counts of the file system that a path is on. -/
  | statvfs (path : String)
  deriving DecidableEq, Repr, Inhabited

/-- What a path may lead to. -/
inductive Kind where
  | directory | blockDevice | other
  deriving DecidableEq, Repr, Inhabited

/-- The counts of a file system: its blocks, of so many bytes each, and its inodes, how many of them
are free, and how many of those anybody may use. -/
structure Space where
  fragmentSize : UInt64 := 0
  blocks : UInt64 := 0
  blocksFree : UInt64 := 0
  blocksAvailable : UInt64 := 0
  inodes : UInt64 := 0
  inodesFree : UInt64 := 0
  inodesAvailable : UInt64 := 0
  deriving DecidableEq, Repr, Inhabited

/-- What a request gives when it succeeds. -/
@[reducible] def Result : Request → Type
  | .stat _ => Kind
  | .openFile _ => Handle
  | .seekEnd _ => UInt64
  | .statvfs _ => Space
  | _ => Unit

/-- The file system as the driver sees it. -/
@[reducible] def interface : Interface where
  Request := Request
  Answer r := Except FileError (Result r)

/-- The kind of an entry. -/
def Kind.ofEntry : Entry → Kind
  | .directory => directory
  | .blockDevice _ => blockDevice
  | .file _ | .link _ => other

/-- The tree after a change, or the tree as it was and the failure. -/
def changed (t : FileTree) : Except FileError FileTree → Except FileError Unit × FileTree
  | .ok t' => (.ok (), t')
  | .error e => (.error e, t)

/-- Answers a request from a file tree. A tree keeps no count of space, so that it is all zero. -/
def step : Handler interface FileTree := fun r t =>
  match r with
  | .createDirs path => t.createDirs path
  | .createFile path => changed t (t.createFile path 0)
  | .stat path => ((t.kind path).map Kind.ofEntry, t)
  | .removeDir path => changed t (t.removeDir path)
  | .removeFile path => changed t (t.removeFile path)
  | .openFile path => ((t.openFile path).map Handle.mk, t)
  | .seekEnd file => (.ok (t.endAt file.place).toUInt64, t)
  | .statvfs path => ((t.kind path).map fun _ => {}, t)

end Hotplug.Files
