import Hotplug.Table

/-!
# Volume capabilities

How a volume is to be used: as a block device or as a mounted filesystem, and by how many nodes.

## Main definitions

* `AccessMode` — how many nodes use a volume at once, and how; `AccessMode.isSingleNode`.
* `AccessType`, `Capability` — the two kinds of use, and a requested use.
* `Capability.unsupported?` — why a list of requested uses cannot be served.
-/

namespace Hotplug

/-- How many nodes use a volume at once, and how. -/
inductive AccessMode where
  | unknown | singleNodeWriter | singleNodeReaderOnly | multiNodeReaderOnly
  | multiNodeSingleWriter | multiNodeMultiWriter | singleNodeSingleWriter | singleNodeMultiWriter
  deriving DecidableEq, Repr, Inhabited

namespace AccessMode

/-- The mode with a number; other numbers mean an unknown mode. -/
def ofNumber (n : Int) : AccessMode :=
  if n = 1 then singleNodeWriter
  else if n = 2 then singleNodeReaderOnly
  else if n = 3 then multiNodeReaderOnly
  else if n = 4 then multiNodeSingleWriter
  else if n = 5 then multiNodeMultiWriter
  else if n = 6 then singleNodeSingleWriter
  else if n = 7 then singleNodeMultiWriter
  else unknown

/-- The name of a mode in messages. -/
def name : AccessMode → String
  | unknown => "Unknown"
  | singleNodeWriter => "SingleNodeWriter"
  | singleNodeReaderOnly => "SingleNodeReaderOnly"
  | multiNodeReaderOnly => "MultiNodeReaderOnly"
  | multiNodeSingleWriter => "MultiNodeSingleWriter"
  | multiNodeMultiWriter => "MultiNodeMultiWriter"
  | singleNodeSingleWriter => "SingleNodeSingleWriter"
  | singleNodeMultiWriter => "SingleNodeMultiWriter"

/-- Whether at most one node uses the volume. -/
def isSingleNode : AccessMode → Bool
  | singleNodeWriter | singleNodeReaderOnly | singleNodeSingleWriter | singleNodeMultiWriter => true
  | _ => false

end AccessMode

/-- The two kinds of use. -/
inductive AccessType where
  /-- As a filesystem: its type, empty for the default, the mount flags, and a group. -/
  | mount (fsType : String) (flags : List String) (group : String)
  /-- As a block device. -/
  | block
  deriving DecidableEq, Repr, Inhabited

/-- A requested use of a volume. -/
structure Capability where
  access : Option AccessType := none
  /-- The number of the access mode. -/
  mode : Option Int := none
  deriving DecidableEq, Repr, Inhabited

namespace Capability

/-- What is wrong with a use that is neither of the two kinds. -/
def accessProblem : String := "volume capability must be either block or mount"

/-- The access mode; unknown where none is given. -/
def accessMode (c : Capability) : AccessMode :=
  AccessMode.ofNumber (c.mode.getD 0)

/-- Why one requested use cannot be served. -/
def problem? (c : Capability) : Option String :=
  if c.access.isNone then some accessProblem
  else if c.accessMode.isSingleNode then none
  else some ("access mode " ++ c.accessMode.name ++
    " is not supported, only single node access is")

/-- Why a list of requested uses cannot be served: it is empty, or the first that cannot. -/
def unsupported? (cs : List Capability) : Option String :=
  if cs.isEmpty then some "volume capabilities are required" else cs.findSome? problem?

end Capability

end Hotplug
