import Hotplug.Capability

/-!
# Messages of the node plugin

## Main definitions

* `Node.Request`, `Node.Response` — the requests and their answers.
* `Node.Request.method?` — the name under which a request is counted.
-/

namespace Hotplug.Node

/-- A request to prepare a volume on the node. -/
structure StageVolume where
  volumeId : String := ""
  stagingPath : String := ""
  capability : Option Capability := none
  context : Table String := .empty
  deriving DecidableEq, Repr, Inhabited

/-- A request to make a volume visible at a target. -/
structure PublishVolume where
  volumeId : String := ""
  targetPath : String := ""
  capability : Option Capability := none
  readonly : Bool := false
  context : Table String := .empty
  deriving DecidableEq, Repr, Inhabited

/-- A request to the node plugin. -/
inductive Request where
  | stageVolume (r : StageVolume)
  | unstageVolume (volumeId stagingPath : String)
  | publishVolume (r : PublishVolume)
  | unpublishVolume (volumeId targetPath : String)
  | getVolumeStats (volumeId volumePath : String)
  | getCapabilities
  | getInfo
  /-- A request the node plugin does not serve, by its name. -/
  | unserved (name : String)
  deriving DecidableEq, Repr, Inhabited

/-- The name under which a request is counted. Requests that touch nothing are not. -/
def Request.method? : Request → Option String
  | .stageVolume _ => some "NodeStageVolume"
  | .unstageVolume _ _ => some "NodeUnstageVolume"
  | .publishVolume _ => some "NodePublishVolume"
  | .unpublishVolume _ _ => some "NodeUnpublishVolume"
  | .getVolumeStats _ _ => some "NodeGetVolumeStats"
  | .getCapabilities | .getInfo | .unserved _ => none

/-- What is counted of a volume. -/
inductive Measure where
  | bytes | inodes
  deriving DecidableEq, Repr, Inhabited

/-- How full a volume is. -/
structure Usage where
  measure : Measure
  total : Int64
  available : Int64
  used : Int64
  deriving DecidableEq, Repr, Inhabited

/-- What the node plugin answers. -/
inductive Response where
  | done
  /-- How full a volume is. -/
  | stats (usage : List Usage)
  /-- The numbers of what the node plugin can do. -/
  | capabilities (types : List Nat)
  /-- The id of the node, and how many volumes it takes, zero for any number. -/
  | info (nodeId : String) (maxVolumes : Nat)
  deriving DecidableEq, Repr, Inhabited

end Hotplug.Node
