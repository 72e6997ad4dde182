import Hotplug.Capability
import Hotplug.Storage

/-!
# Messages of the controller

What the orchestrator asks of the controller and what it is answered.

## Main definitions

* `Controller.Request`, `Controller.Response` — the requests and their answers.
* `Controller.Request.method?` — the name under which a request is counted.
-/

namespace Hotplug.Controller

/-- The object a new volume gets its contents from. -/
inductive Origin where
  | snapshot (id : String)
  | volume (id : String)
  deriving DecidableEq, Repr, Inhabited

/-- A content source. It may be given and name no kind of object. -/
structure ContentSource where
  origin : Option Origin := none
  deriving DecidableEq, Repr, Inhabited

/-- The sizes a volume may have, in bytes. -/
structure CapacityRange where
  /-- At least this, where positive. -/
  required : Int := 0
  /-- At most this, where positive. -/
  limit : Int := 0
  deriving DecidableEq, Repr, Inhabited

/-- A request to make a volume. -/
structure CreateVolume where
  name : String := ""
  capacity : Option CapacityRange := none
  capabilities : List Capability := []
  parameters : Table String := .empty
  source : Option ContentSource := none
  deriving DecidableEq, Repr, Inhabited

/-- A request to plug a volume into a node. -/
structure PublishVolume where
  volumeId : String := ""
  nodeId : String := ""
  capability : Option Capability := none
  readonly : Bool := false
  context : Table String := .empty
  deriving DecidableEq, Repr, Inhabited

/-- A request to unplug a volume from a node. -/
structure UnpublishVolume where
  volumeId : String := ""
  nodeId : String := ""
  deriving DecidableEq, Repr, Inhabited

/-- A question whether a volume can be used in some ways. -/
structure ValidateCapabilities where
  volumeId : String := ""
  context : Table String := .empty
  capabilities : List Capability := []
  parameters : Table String := .empty
  mutableParameters : Table String := .empty
  deriving DecidableEq, Repr, Inhabited

/-- A request to take a snapshot. -/
structure CreateSnapshot where
  sourceVolumeId : String := ""
  name : String := ""
  parameters : Table String := .empty
  deriving DecidableEq, Repr, Inhabited

/-- A request to list snapshots, at most so many from a token on. -/
structure ListSnapshots where
  maxEntries : Int := 0
  startingToken : String := ""
  sourceVolumeId : String := ""
  snapshotId : String := ""
  deriving DecidableEq, Repr, Inhabited

/-- A request to the controller. -/
inductive Request where
  | createVolume (r : CreateVolume)
  | deleteVolume (volumeId : String)
  | publishVolume (r : PublishVolume)
  | unpublishVolume (r : UnpublishVolume)
  | validateCapabilities (r : ValidateCapabilities)
  | createSnapshot (r : CreateSnapshot)
  | deleteSnapshot (snapshotId : String)
  | listSnapshots (r : ListSnapshots)
  | getCapabilities
  /-- A request the controller does not serve, by its name. -/
  | unserved (name : String)
  deriving DecidableEq, Repr, Inhabited

/-- The name under which a request is counted. Requests that touch nothing are not. -/
def Request.method? : Request → Option String
  | .createVolume _ => some "CreateVolume"
  | .deleteVolume _ => some "DeleteVolume"
  | .publishVolume _ => some "ControllerPublishVolume"
  | .unpublishVolume _ => some "ControllerUnpublishVolume"
  | .validateCapabilities _ => some "ValidateVolumeCapabilities"
  | .createSnapshot _ => some "CreateSnapshot"
  | .deleteSnapshot _ => some "DeleteSnapshot"
  | .listSnapshots _ => some "ListSnapshots"
  | .getCapabilities | .unserved _ => none

/-- A volume as the orchestrator sees it. -/
structure Volume where
  /-- Its size in bytes. -/
  capacity : Int
  id : String
  /-- What a later request for it brings back. -/
  context : Table String
  source : Option ContentSource
  deriving DecidableEq, Repr, Inhabited

/-- A snapshot as the orchestrator sees it. -/
structure Snapshot where
  /-- Its size in bytes, zero where unknown. -/
  size : Int
  id : String
  sourceVolumeId : String
  created : Instant
  ready : Bool
  deriving DecidableEq, Repr, Inhabited

/-- What was confirmed of a volume's capabilities. -/
structure Confirmation where
  context : Table String
  capabilities : List Capability
  parameters : Table String
  mutableParameters : Table String
  deriving DecidableEq, Repr, Inhabited

/-- What the controller answers. -/
inductive Response where
  | volume (v : Volume)
  | published
  | unpublished
  | deleted
  /-- The confirmation, or why there is none. -/
  | validated (message : String) (confirmed : Option Confirmation)
  | snapshot (s : Snapshot)
  /-- A page of snapshots and the token of the next, empty for the last. -/
  | snapshots (entries : List Snapshot) (nextToken : String)
  /-- The numbers of what the controller can do. -/
  | capabilities (types : List Nat)
  deriving DecidableEq, Repr, Inhabited

end Hotplug.Controller
