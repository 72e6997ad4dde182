import Hotplug.Controller.Message
import Hotplug.Wire.Capability

/-!
# Requests of the controller from their wire form

Every message is read whole: a part that the controller does not use, such as secrets, must still
be of its type.

## Main definitions

* `Controller.methods` — the methods, each with the reading of its message.
-/

namespace Hotplug

namespace Wire

/-- A range of sizes for a volume. -/
def capacityRange? (fields : List Field) : Option Controller.CapacityRange :=
  (range? fields).map fun (required, limit) => { required, limit }

/-- A content source. -/
def contentSource? (fields : List Field) : Option Controller.ContentSource := do
  let origin ← oneOf? 1 2
    (fun fields => (text? 1 fields).map Controller.Origin.snapshot)
    (fun fields => (text? 1 fields).map Controller.Origin.volume) fields
  return { origin }

/-- Where volumes may be reached from: tables of segments. -/
def topology? (fields : List Field) : Option (Table String) :=
  textTable? 1 fields

/-- Where a volume has to be, and would best be, reached from. -/
def topologyRequirement? (fields : List Field) : Option (List (Table String)) := do
  return (← messages? 1 topology? fields) ++ (← messages? 2 topology? fields)

end Wire

namespace Controller

open Wire

/-- A request to make a volume. -/
def CreateVolume.decode? (fields : List Field) : Option CreateVolume := do
  let name ← text? 1 fields
  let capacity ← message? 2 capacityRange? fields
  let capabilities ← messages? 3 capability? fields
  let parameters ← textTable? 4 fields
  let _ ← textTable? 5 fields
  let source ← message? 6 contentSource? fields
  let _ ← message? 7 topologyRequirement? fields
  let _ ← textTable? 8 fields
  return { name, capacity, capabilities, parameters, source }

/-- A request to plug a volume. -/
def PublishVolume.decode? (fields : List Field) : Option PublishVolume := do
  let volumeId ← text? 1 fields
  let nodeId ← text? 2 fields
  let capability ← message? 3 capability? fields
  let readonly ← bool? 4 fields
  let _ ← textTable? 5 fields
  let context ← textTable? 6 fields
  return { volumeId, nodeId, capability, readonly, context }

/-- A request to unplug a volume. -/
def UnpublishVolume.decode? (fields : List Field) : Option UnpublishVolume := do
  let volumeId ← text? 1 fields
  let nodeId ← text? 2 fields
  let _ ← textTable? 3 fields
  return { volumeId, nodeId }

/-- A question about capabilities. -/
def ValidateCapabilities.decode? (fields : List Field) : Option ValidateCapabilities := do
  let volumeId ← text? 1 fields
  let context ← textTable? 2 fields
  let capabilities ← messages? 3 capability? fields
  let parameters ← textTable? 4 fields
  let _ ← textTable? 5 fields
  let mutableParameters ← textTable? 6 fields
  return { volumeId, context, capabilities, parameters, mutableParameters }

/-- A request to take a snapshot. -/
def CreateSnapshot.decode? (fields : List Field) : Option CreateSnapshot := do
  let sourceVolumeId ← text? 1 fields
  let name ← text? 2 fields
  let _ ← textTable? 3 fields
  let parameters ← textTable? 4 fields
  return { sourceVolumeId, name, parameters }

/-- A request to list snapshots. -/
def ListSnapshots.decode? (fields : List Field) : Option ListSnapshots := do
  let maxEntries ← int32? 1 fields
  let startingToken ← text? 2 fields
  let sourceVolumeId ← text? 3 fields
  let snapshotId ← text? 4 fields
  let _ ← textTable? 5 fields
  return { maxEntries, startingToken, sourceVolumeId, snapshotId }

/-- An id, beside secrets. -/
def idWithSecrets? (fields : List Field) : Option String := do
  let id ← text? 1 fields
  let _ ← textTable? 2 fields
  return id

/-- The methods of the controller, each with the reading of its message. -/
def methods : List (String × (List Field → Option Request)) :=
  [("CreateVolume", fun m => (CreateVolume.decode? m).map .createVolume),
    ("DeleteVolume", fun m => (idWithSecrets? m).map .deleteVolume),
    ("ControllerPublishVolume", fun m => (PublishVolume.decode? m).map .publishVolume),
    ("ControllerUnpublishVolume", fun m => (UnpublishVolume.decode? m).map .unpublishVolume),
    ("ValidateVolumeCapabilities",
      fun m => (ValidateCapabilities.decode? m).map .validateCapabilities),
    ("ListVolumes", fun m => do
      let _ ← int32? 1 m
      let _ ← text? 2 m
      return .unserved "ListVolumes"),
    ("GetCapacity", fun m => do
      let _ ← messages? 1 capability? m
      let _ ← textTable? 2 m
      let _ ← message? 3 topology? m
      return .unserved "GetCapacity"),
    ("ControllerGetCapabilities", fun _ => some .getCapabilities),
    ("CreateSnapshot", fun m => (CreateSnapshot.decode? m).map .createSnapshot),
    ("DeleteSnapshot", fun m => (idWithSecrets? m).map .deleteSnapshot),
    ("ListSnapshots", fun m => (ListSnapshots.decode? m).map .listSnapshots),
    ("ControllerExpandVolume", fun m => do
      let _ ← text? 1 m
      let _ ← message? 2 capacityRange? m
      let _ ← textTable? 3 m
      let _ ← message? 4 capability? m
      return .unserved "ControllerExpandVolume"),
    ("ControllerGetVolume", fun m => do
      let _ ← text? 1 m
      return .unserved "ControllerGetVolume"),
    ("ControllerModifyVolume", fun m => do
      let _ ← text? 1 m
      let _ ← textTable? 2 m
      let _ ← textTable? 3 m
      return .unserved "ControllerModifyVolume")]

/-- The service the controller's methods belong to. -/
def serviceName : String := "csi.v1.Controller"

end Controller

end Hotplug
