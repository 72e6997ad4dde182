import Hotplug.Node.Message
import Hotplug.Wire.Capability

/-!
# Requests of the node plugin from their wire form

## Main definitions

* `Node.methods` — the methods, each with the reading of its message.
-/

namespace Hotplug.Node

open Wire

/-- A request to prepare a volume. -/
def StageVolume.decode? (fields : List Field) : Option StageVolume := do
  let volumeId ← text? 1 fields
  let _ ← textTable? 2 fields
  let stagingPath ← text? 3 fields
  let capability ← message? 4 capability? fields
  let _ ← textTable? 5 fields
  let context ← textTable? 6 fields
  return { volumeId, stagingPath, capability, context }

/-- A request to make a volume visible. -/
def PublishVolume.decode? (fields : List Field) : Option PublishVolume := do
  let volumeId ← text? 1 fields
  let _ ← textTable? 2 fields
  let _ ← text? 3 fields
  let targetPath ← text? 4 fields
  let capability ← message? 5 capability? fields
  let readonly ← bool? 6 fields
  let _ ← textTable? 7 fields
  let context ← textTable? 8 fields
  return { volumeId, targetPath, capability, readonly, context }

/-- The methods of the node plugin, each with the reading of its message. -/
def methods : List (String × (List Field → Option Request)) :=
  [("NodeStageVolume", fun m => (StageVolume.decode? m).map .stageVolume),
    ("NodeUnstageVolume", fun m => do return .unstageVolume (← text? 1 m) (← text? 2 m)),
    ("NodePublishVolume", fun m => (PublishVolume.decode? m).map .publishVolume),
    ("NodeUnpublishVolume", fun m => do return .unpublishVolume (← text? 1 m) (← text? 2 m)),
    ("NodeGetVolumeStats", fun m => do
      let volumeId ← text? 1 m
      let path ← text? 2 m
      let _ ← text? 3 m
      return .getVolumeStats volumeId path),
    ("NodeExpandVolume", fun m => do
      let _ ← text? 1 m
      let _ ← text? 2 m
      let _ ← message? 3 range? m
      let _ ← text? 4 m
      let _ ← message? 5 capability? m
      let _ ← textTable? 6 m
      return .unserved "NodeExpandVolume"),
    ("NodeGetCapabilities", fun _ => some .getCapabilities),
    ("NodeGetInfo", fun _ => some .getInfo)]

/-- The name of the service. -/
def serviceName : String := "csi.v1.Node"

end Hotplug.Node
