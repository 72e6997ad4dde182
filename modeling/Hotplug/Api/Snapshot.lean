import Hotplug.Api.Object
import Hotplug.Quantity
import Hotplug.Timestamp

/-!
# Snapshots and their classes as API objects

## Main definitions

* `NewSnapshot.toObject` — the object that asks for a snapshot.
* `RemoteSnapshot.ofObject`, `SnapshotClass.ofObject` — what objects describe.
-/

namespace Hotplug

open Api

/-- The object that asks for a snapshot. -/
def NewSnapshot.toObject (ns : String) (s : NewSnapshot) : Json :=
  Object.named .snapshot ns s.name s.labels
    (.object [("source", .object [("persistentVolumeClaimName", .string s.sourceVolume)]),
      ("volumeSnapshotClassName", .string s.snapshotClass)])

/-- The snapshot that an object describes. A size or a time that cannot be read is not known. -/
def RemoteSnapshot.ofObject (object : Json) : RemoteSnapshot where
  name := Object.name object
  ns := (Object.ns? object).getD ""
  sourceVolume := (Object.textAt? ["spec", "source", "persistentVolumeClaimName"] object).getD ""
  snapshotClass := Object.textAt? ["spec", "volumeSnapshotClassName"] object
  ready := ((object.pointer? ["status", "readyToUse"]).bind Json.bool?).getD false
  size := (Object.textAt? ["status", "restoreSize"] object).bind Quantity.parse?
  created := (Object.textAt? ["status", "creationTime"] object).bind Timestamp.read?

/-- The annotation that marks the default snapshot class. -/
def defaultSnapshotClassAnnotation : String := "snapshot.storage.kubernetes.io/is-default-class"

/-- The snapshot class that an object describes. -/
def SnapshotClass.ofObject (object : Json) : SnapshotClass where
  name := Object.name object
  driver := (Object.textAt? ["driver"] object).getD ""
  isDefault := Object.isMarked defaultSnapshotClassAnnotation object

end Hotplug
