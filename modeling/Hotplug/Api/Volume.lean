import Hotplug.Api.Object
import Hotplug.Digits
import Hotplug.Quantity
import Hotplug.Storage

/-!
# Volumes as API objects

## Main definitions

* `NewVolume.toObject` — the object that asks for a volume.
* `RemoteVolume.ofObject` — the volume that an object describes.
-/

namespace Hotplug

open Api

/-- Where the contents come from, as an object says it. -/
def VolumeSource.toObject : VolumeSource → Json
  | blank => .object [("blank", .object [])]
  | snapshot ns name =>
    .object [("snapshot", .object [("namespace", .string ns), ("name", .string name)])]
  | claim ns name => .object [("pvc", .object [("namespace", .string ns), ("name", .string name)])]

/-- Reads where the contents come from. Sources without a name, and sources of other kinds, count
as blank. -/
def VolumeSource.ofObject (source : Json) : VolumeSource :=
  match Object.textAt? ["snapshot", "name"] source with
  | some name => .snapshot ((Object.textAt? ["snapshot", "namespace"] source).getD "") name
  | none =>
    match Object.textAt? ["pvc", "name"] source with
    | some name => .claim ((Object.textAt? ["pvc", "namespace"] source).getD "") name
    | none => .blank

/-- What an object says about the storage that a new volume is to have. -/
def NewVolume.storage (v : NewVolume) : Json :=
  .object ([("accessModes", .array [.string "ReadWriteOnce"]),
      ("resources", .object [("requests", .object [("storage", .string (Digits.text v.size))])])] ++
    match v.storageClass with
    | some storageClass => [("storageClassName", .string storageClass)]
    | none => [])

/-- The object that asks for a volume. -/
def NewVolume.toObject (ns : String) (v : NewVolume) : Json :=
  Object.named .volume ns v.name v.labels
    (.object [("source", v.source.toObject), ("storage", v.storage)])

namespace RemoteVolume

/-- The part of an object about storage. An older form of the object calls it `pvc`. -/
def storageOf (object : Json) : Json :=
  ((object.pointer? ["spec", "storage"]).or (object.pointer? ["spec", "pvc"])).getD .null

/-- The size that an object asks for; zero where it asks for none. -/
def sizeOf (object : Json) : Except DriverError Int :=
  match Object.textAt? ["resources", "requests", "storage"] (storageOf object) with
  | none => .ok 0
  | some quantity =>
    match Quantity.parse? quantity with
    | some size => .ok size
    | none => .error (.internal ("DataVolume " ++ Object.name object ++
        " requests unparsable storage quantity " ++ Text.quoted quantity))

/-- The volume that an object describes. -/
def ofObject (object : Json) : Except DriverError RemoteVolume :=
  match sizeOf object with
  | .error e => .error e
  | .ok size => .ok {
      name := Object.name object
      ns := (Object.ns? object).getD ""
      uid := Object.uid object
      storageClass := Object.textAt? ["storageClassName"] (storageOf object)
      size
      labels := Object.labels object
      source := VolumeSource.ofObject ((object.pointer? ["spec", "source"]).getD .null) }

end RemoteVolume

end Hotplug
