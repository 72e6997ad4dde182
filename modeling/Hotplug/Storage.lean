import Hotplug.Error
import Hotplug.Table
import Hotplug.Text.Quoted

/-!
# The objects of the infra cluster

What the driver reads from the cluster that holds the volumes, and what it asks it to make.

## Main definitions

* `Bus`, `VolumeSource`, `Attachment` — how a volume is plugged into a virtual machine, where its
  contents come from, and a plugging request.
* `RemoteVolume`, `NewVolume` — a volume that exists and one to be made.
* `RemoteSnapshot`, `NewSnapshot` — the same for snapshots.
* `StorageClass`, `SnapshotClass`, `Claim`, `PersistentVolume`, `Instance` — what volumes and
  snapshots are resolved against.
-/

namespace Hotplug

/-- The name of the disk a volume is plugged in as. -/
def diskName (volume : String) : String :=
  "disk-" ++ volume

/-- No two volumes are plugged in under one name. -/
theorem diskName_injective : Function.Injective diskName := by
  intro v w h
  have hlists := congrArg String.toList h
  unfold diskName at hlists
  rw [String.toList_append, String.toList_append, List.append_cancel_left_eq] at hlists
  exact String.toList_inj.1 hlists

/-- The key of the bus in a volume's context. -/
def busKey : String := "bus"

/-- The key of the serial in a volume's context. -/
def serialKey : String := "serial"

/-- The bus a disk is plugged into. -/
inductive Bus where
  | scsi | virtio | sata
  deriving DecidableEq, Repr, Inhabited

namespace Bus

/-- The name of a bus. -/
def name : Bus → String
  | scsi => "scsi"
  | virtio => "virtio"
  | sata => "sata"

/-- Reads the name of a bus. -/
def parse (text : String) : Except DriverError Bus :=
  if text = "scsi" then .ok scsi
  else if text = "virtio" then .ok virtio
  else if text = "sata" then .ok sata
  else .error (.invalidArgument
    ("unknown bus type " ++ text ++ ", expected one of scsi, virtio, sata"))

/-- A bus is found again by its name. -/
@[simp] theorem parse_name (b : Bus) : parse b.name = .ok b := by
  cases b <;> rfl

end Bus

/-- Where a new volume gets its contents from. -/
inductive VolumeSource where
  /-- From nowhere. -/
  | blank
  /-- From a snapshot. -/
  | snapshot (ns name : String)
  /-- From the volume of a claim. -/
  | claim (ns name : String)
  deriving DecidableEq, Repr, Inhabited

namespace VolumeSource

/-- The first name, or the second where the first is empty. -/
def orElse (first second : String) : String :=
  if first.isEmpty then second else first

/-- The same source, in the namespace `ns` where it names none. -/
def orNamespace (ns : String) : VolumeSource → VolumeSource
  | blank => blank
  | snapshot n name => snapshot (orElse n ns) name
  | claim n name => claim (orElse n ns) name

/-- The source as messages show it. -/
def shown : VolumeSource → String
  | blank => "Blank"
  | snapshot ns name =>
    "Snapshot \x7b namespace: " ++ Text.quoted ns ++ ", name: " ++ Text.quoted name ++ " \x7d"
  | claim ns name =>
    "Claim \x7b namespace: " ++ Text.quoted ns ++ ", name: " ++ Text.quoted name ++ " \x7d"

end VolumeSource

/-- A volume of the cluster. -/
structure RemoteVolume where
  name : String := ""
  /-- The namespace it is in. -/
  ns : String := ""
  /-- Its unique id, which the guest sees as the serial of its disk. -/
  uid : String := ""
  storageClass : Option String := none
  /-- Its size in bytes. -/
  size : Int := 0
  labels : Table String := .empty
  source : VolumeSource := .blank
  deriving DecidableEq, Repr, Inhabited

/-- A volume to be made. -/
structure NewVolume where
  name : String := ""
  /-- Its size in bytes. -/
  size : Int := 0
  storageClass : Option String := none
  labels : Table String := .empty
  source : VolumeSource := .blank
  deriving DecidableEq, Repr, Inhabited

/-- A storage class. -/
structure StorageClass where
  name : String
  /-- What makes its volumes. -/
  provisioner : String
  /-- Whether the cluster uses it for claims that name none. -/
  isDefault : Bool
  deriving DecidableEq, Repr, Inhabited

/-- A snapshot class. -/
structure SnapshotClass where
  name : String
  /-- What takes its snapshots. -/
  driver : String
  /-- Whether the cluster uses it for snapshots that name none. -/
  isDefault : Bool
  deriving DecidableEq, Repr, Inhabited

/-- The snapshot class found for a storage class. -/
structure SnapshotBinding where
  storageClass : String
  provisioner : String
  snapshotClass : String
  deriving DecidableEq, Repr, Inhabited

/-- A claim on a persistent volume. -/
structure Claim where
  /-- The namespace it is in. -/
  ns : String
  name : String
  /-- The persistent volume it is bound to. -/
  volumeName : Option String
  storageClass : Option String
  deriving DecidableEq, Repr, Inhabited

/-- A persistent volume. -/
structure PersistentVolume where
  name : String
  storageClass : Option String
  deriving DecidableEq, Repr, Inhabited

/-- A running virtual machine. -/
structure Instance where
  /-- The namespace it is in. -/
  ns : String
  name : String
  /-- The hardware id its guest sees. -/
  hardwareId : Option String
  deriving DecidableEq, Repr, Inhabited

/-- A request to plug a volume into a virtual machine. -/
structure Attachment where
  /-- The name of the disk. -/
  disk : String
  /-- The name of the volume. -/
  volume : String
  /-- The serial the guest sees. -/
  serial : String
  bus : Bus
  deriving DecidableEq, Repr, Inhabited

/-- A point in time: whole seconds since 1970, rounded down, and nanoseconds after them. A leap
second adds a thousand million nanoseconds to the second before it. -/
structure Instant where
  seconds : Int
  nanos : Nat
  deriving DecidableEq, Repr, Inhabited

/-- A snapshot of the cluster. -/
structure RemoteSnapshot where
  name : String := ""
  /-- The namespace it is in. -/
  ns : String := ""
  /-- The volume it was taken from. -/
  sourceVolume : String := ""
  snapshotClass : Option String := none
  /-- Whether a volume can be made from it. -/
  ready : Bool := false
  /-- The size of a volume made from it, in bytes. -/
  size : Option Int := none
  /-- When it was taken. -/
  created : Option Instant := none
  deriving DecidableEq, Repr, Inhabited

/-- A snapshot to be taken. -/
structure NewSnapshot where
  name : String := ""
  /-- The volume to take it from. -/
  sourceVolume : String := ""
  snapshotClass : String := ""
  labels : Table String := .empty
  deriving DecidableEq, Repr, Inhabited

end Hotplug
