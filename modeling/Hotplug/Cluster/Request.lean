import Hotplug.Instance
import Hotplug.Program
import Hotplug.Storage

/-!
# Requests to the infra cluster

The primitive reads and writes the driver needs of the cluster that holds the volumes and the
virtual machines. A lookup of what does not exist answers nothing and does not fail.

## Main definitions

* `Cluster.Request`, `Cluster.Result` — the requests and what a success gives.
* `Cluster.interface` — each request answers its result or a failure.
* `Cluster.Request.isMutation`, `Cluster.Request.name` — whether a request changes the cluster, and
  its name in logs.
-/

namespace Hotplug.Cluster

/-- A primitive request. -/
inductive Request where
  | getStorageClass (name : String)
  | listStorageClasses
  | getSnapshotClass (name : String)
  | listSnapshotClasses
  | getClaim (ns name : String)
  | getPersistentVolume (name : String)
  | getVolume (ns name : String)
  | createVolume (ns : String) (volume : NewVolume)
  | deleteVolume (ns name : String)
  | listInstances (ns : String)
  | listDisks (vm : InstanceRef)
  | addDisk (vm : InstanceRef) (attachment : Attachment)
  | removeDisk (vm : InstanceRef) (disk : String)
  | getSnapshot (ns name : String)
  | listSnapshots (ns selector : String)
  | createSnapshot (ns : String) (snapshot : NewSnapshot)
  | deleteSnapshot (ns name : String)
  deriving DecidableEq, Repr, Inhabited

/-- What a request gives when it succeeds. A deletion says whether there was something to
delete. -/
@[reducible] def Result : Request → Type
  | .getStorageClass _ => Option StorageClass
  | .listStorageClasses => List StorageClass
  | .getSnapshotClass _ => Option SnapshotClass
  | .listSnapshotClasses => List SnapshotClass
  | .getClaim _ _ => Option Claim
  | .getPersistentVolume _ => Option PersistentVolume
  | .getVolume _ _ => Option RemoteVolume
  | .createVolume _ _ => RemoteVolume
  | .deleteVolume _ _ => Bool
  | .listInstances _ => List Instance
  | .listDisks _ => List String
  | .addDisk _ _ => Unit
  | .removeDisk _ _ => Unit
  | .getSnapshot _ _ => Option RemoteSnapshot
  | .listSnapshots _ _ => List RemoteSnapshot
  | .createSnapshot _ _ => RemoteSnapshot
  | .deleteSnapshot _ _ => Bool

/-- The cluster as the driver sees it. -/
@[reducible] def interface : Interface where
  Request := Request
  Answer r := Except DriverError (Result r)

/-- Whether a request changes the cluster when it succeeds. -/
def Request.isMutation : Request → Bool
  | .createVolume _ _ | .deleteVolume _ _ | .addDisk _ _ | .removeDisk _ _
  | .createSnapshot _ _ | .deleteSnapshot _ _ => true
  | _ => false

/-- The name of a request in logs. -/
def Request.name : Request → String
  | .getStorageClass _ => "get_storage_class"
  | .listStorageClasses => "list_storage_classes"
  | .getSnapshotClass _ => "get_snapshot_class"
  | .listSnapshotClasses => "list_snapshot_classes"
  | .getClaim _ _ => "get_claim"
  | .getPersistentVolume _ => "get_persistent_volume"
  | .getVolume _ _ => "get_data_volume"
  | .createVolume _ _ => "create_data_volume"
  | .deleteVolume _ _ => "delete_data_volume"
  | .listInstances _ => "list_instances"
  | .listDisks _ => "list_hotplugged_volumes"
  | .addDisk _ _ => "add_volume"
  | .removeDisk _ _ => "remove_volume"
  | .getSnapshot _ _ => "get_snapshot"
  | .listSnapshots _ _ => "list_snapshots"
  | .createSnapshot _ _ => "create_snapshot"
  | .deleteSnapshot _ _ => "delete_snapshot"

/-- One primitive request alone. -/
def call (r : Request) : Attempt interface (Result r) :=
  ExceptT.mk (.ask r .done)

/-! ### The requests as programs -/

/-- Looks up a storage class. -/
def getStorageClass (name : String) : Attempt interface (Option StorageClass) :=
  call (.getStorageClass name)

/-- Looks up a snapshot class. -/
def getSnapshotClass (name : String) : Attempt interface (Option SnapshotClass) :=
  call (.getSnapshotClass name)

/-- Lists the snapshot classes. -/
def listSnapshotClasses : Attempt interface (List SnapshotClass) :=
  call .listSnapshotClasses

/-- Looks up a claim. -/
def getClaim (ns name : String) : Attempt interface (Option Claim) :=
  call (.getClaim ns name)

/-- Looks up a persistent volume. -/
def getPersistentVolume (name : String) : Attempt interface (Option PersistentVolume) :=
  call (.getPersistentVolume name)

/-- Looks up a volume. -/
def getVolume (ns name : String) : Attempt interface (Option RemoteVolume) :=
  call (.getVolume ns name)

/-- Makes a volume. -/
def createVolume (ns : String) (volume : NewVolume) : Attempt interface RemoteVolume :=
  call (.createVolume ns volume)

/-- Deletes a volume. -/
def deleteVolume (ns name : String) : Attempt interface Bool :=
  call (.deleteVolume ns name)

/-- Lists the running virtual machines of a namespace. -/
def listInstances (ns : String) : Attempt interface (List Instance) :=
  call (.listInstances ns)

/-- Lists the disks plugged, or about to be plugged, into a virtual machine. -/
def listDisks (vm : InstanceRef) : Attempt interface (List String) :=
  call (.listDisks vm)

/-- Plugs a disk into a virtual machine. -/
def addDisk (vm : InstanceRef) (attachment : Attachment) : Attempt interface Unit :=
  call (.addDisk vm attachment)

/-- Unplugs a disk from a virtual machine. -/
def removeDisk (vm : InstanceRef) (disk : String) : Attempt interface Unit :=
  call (.removeDisk vm disk)

/-- Looks up a snapshot. -/
def getSnapshot (ns name : String) : Attempt interface (Option RemoteSnapshot) :=
  call (.getSnapshot ns name)

/-- Lists the snapshots of a namespace with some labels. -/
def listSnapshots (ns selector : String) : Attempt interface (List RemoteSnapshot) :=
  call (.listSnapshots ns selector)

/-- Takes a snapshot. -/
def createSnapshot (ns : String) (snapshot : NewSnapshot) : Attempt interface RemoteSnapshot :=
  call (.createSnapshot ns snapshot)

/-- Deletes a snapshot. -/
def deleteSnapshot (ns name : String) : Attempt interface Bool :=
  call (.deleteSnapshot ns name)

end Hotplug.Cluster
