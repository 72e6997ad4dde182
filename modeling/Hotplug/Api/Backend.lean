import Hotplug.Api.Claim
import Hotplug.Api.Machine
import Hotplug.Api.Server
import Hotplug.Api.Snapshot
import Hotplug.Api.Volume
import Hotplug.Cluster.Request

/-!
# The cluster behind an API server

Every request to the cluster is a conversation with the API server. Where it fails, the failure
names the operation and, where it matters, the object.

## Main definitions

* `Api.answer` — the conversation for each request.
* `Api.probe` — asks whether the server answers at all.
-/

namespace Hotplug.Api

open Http Cluster

/-- Looks up a storage class. -/
def findStorageClass (name : String) : Attempt Http.interface (Option StorageClass) := do
  let found ← (get? .storageClass none name).during ("get StorageClass " ++ name)
  return found.map StorageClass.ofObject

/-- Looks up a snapshot class. -/
def findSnapshotClass (name : String) : Attempt Http.interface (Option SnapshotClass) := do
  let found ← (get? .snapshotClass none name).during ("get VolumeSnapshotClass " ++ name)
  return found.map SnapshotClass.ofObject

/-- Looks up a claim. -/
def findClaim (ns name : String) : Attempt Http.interface (Option Claim) := do
  let found ← (get? .claim ns name).during ("get PersistentVolumeClaim " ++ ns ++ "/" ++ name)
  return found.map (Claim.ofObject ns)

/-- Looks up a persistent volume. -/
def findPersistentVolume (name : String) : Attempt Http.interface (Option PersistentVolume) := do
  let found ← (get? .persistentVolume none name).during ("get PersistentVolume " ++ name)
  return found.map PersistentVolume.ofObject

/-- Looks up a volume. -/
def findVolume (ns name : String) : Attempt Http.interface (Option RemoteVolume) := do
  match ← (get? .volume ns name).during ("get DataVolume " ++ ns ++ "/" ++ name) with
  | none => return none
  | some object => some <$> Attempt.ofExcept (RemoteVolume.ofObject object)

/-- Makes a volume. -/
def makeVolume (ns : String) (v : NewVolume) : Attempt Http.interface RemoteVolume := do
  let object ← (create .volume ns (v.toObject ns)).during
    ("create DataVolume " ++ ns ++ "/" ++ v.name)
  Attempt.ofExcept (RemoteVolume.ofObject object)

/-- Lists the running virtual machines of a namespace. -/
def findInstances (ns : String) : Attempt Http.interface (List Instance) := do
  let objects ← (list .runningMachine ns "").during ("list VirtualMachineInstances in " ++ ns)
  return objects.map (Instance.ofObject ns)

/-- Lists the disks of a virtual machine, which must exist. -/
def findDisks (vm : InstanceRef) : Attempt Http.interface (List String) := do
  let found ← (get? .machine vm.ns vm.name).during ("get VirtualMachine " ++ vm.toText)
  let object ← Attempt.orFail (.notFound "VirtualMachine" vm.toText) found
  return Machine.disks object

/-- Looks up a snapshot. -/
def findSnapshot (ns name : String) : Attempt Http.interface (Option RemoteSnapshot) := do
  let found ← (get? .snapshot ns name).during ("get VolumeSnapshot " ++ ns ++ "/" ++ name)
  return found.map RemoteSnapshot.ofObject

/-- Lists the snapshots of a namespace with some labels. -/
def findSnapshots (ns selector : String) : Attempt Http.interface (List RemoteSnapshot) := do
  let objects ← (list .snapshot ns selector).during ("list VolumeSnapshots in " ++ ns)
  return objects.map RemoteSnapshot.ofObject

/-- Takes a snapshot. -/
def makeSnapshot (ns : String) (s : NewSnapshot) : Attempt Http.interface RemoteSnapshot := do
  let object ← (create .snapshot ns (s.toObject ns)).during
    ("create VolumeSnapshot " ++ ns ++ "/" ++ s.name)
  return RemoteSnapshot.ofObject object

/-- The conversation for a request, which answers as the cluster does. -/
def conversation : (r : Cluster.Request) → Attempt Http.interface (Result r)
  | .getStorageClass name => findStorageClass name
  | .listStorageClasses =>
    (·.map StorageClass.ofObject) <$> (list .storageClass none "").during "list StorageClasses"
  | .getSnapshotClass name => findSnapshotClass name
  | .listSnapshotClasses =>
    (·.map SnapshotClass.ofObject) <$>
      (list .snapshotClass none "").during "list VolumeSnapshotClasses"
  | .getClaim ns name => findClaim ns name
  | .getPersistentVolume name => findPersistentVolume name
  | .getVolume ns name => findVolume ns name
  | .createVolume ns v => makeVolume ns v
  | .deleteVolume ns name =>
    (deleteIfPresent .volume ns name).during ("delete DataVolume " ++ ns ++ "/" ++ name)
  | .listInstances ns => findInstances ns
  | .listDisks vm => findDisks vm
  | .addDisk vm a => putSubresource vm "addvolume" a.toObject
  | .removeDisk vm disk =>
    putSubresource vm "removevolume" (.object [("name", .string disk)])
  | .getSnapshot ns name => findSnapshot ns name
  | .listSnapshots ns selector => findSnapshots ns selector
  | .createSnapshot ns s => makeSnapshot ns s
  | .deleteSnapshot ns name =>
    (deleteIfPresent .snapshot ns name).during ("delete VolumeSnapshot " ++ ns ++ "/" ++ name)

/-- A program over the cluster as a program over the API server. -/
def onServer {α : Type} (p : Program Cluster.interface α) : Program Http.interface α :=
  p.expand fun r => (conversation r).run

/-- The shape of the version that a server tells. -/
def versionShape : Schema :=
  .fields (Schema.each .text ["buildDate", "compiler", "gitCommit", "gitTreeState", "gitVersion",
    "goVersion", "major", "minor", "platform"])

/-- Asks the server for its version. -/
def probe : Attempt Http.interface Unit :=
  Call.during "query api server version" do
    let _ ← shaped versionShape (← exchange .get "/version" none)

end Hotplug.Api
