import Hotplug.Cluster.Request
import Hotplug.Digits

/-!
# A cluster in memory

The infra cluster as a value: its objects in lists and the disks of every virtual machine. Every
primitive request is one step from a cluster to a cluster.

## Main definitions

* `Cluster.State` — the objects.
* `Cluster.step` — the answer to a request and the cluster after it.
* `Cluster.stepUnique` — the same, except that the name of a volume can be taken only once.
-/

namespace Hotplug.Cluster

/-- The objects of a cluster. -/
structure State where
  storageClasses : List StorageClass := []
  snapshotClasses : List SnapshotClass := []
  /-- Claims besides those that every volume has. -/
  claims : List Claim := []
  /-- Persistent volumes besides those that every volume has. -/
  persistentVolumes : List PersistentVolume := []
  volumes : List RemoteVolume := []
  instances : List Instance := []
  snapshots : List RemoteSnapshot := []
  /-- The disks of each virtual machine, under its node id. -/
  disks : Table (List String) := .empty
  /-- How many volumes were ever made. -/
  created : Nat := 0
  deriving DecidableEq, Repr, Inhabited

namespace State

/-- The first volume with a namespace and a name. -/
def volume? (s : State) (ns name : String) : Option RemoteVolume :=
  s.volumes.find? fun v => v.ns == ns && v.name == name

/-- The first snapshot with a namespace and a name. -/
def snapshot? (s : State) (ns name : String) : Option RemoteSnapshot :=
  s.snapshots.find? fun v => v.ns == ns && v.name == name

/-- The name of the persistent volume behind a volume. -/
def boundName (v : RemoteVolume) : String :=
  "pv-" ++ v.uid

/-- A claim; every volume has one of its own name, bound to the volume behind it. -/
def claim? (s : State) (ns name : String) : Option Claim :=
  (s.claims.find? fun c => c.ns == ns && c.name == name).or
    ((s.volume? ns name).map fun v =>
      { ns, name, volumeName := some (boundName v), storageClass := v.storageClass })

/-- A persistent volume; every volume has one. -/
def persistentVolume? (s : State) (name : String) : Option PersistentVolume :=
  (s.persistentVolumes.find? (·.name == name)).or
    ((s.volumes.find? (boundName · == name)).map fun v =>
      { name, storageClass := v.storageClass })

/-- The failure of a request about a virtual machine that does not exist. -/
def noMachine (vm : InstanceRef) : DriverError :=
  .notFound "VirtualMachine" vm.toText

/-- The volume made from a description, as the next one of this cluster. -/
def newVolume (s : State) (ns : String) (v : NewVolume) : RemoteVolume :=
  { name := v.name, ns, uid := "uid-" ++ Digits.text (s.created + 1 : Nat),
    storageClass := v.storageClass, size := v.size, labels := v.labels, source := v.source }

/-- The snapshot taken from a description. -/
def newSnapshot (s : State) (ns : String) (v : NewSnapshot) : RemoteSnapshot :=
  { name := v.name, ns, sourceVolume := v.sourceVolume, snapshotClass := some v.snapshotClass,
    ready := true, size := (s.volume? ns v.sourceVolume).map (·.size), created := none }

end State

open State

/-- The answer to a request and the cluster after it. -/
def step : Handler interface State
  | .getStorageClass name, s => (.ok (s.storageClasses.find? (·.name == name)), s)
  | .listStorageClasses, s => (.ok s.storageClasses, s)
  | .getSnapshotClass name, s => (.ok (s.snapshotClasses.find? (·.name == name)), s)
  | .listSnapshotClasses, s => (.ok s.snapshotClasses, s)
  | .getClaim ns name, s => (.ok (s.claim? ns name), s)
  | .getPersistentVolume name, s => (.ok (s.persistentVolume? name), s)
  | .getVolume ns name, s => (.ok (s.volume? ns name), s)
  | .createVolume ns v, s =>
    (.ok (s.newVolume ns v),
      { s with volumes := s.volumes ++ [s.newVolume ns v], created := s.created + 1 })
  | .deleteVolume ns name, s =>
    (.ok (s.volume? ns name).isSome,
      { s with volumes := s.volumes.filter fun v => !(v.ns == ns && v.name == name) })
  | .listInstances ns, s => (.ok (s.instances.filter (·.ns == ns)), s)
  | .listDisks vm, s =>
    match s.disks.get? vm.toText with
    | none => (.error (noMachine vm), s)
    | some disks => (.ok disks, s)
  | .addDisk vm attachment, s =>
    match s.disks.get? vm.toText with
    | none => (.error (noMachine vm), s)
    | some _ => (.ok (), { s with disks := s.disks.modify vm.toText (· ++ [attachment.disk]) })
  | .removeDisk vm disk, s =>
    match s.disks.get? vm.toText with
    | none => (.error (noMachine vm), s)
    | some _ => (.ok (), { s with disks := s.disks.modify vm.toText (·.filter (· != disk)) })
  | .getSnapshot ns name, s => (.ok (s.snapshot? ns name), s)
  | .listSnapshots ns _, s => (.ok (s.snapshots.filter (·.ns == ns)), s)
  | .createSnapshot ns v, s =>
    (.ok (s.newSnapshot ns v), { s with snapshots := s.snapshots ++ [s.newSnapshot ns v] })
  | .deleteSnapshot ns name, s =>
    (.ok (s.snapshot? ns name).isSome,
      { s with snapshots := s.snapshots.filter fun v => !(v.ns == ns && v.name == name) })

/-- The same, except that a volume is not made while another of its name exists. -/
def stepUnique : Handler interface State
  | .createVolume ns v, s =>
    match s.volume? ns v.name with
    | some _ => (.error (.alreadyExists "DataVolume" v.name "name taken"), s)
    | none => step (.createVolume ns v) s
  | r, s => step r s

end Hotplug.Cluster
