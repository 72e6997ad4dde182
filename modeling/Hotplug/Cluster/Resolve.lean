import Hotplug.Cluster.Request
import Hotplug.Digits
import Hotplug.Policy.Basic

/-!
# Resolving against the cluster

The operations that RPCs are made of: finding the snapshot class of a storage class, applying the
policy, making sure that a volume exists, plugging and unplugging a disk, finding the virtual
machine of a node. Each can be tried again from the start.

## Main definitions

* `Cluster.resolveSnapshotClass`, `Cluster.chooseSnapshotClass` — the class a snapshot is taken
  with.
* `Cluster.storageClassForClaim` — the storage class behind a claim.
* `Cluster.enforceStorageClass` — the policy's verdict, asking the cluster only where it must.
* `Cluster.ensureVolume` — the volume of a name, made if it does not exist.
* `Cluster.attach`, `Cluster.detach` — plugging and unplugging.
* `Cluster.resolveInstance` — the virtual machine of a node id.
-/

namespace Hotplug.Cluster

/-- The default snapshot classes of a provisioner. -/
def defaultsFor (provisioner : String) (classes : List SnapshotClass) : List SnapshotClass :=
  classes.filter fun c => c.isDefault && c.driver == provisioner

/-- The binding of a storage class to the only default of its provisioner. -/
def bindDefault (sc : StorageClass) (classes : List SnapshotClass) :
    Except DriverError SnapshotBinding :=
  match defaultsFor sc.provisioner classes with
  | [] => .error (.notFound "default VolumeSnapshotClass for provisioner" sc.provisioner)
  | [only] => .ok ⟨sc.name, sc.provisioner, only.name⟩
  | many => .error (.failedPrecondition
      (Digits.text many.length ++ " volume snapshot classes are marked default for provisioner " ++
        sc.provisioner ++ ": " ++ ", ".intercalate (many.map (·.name))))

/-- The binding of a storage class to a snapshot class, which must have its provisioner. -/
def bindClass (sc : StorageClass) (vsc : SnapshotClass) : Except DriverError SnapshotBinding :=
  if vsc.driver = sc.provisioner then .ok ⟨sc.name, sc.provisioner, vsc.name⟩
  else .error (.failedPrecondition
    ("provisioner mismatch: volume snapshot class " ++ vsc.name ++ " uses " ++ vsc.driver ++
      " but storage class " ++ sc.name ++ " uses " ++ sc.provisioner))

/-- Finds the snapshot class behind a storage class: the requested one, or without a request the
only default of the storage class's provisioner. -/
def resolveSnapshotClass (storageClass requested : String) :
    Attempt interface SnapshotBinding := do
  let sc ← Attempt.orFail (.notFound "StorageClass" storageClass) (← getStorageClass storageClass)
  if requested.isEmpty then
    Attempt.ofExcept (bindDefault sc (← listSnapshotClasses))
  else
    let vsc ← Attempt.orFail (.notFound "VolumeSnapshotClass" requested)
      (← getSnapshotClass requested)
    Attempt.ofExcept (bindClass sc vsc)

/-- Refuses a default that the restriction does not let through. -/
def checkDefault (storageClass : String) (restriction : SnapshotRestriction)
    (binding : SnapshotBinding) : Except DriverError SnapshotBinding :=
  if restriction.permits binding.snapshotClass then .ok binding
  else .error (.permissionDenied
    ("default volume snapshot class " ++ binding.snapshotClass ++
      " is not permitted for storage class " ++ storageClass))

/-- Finds the snapshot class for a snapshot of a volume in a storage class, within the policy. -/
def chooseSnapshotClass (policy : Policy) (storageClass requested : String) :
    Attempt interface SnapshotBinding := do
  match ← Attempt.ofExcept (policy.checkSnapshotClass storageClass requested) with
  | .use name => resolveSnapshotClass storageClass name
  | .useDefault restriction =>
    let binding ← resolveSnapshotClass storageClass ""
    Attempt.ofExcept (checkDefault storageClass restriction binding)

/-- A claim as messages show it. -/
def shownClaim (ns claim : String) : String :=
  ns ++ "/" ++ claim

/-- The persistent volume that a claim is bound to. -/
def volumeNameFromClaim (ns claim : String) : Attempt interface String := do
  let found ← Attempt.orFail (.notFound "PersistentVolumeClaim" (shownClaim ns claim))
    (← getClaim ns claim)
  Attempt.orFail (.failedPrecondition
    ("PersistentVolumeClaim " ++ shownClaim ns claim ++ " is not bound to a volume yet"))
    found.volumeName

/-- The storage class behind a claim: that of its bound volume, or else the claim's own. -/
def storageClassForClaim (ns claim : String) : Attempt interface String := do
  let volumeName ← volumeNameFromClaim ns claim
  match (← getPersistentVolume volumeName).bind (·.storageClass) with
  | some storageClass => return storageClass
  | none =>
    let found ← getClaim ns claim
    Attempt.orFail (.failedPrecondition
      ("no storage class recorded for PersistentVolumeClaim " ++ shownClaim ns claim))
      (found.bind (·.storageClass))

/-- Whether a storage class is the cluster's default. An empty name is the default itself; a class
that does not exist is not. -/
def isDefaultStorageClass (storageClass : String) : Attempt interface Bool := do
  if storageClass.isEmpty then return true
  else return ((← getStorageClass storageClass).map (·.isDefault)).getD false

/-- Applies the policy to a storage class, asking whether it is the default only where the verdict
depends on it. -/
def enforceStorageClass (policy : Policy) (storageClass : String) :
    Attempt interface Unit := do
  let isDefault ←
    if policy.needsDefaultLookup storageClass then isDefaultStorageClass storageClass
    else pure false
  Attempt.ofExcept (policy.checkStorageClass storageClass isDefault)

/-- A storage class as messages show it. -/
def shownClass (storageClass : Option String) : String :=
  storageClass.getD "<default>"

/-- Whether an existing volume is the one wanted: its size is the same, its storage class is the
one asked for, if one is, and its contents come from the same source, where a source without a
namespace is in the volume's own. -/
def reuse (ns : String) (wanted : NewVolume) (existing : RemoteVolume) :
    Except DriverError RemoteVolume :=
  let refuse (reason : String) : Except DriverError RemoteVolume :=
    .error (.alreadyExists "DataVolume" wanted.name reason)
  let source := existing.source.orNamespace (VolumeSource.orElse existing.ns ns)
  if existing.size ≠ wanted.size then
    refuse ("size is " ++ Digits.text existing.size ++ " bytes, requested " ++
      Digits.text wanted.size)
  else if wanted.storageClass.isSome && existing.storageClass ≠ wanted.storageClass then
    refuse ("storage class is " ++ shownClass existing.storageClass ++ ", requested " ++
      shownClass wanted.storageClass)
  else if source ≠ wanted.source.orNamespace ns then
    refuse ("content source is " ++ source.shown ++ ", requested " ++ wanted.source.shown)
  else .ok existing

/-- The volume wanted: the existing one of its name, or a new one. -/
def ensureVolume (ns : String) (wanted : NewVolume) : Attempt interface RemoteVolume := do
  match ← getVolume ns wanted.name with
  | some existing => Attempt.ofExcept (reuse ns wanted existing)
  | none => createVolume ns wanted

/-- Deletes a volume, if it exists. -/
def removeVolume (ns name : String) : Attempt interface Unit := do
  let _ ← deleteVolume ns name

/-- Plugs a volume into a virtual machine, unless a disk of its name is there. -/
def attach (vm : InstanceRef) (attachment : Attachment) : Attempt interface Unit := do
  if (← listDisks vm).contains attachment.disk then return ()
  else addDisk vm attachment

/-- The disks of a virtual machine; none when it does not exist. -/
def disksOrNone (vm : InstanceRef) : Attempt interface (List String) :=
  (listDisks vm).orMissing (pure [])

/-- Unplugs a disk from a virtual machine, if both exist. -/
def detach (vm : InstanceRef) (disk : String) : Attempt interface Unit := do
  if (← disksOrNone vm).contains disk then removeDisk vm disk
  else return ()

/-- The same text but for the case of ASCII letters. -/
def sameIgnoringCase (a b : String) : Bool :=
  a.toList.map Char.toLower == b.toList.map Char.toLower

/-- Whether a virtual machine has a hardware id, ignoring case. -/
def hasHardwareId (hardwareId : String) (i : Instance) : Bool :=
  match i.hardwareId with
  | some id => sameIgnoringCase id hardwareId
  | none => false

/-- The first running virtual machine with a hardware id. -/
def findByHardwareId (ns hardwareId : String) : Attempt interface InstanceRef := do
  let found ← Attempt.orFail
    (.notFound "VirtualMachineInstance with firmware uuid" hardwareId)
    ((← listInstances ns).find? (hasHardwareId hardwareId))
  return ⟨found.ns, found.name⟩

/-- The virtual machine of a node id: the one it names, or else the one whose hardware id it is. -/
def resolveInstance (ns nodeId : String) : Attempt interface InstanceRef :=
  if nodeId.isEmpty then Attempt.fail (.invalidArgument "node id is required")
  else
    match InstanceRef.parse? nodeId with
    | some vm => return vm
    | none => findByHardwareId ns nodeId

end Hotplug.Cluster
