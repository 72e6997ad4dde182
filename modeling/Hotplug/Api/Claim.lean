import Hotplug.Api.Object
import Hotplug.Storage

/-!
# Storage classes, claims and persistent volumes as API objects

## Main definitions

* `StorageClass.ofObject`, `Claim.ofObject`, `PersistentVolume.ofObject` — what objects describe.
-/

namespace Hotplug

open Api

/-- The annotation that marks the default storage class. -/
def defaultStorageClassAnnotation : String := "storageclass.kubernetes.io/is-default-class"

/-- The storage class that an object describes. -/
def StorageClass.ofObject (object : Json) : StorageClass where
  name := Object.name object
  provisioner := ((object.last? "provisioner").bind Json.text?).getD ""
  isDefault := Object.isMarked defaultStorageClassAnnotation object

/-- The claim that an object describes, in the namespace it was asked for in. -/
def Claim.ofObject (ns : String) (object : Json) : Claim where
  ns
  name := Object.name object
  volumeName := Object.textAt? ["spec", "volumeName"] object
  storageClass := Object.textAt? ["spec", "storageClassName"] object

/-- The persistent volume that an object describes. -/
def PersistentVolume.ofObject (object : Json) : PersistentVolume where
  name := Object.name object
  storageClass := Object.textAt? ["spec", "storageClassName"] object

end Hotplug
