import Hotplug.Api.Object
import Hotplug.Instance
import Hotplug.Storage

/-!
# Virtual machines as API objects

A virtual machine lists the volumes it has, and the requests to plug and unplug that it has not
yet acted on. The disks it will have are the volumes after all requests, in order.

## Main definitions

* `Machine.disks` — the disks that a virtual machine has or will have.
* `Attachment.toObject` — the body of a request to plug a disk.
* `Instance.ofObject` — the running virtual machine that an object describes.
-/

namespace Hotplug

open Api

namespace Machine

/-- The names of the volumes that a virtual machine has. -/
def volumes (object : Json) : List String :=
  (Object.itemsAt ["spec", "template", "spec", "volumes"] object).filterMap
    (Object.textAt? ["name"])

/-- The disks after one request: what it plugs comes last, unless it is there already, and what it
unplugs is gone. -/
def afterRequest (disks : List String) (request : Json) : List String :=
  let added :=
    match Object.textAt? ["addVolumeOptions", "name"] request with
    | some name => if disks.contains name then disks else disks ++ [name]
    | none => disks
  match Object.textAt? ["removeVolumeOptions", "name"] request with
  | some name => added.filter (· != name)
  | none => added

/-- The requests that a virtual machine has not yet acted on. -/
def requests (object : Json) : List Json :=
  Object.itemsAt ["status", "volumeRequests"] object

/-- The disks that a virtual machine has or will have. -/
def disks (object : Json) : List String :=
  (requests object).foldl afterRequest (volumes object)

end Machine

/-- The body of a request to plug a disk. -/
def Attachment.toObject (a : Attachment) : Json :=
  .object [("name", .string a.disk),
    ("disk", .object [("name", .string a.disk), ("serial", .string a.serial),
      ("disk", .object [("bus", .string a.bus.name)])]),
    ("volumeSource", .object [("dataVolume", .object [("name", .string a.volume),
      ("hotpluggable", .bool true)])])]

/-- The running virtual machine that an object describes; one that names no namespace is in the
one that was listed. -/
def Instance.ofObject (ns : String) (object : Json) : Instance where
  ns := (Object.ns? object).getD ns
  name := Object.name object
  hardwareId := Object.textAt? ["spec", "domain", "firmware", "uuid"] object

end Hotplug
