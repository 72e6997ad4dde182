import Hotplug.Cluster.Resolve
import Hotplug.Controller.Message

/-!
# Volumes: making, plugging, validating

## Main definitions

* `Controller.Settings` — where and how the controller manages the cluster's objects.
* `Controller.create`, `Controller.publish`, `Controller.unpublish`, `Controller.validate` — the
  bodies of the requests about volumes.
-/

namespace Hotplug.Controller

open Cluster (interface)

/-- Where and how the controller manages the cluster's objects. -/
structure Settings where
  /-- The namespace of the volumes and snapshots. -/
  ns : String := ""
  /-- The labels put on every object that is made. -/
  labels : Table String := .empty
  policy : Policy := Policy.permissive
  deriving DecidableEq, Repr, Inhabited

/-- The parameter that names the storage class. -/
def storageClassParameter : String := "infraStorageClassName"

/-- The parameter that names the bus. -/
def busParameter : String := "bus"

/-- The size a volume is to have: the required one, or the limit where none is required. -/
def wantedSize (capacity : Option CapacityRange) : Int :=
  match capacity with
  | none => 0
  | some r => if 0 < r.required then r.required else r.limit

/-- The bus under a key of a table; the default where it is absent or empty. -/
def busOf (key : String) (t : Table String) : Except DriverError Bus :=
  match nonEmpty? (t.get? key) with
  | some text => Bus.parse text
  | none => .ok .scsi

/-- The source of a new volume, in the controller's namespace. -/
def sourceOf (s : Settings) (source : Option ContentSource) : Except DriverError VolumeSource :=
  let nameless : Except DriverError VolumeSource :=
    .error (.invalidArgument "volume content source must name a snapshot or a volume")
  match source.bind (·.origin) with
  | none => .ok .blank
  | some (.snapshot id) => if id.isEmpty then nameless else .ok (.snapshot s.ns id)
  | some (.volume id) => if id.isEmpty then nameless else .ok (.claim s.ns id)

/-- Fails where the source of a new volume does not exist. -/
def checkSource : VolumeSource → Attempt interface Unit
  | .blank => return ()
  | .snapshot ns name => do
    let _ ← Attempt.orFail (.notFound "VolumeSnapshot" name) (← Cluster.getSnapshot ns name)
  | .claim ns name => do
    let _ ← Attempt.orFail (.notFound "DataVolume" name) (← Cluster.getVolume ns name)

/-- What is settled about a volume before the cluster is asked anything. -/
structure Plan where
  size : Int
  bus : Bus
  /-- Empty for the cluster's default. -/
  storageClass : String
  deriving DecidableEq, Repr, Inhabited

/-- Checks the arguments of a request to make a volume. -/
def plan (r : CreateVolume) : Except DriverError Plan := do
  if r.name.isEmpty then throw (.invalidArgument "volume name is required")
  match Capability.unsupported? r.capabilities with
  | some reason => throw (.invalidArgument reason)
  | none => pure ()
  let size := wantedSize r.capacity
  if size ≤ 0 then
    throw (.invalidArgument ("volume " ++ r.name ++ " needs a positive capacity"))
  let bus ← busOf busParameter r.parameters
  return { size, bus, storageClass := (r.parameters.get? storageClassParameter).getD "" }

/-- The volume that a request asks for. -/
def wanted (s : Settings) (r : CreateVolume) (p : Plan) (source : VolumeSource) : NewVolume :=
  { name := r.name, size := p.size, storageClass := nonEmpty? (some p.storageClass),
    labels := s.labels, source }

/-- What a volume's later requests bring back: its bus, and its id as serial. -/
def contextOf (bus : Bus) (v : RemoteVolume) : Table String :=
  Table.ofList [(busKey, bus.name), (serialKey, v.uid)]

/-- Makes a volume, or finds the one made before. The policy comes first: a request it refuses
touches nothing. -/
def create (s : Settings) (r : CreateVolume) : Attempt interface Volume := do
  let p ← Attempt.ofExcept (plan r)
  Cluster.enforceStorageClass s.policy p.storageClass
  let source ← Attempt.ofExcept (sourceOf s r.source)
  checkSource source
  let v ← Cluster.ensureVolume s.ns (wanted s r p source)
  return { capacity := p.size, id := v.name, context := contextOf p.bus v, source := r.source }

/-- Checks the arguments of a request to plug a volume. -/
def checkPublish (r : PublishVolume) : Except DriverError Unit :=
  if r.volumeId.isEmpty then .error (.invalidArgument "volume id is required")
  else if r.capability.isNone then .error (.invalidArgument "volume capability is required")
  else .ok ()

/-- How a volume is plugged: as the disk of its name, with the serial and the bus that its context
brings, or else with its id and on the default bus. -/
def attachmentOf (r : PublishVolume) (v : RemoteVolume) : Except DriverError Attachment := do
  let bus ← busOf busKey r.context
  return {
    disk := diskName r.volumeId, volume := r.volumeId,
    serial := (nonEmpty? (r.context.get? serialKey)).getD v.uid, bus }

/-- Plugs a volume into the virtual machine of a node. -/
def publish (s : Settings) (r : PublishVolume) : Attempt interface Unit := do
  Attempt.ofExcept (checkPublish r)
  let vm ← Cluster.resolveInstance s.ns r.nodeId
  let v ← Attempt.orFail (.notFound "DataVolume" r.volumeId) (← Cluster.getVolume s.ns r.volumeId)
  let attachment ← Attempt.ofExcept (attachmentOf r v)
  Cluster.attach vm attachment

/-- The virtual machine of a node, if there is one. -/
def instance? (s : Settings) (nodeId : String) : Attempt interface (Option InstanceRef) :=
  (do return some (← Cluster.resolveInstance s.ns nodeId)).orMissing (return none)

/-- Unplugs a volume from the virtual machine of a node; says whether there is such a machine. From
a machine that does not exist nothing has to be unplugged. -/
def unpublish (s : Settings) (r : UnpublishVolume) : Attempt interface Bool := do
  if r.volumeId.isEmpty then
    Attempt.fail (.invalidArgument "volume id is required")
  else
    match ← instance? s r.nodeId with
    | none => return false
    | some vm =>
      Cluster.detach vm (diskName r.volumeId)
      return true

/-- Says whether a volume can be used in some ways, and if not, why. -/
def validate (s : Settings) (r : ValidateCapabilities) :
    Attempt interface (String × Option Confirmation) := do
  if r.volumeId.isEmpty then
    Attempt.fail (.invalidArgument "volume id is required")
  else if r.capabilities.isEmpty then
    Attempt.fail (.invalidArgument "volume capabilities are required")
  else
    let _ ← Attempt.orFail (.notFound "DataVolume" r.volumeId) (← Cluster.getVolume s.ns r.volumeId)
    match Capability.unsupported? r.capabilities with
    | some reason => return (reason, none)
    | none =>
      return ("", some
        { context := r.context, capabilities := r.capabilities, parameters := r.parameters,
          mutableParameters := r.mutableParameters })

end Hotplug.Controller
