import Hotplug.Controller.Volumes
import Hotplug.Labels

/-!
# Snapshots: taking and listing

## Main definitions

* `Controller.takeSnapshot` — the body of the request to take a snapshot.
* `Controller.matching` — the snapshots a listing asks for, in order of their names.
* `Controller.paginate` — a page of a list and the token of the next.
-/

namespace Hotplug.Controller

open Cluster (interface)

/-- The parameter that names the snapshot class. -/
def snapshotClassParameter : String := "infraSnapshotClassName"

/-- A snapshot as the orchestrator sees it. One whose time is not recorded is taken now. -/
def snapshotReply (now : Instant) (s : RemoteSnapshot) : Snapshot :=
  { size := s.size.getD 0, id := s.name, sourceVolumeId := s.sourceVolume,
    created := s.created.getD now, ready := s.ready }

/-- An existing snapshot answers a request for its name only if it is of the same volume. -/
def reuseSnapshot (r : CreateSnapshot) (existing : RemoteSnapshot) :
    Except DriverError RemoteSnapshot :=
  if existing.sourceVolume = r.sourceVolumeId then .ok existing
  else .error (.alreadyExists "VolumeSnapshot" r.name
    ("it was taken from volume " ++ existing.sourceVolume))

/-- Takes a snapshot that does not exist yet. -/
def newSnapshot (s : Settings) (r : CreateSnapshot) : Attempt interface RemoteSnapshot := do
  let storageClass ← Cluster.storageClassForClaim s.ns r.sourceVolumeId
  Cluster.enforceStorageClass s.policy storageClass
  let requested := (r.parameters.get? snapshotClassParameter).getD ""
  let binding ← Cluster.chooseSnapshotClass s.policy storageClass requested
  Cluster.createSnapshot s.ns
    { name := r.name, sourceVolume := r.sourceVolumeId, snapshotClass := binding.snapshotClass,
      labels := s.labels }

/-- Takes a snapshot, or finds the one taken before. -/
def takeSnapshot (s : Settings) (r : CreateSnapshot) : Attempt interface RemoteSnapshot := do
  if r.name.isEmpty then
    Attempt.fail (.invalidArgument "snapshot name is required")
  else if r.sourceVolumeId.isEmpty then
    Attempt.fail (.invalidArgument "source volume id is required")
  else
    match ← Cluster.getSnapshot s.ns r.name with
    | some existing => Attempt.ofExcept (reuseSnapshot r existing)
    | none => newSnapshot s r

/-- Whether a snapshot is of the volume that a listing asks for, if it asks for one. -/
def isOfSource (r : ListSnapshots) (s : RemoteSnapshot) : Bool :=
  r.sourceVolumeId.isEmpty || s.sourceVolume == r.sourceVolumeId

/-- The snapshots that a listing asks for: the one of an id, or else those with the controller's
labels in ascending order of their names. -/
def matching (s : Settings) (r : ListSnapshots) : Attempt interface (List RemoteSnapshot) := do
  if !r.snapshotId.isEmpty then
    return (← Cluster.getSnapshot s.ns r.snapshotId).toList.filter (isOfSource r)
  else
    let all ← Cluster.listSnapshots s.ns (Labels.selector s.labels)
    return (all.filter (isOfSource r)).mergeSort fun a b => decide (a.name ≤ b.name)

/-- The offset that a token names: none for the empty one, and never past the end. -/
def offset? (length : Nat) (token : String) : Option Nat :=
  if token.isEmpty then some 0
  else (Digits.readPlusNat? token.toList).filter (· ≤ length)

/-- The page of a list that starts at an offset, and the token of the next page, empty where this
is the last. A positive `maxEntries` bounds the page. -/
def pageFrom {α : Type} (items : List α) (maxEntries : Int) (start : Nat) : List α × String :=
  let rest := items.drop start
  let page := if 0 < maxEntries then rest.take maxEntries.toNat else rest
  let stop := start + page.length
  (page, if stop < items.length then Digits.text stop else "")

/-- The page of a list that a token names. -/
def paginate {α : Type} (items : List α) (maxEntries : Int) (token : String) :
    Except Status (List α × String) :=
  match offset? items.length token with
  | none => .error ⟨.aborted, "invalid starting token " ++ token⟩
  | some start => .ok (pageFrom items maxEntries start)

end Hotplug.Controller
