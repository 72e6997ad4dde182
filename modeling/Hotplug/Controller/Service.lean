import Hotplug.Answering
import Hotplug.Controller.Snapshots

/-!
# The controller service

## Main definitions

* `Controller.respond` — the program that answers a request.
-/

namespace Hotplug

namespace Controller

open Cluster (interface)

/-- What the controller can do: make and delete volumes, plug and unplug them, take and delete
snapshots, list snapshots, and copy volumes. -/
def capabilityTypes : List Nat := [1, 2, 5, 6, 7]

/-- Answers a listing: a page of the matching snapshots. -/
def respondList (s : Settings) (now : Instant) (r : ListSnapshots) :
    Answering interface (Outcome Response) := do
  if r.maxEntries < 0 then
    Answering.refuse ⟨.invalidArgument,
      "max entries must not be negative, got " ++ Digits.text r.maxEntries⟩
  else
    match paginate (← Answering.of (matching s r)) r.maxEntries r.startingToken with
    | .error status => Answering.refuse status
    | .ok (page, token) =>
      return { response := .snapshots (page.map (snapshotReply now)) token }

/-- The program that answers a request. -/
def respond (s : Settings) (now : Instant) : Request → Answering interface (Outcome Response)
  | .createVolume r => do
    return { response := .volume (← Answering.of (create s r)) }
  | .deleteVolume id => do
    if id.isEmpty then Answering.refuse ⟨.invalidArgument, "volume id is required"⟩
    else
      Answering.of (Cluster.removeVolume s.ns id)
      return { response := .deleted }
  | .publishVolume r => do
    Answering.of (publish s r)
    return { response := .published, events := [.attached] }
  | .unpublishVolume r => do
    let found ← Answering.of (unpublish s r)
    return { response := .unpublished, events := if found then [.detached] else [] }
  | .validateCapabilities r => do
    let (message, confirmed) ← Answering.of (validate s r)
    return { response := .validated message confirmed }
  | .createSnapshot r => do
    return { response := .snapshot (snapshotReply now (← Answering.of (takeSnapshot s r))) }
  | .deleteSnapshot id => do
    if id.isEmpty then Answering.refuse ⟨.invalidArgument, "snapshot id is required"⟩
    else
      let _ ← Answering.of (Cluster.deleteSnapshot s.ns id)
      return { response := .deleted }
  | .listSnapshots r => respondList s now r
  | .getCapabilities => return { response := .capabilities capabilityTypes }
  | .unserved name => Answering.refuse (DriverError.unimplemented name).status

end Controller

end Hotplug
