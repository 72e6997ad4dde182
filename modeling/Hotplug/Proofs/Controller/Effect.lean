import Hotplug.Controller.Service
import Hotplug.Proofs.Cluster.Memory

/-!
# What a request to the controller may change

Every request to the controller looks around, and then changes the cluster with one request of its
own kind or leaves it as it is. The change comes last, so that nothing is left behind by a request
that fails, whatever the cluster answers.

## Main definitions

* `Request.Effect s r c` — `c` is a change that `r` may ask for.

## Main results

* `settles_respond` — the program that answers a request is of this shape.
* `respond_changes_last` — **a failed request leaves the cluster untouched.**
-/

namespace Hotplug.Controller

open Cluster (interface Settles ReadsOnly ChangesLast Transactional)

/-- The changes of the cluster that a request may ask for. -/
inductive Request.Effect (s : Settings) : Request → Cluster.Request → Prop where
  /-- To make a volume is to make the one of that name. -/
  | createVolume (r : CreateVolume) (v : NewVolume) (hv : v.name = r.name) :
      Effect s (.createVolume r) (.createVolume s.ns v)
  | deleteVolume (id : String) : Effect s (.deleteVolume id) (.deleteVolume s.ns id)
  /-- To plug a volume is to plug its disk. -/
  | publishVolume (r : PublishVolume) (vm : InstanceRef) (a : Attachment)
      (ha : a.disk = diskName r.volumeId) : Effect s (.publishVolume r) (.addDisk vm a)
  | unpublishVolume (r : UnpublishVolume) (vm : InstanceRef) :
      Effect s (.unpublishVolume r) (.removeDisk vm (diskName r.volumeId))
  /-- To take a snapshot is to take the one of that name and volume. -/
  | createSnapshot (r : CreateSnapshot) (v : NewSnapshot) (hv : v.name = r.name)
      (hsource : v.sourceVolume = r.sourceVolumeId) :
      Effect s (.createSnapshot r) (.createSnapshot s.ns v)
  | deleteSnapshot (id : String) : Effect s (.deleteSnapshot id) (.deleteSnapshot s.ns id)

/-! ### The bodies of the requests -/

theorem readsOnly_checkSource (source : VolumeSource) : ReadsOnly (checkSource source).run := by
  cases source with
  | blank => exact .pure ()
  | snapshot ns name =>
    exact .andThen (.callRead rfl) fun _ => .andReturn (.orFail _ _) fun _ => ()
  | claim ns name =>
    exact .andThen (.callRead rfl) fun _ => .andReturn (.orFail _ _) fun _ => ()

theorem settles_create (s : Settings) (r : CreateVolume) :
    Settles (Request.Effect s (.createVolume r)) (create s r).run := by
  refine .andThen (.ofExcept _) fun p => ?_
  refine .andThen (Cluster.readsOnly_enforceStorageClass _ _) fun _ => ?_
  refine .andThen (.ofExcept _) fun source => .andThen (readsOnly_checkSource source) fun _ => ?_
  have hensure := Cluster.settles_ensureVolume s.ns (wanted s r p source)
  have hmade : Settles (Request.Effect s (.createVolume r))
      (Cluster.ensureVolume s.ns (wanted s r p source)).run := by
    refine hensure.mono fun c hc => ?_
    rw [hc]
    exact .createVolume r _ rfl
  exact hmade.andReturn _

/-- An attachment is of the disk of the volume, with the serial and the bus that the context
brings, or else the id of the volume and the default bus. -/
theorem attachmentOf_eq_ok_iff {r : PublishVolume} {v : RemoteVolume} {a : Attachment} :
    attachmentOf r v = .ok a ↔ ∃ bus, busOf busKey r.context = .ok bus ∧
      a = { disk := diskName r.volumeId, volume := r.volumeId,
            serial := (nonEmpty? (r.context.get? serialKey)).getD v.uid, bus } := by
  unfold attachmentOf
  cases busOf busKey r.context with
  | error e =>
    refine iff_of_false nofun ?_
    rintro ⟨bus, hbus, -⟩
    cases hbus
  | ok bus =>
    constructor
    · intro h
      cases h
      exact ⟨bus, rfl, rfl⟩
    · rintro ⟨bus', hbus, rfl⟩
      cases hbus
      rfl

/-- The disk of an attachment is that of the volume. -/
theorem attachmentOf_disk {r : PublishVolume} {v : RemoteVolume} {a : Attachment}
    (ha : attachmentOf r v = .ok a) : a.disk = diskName r.volumeId := by
  obtain ⟨bus, -, rfl⟩ := attachmentOf_eq_ok_iff.1 ha
  rfl

theorem settles_publish (s : Settings) (r : PublishVolume) :
    Settles (Request.Effect s (.publishVolume r)) (publish s r).run := by
  refine .andThen (.ofExcept _) fun _ => ?_
  refine .andThen (Cluster.readsOnly_resolveInstance _ _) fun vm => ?_
  refine .andThen (.callRead rfl) fun found => .andThen (.orFail _ found) fun v => ?_
  refine .ofExceptThen fun a ha => (Cluster.settles_attach vm a).mono fun c hc => ?_
  rw [hc]
  exact .publishVolume r vm a (attachmentOf_disk ha)

theorem settles_unpublish (s : Settings) (r : UnpublishVolume) :
    Settles (Request.Effect s (.unpublishVolume r)) (unpublish s r).run := by
  unfold unpublish
  split
  · exact .fail _
  · have hfind : ReadsOnly (instance? s r.nodeId).run :=
      .orMissing (.andReturn (Cluster.readsOnly_resolveInstance _ _) some) (.pure none)
    refine .andThen hfind fun found => ?_
    cases found with
    | none => exact .pure false
    | some vm =>
      have hdetach : Settles (Request.Effect s (.unpublishVolume r))
          (Cluster.detach vm (diskName r.volumeId)).run := by
        refine (Cluster.settles_detach vm _).mono fun c hc => ?_
        rw [hc]
        exact .unpublishVolume r vm
      exact hdetach.andReturn fun _ => true

theorem readsOnly_validate (s : Settings) (r : ValidateCapabilities) :
    ReadsOnly (validate s r).run := by
  unfold validate
  split
  · exact .fail _
  · split
    · exact .fail _
    · refine .andThen (.callRead rfl) fun found => .andThen (.orFail _ found) fun _ => ?_
      split
      · exact .pure _
      · exact .pure _

theorem settles_takeSnapshot (s : Settings) (r : CreateSnapshot) :
    Settles (Request.Effect s (.createSnapshot r)) (takeSnapshot s r).run := by
  unfold takeSnapshot
  split
  · exact .fail _
  · split
    · exact .fail _
    · refine .andThen (.callRead rfl) fun found => ?_
      cases found with
      | some existing => exact .ofExcept _
      | none =>
        refine .andThen (Cluster.readsOnly_storageClassForClaim _ _) fun storageClass => ?_
        refine .andThen (Cluster.readsOnly_enforceStorageClass _ _) fun _ => ?_
        refine .andThen (Cluster.readsOnly_chooseSnapshotClass _ _ _) fun binding => ?_
        exact .callChange rfl (.createSnapshot r _ rfl rfl)

theorem readsOnly_respondList (s : Settings) (now : Instant) (r : ListSnapshots) :
    ReadsOnly (respondList s now r).run := by
  have hmatching : ReadsOnly (matching s r).run := by
    unfold matching
    split
    · exact .andReturn (.callRead rfl) _
    · exact .andReturn (.callRead rfl) _
  unfold respondList
  split
  · exact .refuse _
  · refine .andThen (.of hmatching) fun all => ?_
    split
    · exact .refuse _
    · exact .pure _

/-! ### The requests -/

/-- **The program that answers a request reads, and then asks for at most one change**, one of the
request's own kind. -/
theorem settles_respond (s : Settings) (now : Instant) (r : Request) :
    Settles (r.Effect s) (respond s now r).run := by
  cases r with
  | createVolume r => exact (Settles.of (settles_create s r)).andReturn _
  | deleteVolume id =>
    rw [respond]
    split
    · exact .refuse _
    · have hremove : Settles (Request.Effect s (.deleteVolume id))
          (Cluster.removeVolume s.ns id).run := by
        refine (Cluster.settles_removeVolume s.ns id).mono fun c hc => ?_
        rw [hc]
        exact .deleteVolume id
      exact (Settles.of hremove).andReturn _
  | publishVolume r => exact (Settles.of (settles_publish s r)).andReturn _
  | unpublishVolume r => exact (Settles.of (settles_unpublish s r)).andReturn _
  | validateCapabilities r =>
    exact .andThen (.of (readsOnly_validate s r)) fun _ => .pure _
  | createSnapshot r => exact (Settles.of (settles_takeSnapshot s r)).andReturn _
  | deleteSnapshot id =>
    rw [respond]
    split
    · exact .refuse _
    · have hdelete : Settles (Request.Effect s (.deleteSnapshot id))
          (Cluster.deleteSnapshot s.ns id).run := .callChange rfl (.deleteSnapshot id)
      exact (Settles.of hdelete).andReturn _
  | listSnapshots r => exact (readsOnly_respondList s now r).mono fun _ h => h.elim
  | getCapabilities => exact .pure _
  | unserved name => exact .refuse _

/-- **A failed request leaves the cluster untouched.** Whatever the cluster answers, a request to
the controller asks for at most one change, asks nothing after it, and succeeds exactly when the
change does. So on a cluster that only changes move, and these only when they succeed, a request
that is answered a failure leaves everything exactly as it was. -/
theorem respond_changes_last (s : Settings) (now : Instant) (r : Request) :
    (∀ t a, Conversation (respond s now r).run t a → ChangesLast t a) ∧
      ∀ {σ : Type} (h : Handler interface σ), Transactional h → ∀ c e,
        (runOn h (respond s now r) c).1 = .error e → (runOn h (respond s now r) c).2 = c :=
  ⟨fun _ _ ht => ((settles_respond s now r).changesLast ht).1,
    fun _ hh _ _ he => (settles_respond s now r).eq_of_error hh he⟩

/-- A virtual machine. -/
def machine : InstanceRef := ⟨"infra", "vm-1"⟩

/-- A request to unplug a volume from it. -/
def unplug : Request := .unpublishVolume { volumeId := "a", nodeId := "infra/vm-1" }

/-- A request to plug a volume into it. -/
def plug : Request :=
  .publishVolume { volumeId := "a", nodeId := "infra/vm-1", capability := some {} }

/-- How unplugging fails: the disk is there, but the machine does not let go of it. -/
def stuckDisk : List (Exchange interface) :=
  [⟨.listDisks machine, .ok [diskName "a"]⟩,
    ⟨.removeDisk machine (diskName "a"), .error (.internal "busy")⟩]

/-- Where a disk can not be unplugged nothing more is asked, and where there is no volume to plug
nothing is changed. -/
theorem respond_changes_last_unplug :
    Conversation (respond {} ⟨0, 0⟩ unplug).run stuckDisk
        (.error (DriverError.internal "busy").status) ∧
      ChangesLast stuckDisk (.error (DriverError.internal "busy").status :
        Except Status (Outcome Response)) ∧
      Transactional Cluster.step ∧
      (runOn Cluster.step (respond {} ⟨0, 0⟩ plug) {}).1 =
        .error ⟨.notFound, "DataVolume a not found"⟩ ∧
      (runOn Cluster.step (respond {} ⟨0, 0⟩ plug) {}).2 = {} := by
  have hconv : Conversation (respond {} ⟨0, 0⟩ unplug).run stuckDisk
      (.error (DriverError.internal "busy").status) := .ask _ (.ask _ (.done _))
  have hfailed : (runOn Cluster.step (respond {} ⟨0, 0⟩ plug) {}).1 =
      .error ⟨.notFound, "DataVolume a not found"⟩ := rfl
  refine ⟨hconv, ?_, Cluster.transactional_step, hfailed, ?_⟩
  · exact (respond_changes_last {} ⟨0, 0⟩ unplug).1 _ _ hconv
  · exact (respond_changes_last {} ⟨0, 0⟩ plug).2 Cluster.step Cluster.transactional_step {} _
      hfailed

end Hotplug.Controller
