import Hotplug.Proofs.Controller.Attachments
import Hotplug.Proofs.Controller.Retry
import Hotplug.Proofs.Node.Conversation

/-!
# The identity of a volume from its creation to the guest

A volume has an id in the cluster of its users, a disk in a virtual machine and a serial that the
guest sees. What ties them together is the context: the answer to the request for a volume carries
it, and the requests to plug the volume and to use it in the guest bring it back. If it is brought
back unchanged, all three are of the same volume.

## Main definitions

* `Issued s σ calls r reply` — the request for a volume was answered by `reply` in a run of calls,
  and the volume was not deleted since.
* `Identifies s σ r reply a` — the attachment is of the volume of that answer.
* `PluggedAsIssued s σ before calls m` — what is plugged into a machine in a run is plugged as it
  was issued.

## Main results

* `identifies_of_addDisk`, `servable_of_issued` — an issued volume is attached as what it is, and
  its context is no reason to refuse it.
* `owned_attachments` — all that is attached to the machine is of issued volumes.
* `eq_of_serial_eq`, `resolves_attached` — the guest finds the device of the attachment.
* `identities_agree` — **the identities of a volume agree.**
-/

namespace Hotplug.Controller

open Cluster (Denotes)
open Node (serialOf Resolves)

variable {s : Settings} {σ : Cluster.State} {calls : List Call} {r : CreateVolume} {reply : Volume}
  {m : String}

/-! ### Contexts -/

/-- A context brings the id of its volume as serial. -/
theorem serialOf_contextOf (bus : Bus) (v : RemoteVolume) : serialOf (contextOf bus v) = v.uid := by
  unfold serialOf
  rw [get?_contextOf_serial]
  rfl

/-- The attachment of a volume with its own context has its id as serial. -/
theorem attachmentOf_contextOf {p : PublishVolume} {bus : Bus} {v : RemoteVolume}
    (h : p.context = contextOf bus v) :
    attachmentOf p v = .ok
      { disk := diskName p.volumeId, volume := p.volumeId, serial := v.uid, bus } := by
  refine attachmentOf_eq_ok_iff.2 ⟨bus, by rw [h, busOf_contextOf], ?_⟩
  have hserial : (nonEmpty? (p.context.get? serialKey)).getD v.uid = v.uid := by
    rw [h, get?_contextOf_serial]
    unfold nonEmpty?
    rw [Option.filter_some]
    split <;> rfl
  rw [hserial]

/-! ### Issued volumes -/

/-- In a run of calls the request for a volume was answered by `reply`, and the volume was not
deleted since. -/
def Issued (s : Settings) (σ : Cluster.State) (calls : List Call) (r : CreateVolume)
    (reply : Volume) : Prop :=
  ∃ before now later, calls = before ++ ⟨now, .createVolume r⟩ :: later ∧
    (serve s ⟨now, .createVolume r⟩ (after s before σ)).1 = .ok { response := .volume reply } ∧
    ∀ c ∈ later, c.request ≠ .deleteVolume r.name

theorem Issued.append (h : Issued s σ calls r reply) {more : List Call}
    (hmore : ∀ c ∈ more, c.request ≠ .deleteVolume r.name) :
    Issued s σ (calls ++ more) r reply := by
  obtain ⟨before, now, later, rfl, hserved, hlater⟩ := h
  refine ⟨before, now, later ++ more, by rw [List.append_assoc, List.cons_append], hserved, ?_⟩
  intro c hc
  rcases List.mem_append.1 hc with hc | hc
  · exact hlater c hc
  · exact hmore c hc

/-- What was issued is there, and the answer tells its name, its bus and its id. -/
theorem Issued.exists_volume (h : Issued s σ calls r reply) :
    ∃ v bus, (after s calls σ).volume? s.ns reply.id = some v ∧ reply.id = r.name ∧ r.name ≠ "" ∧
      v.name = reply.id ∧ busOf busParameter r.parameters = .ok bus ∧
      reply.context = contextOf bus v := by
  obtain ⟨before, now, later, rfl, hserved, hlater⟩ := h
  obtain ⟨p, source, v, hsettled, -, heq⟩ := settled_of_serve hserved
  obtain rfl : reply = volumeReply r p v := by
    injection congrArg Outcome.response heq
  have hfound := (hsettled.after hlater).found
  rw [after_append, after_cons]
  obtain ⟨-, -, hname⟩ := Cluster.State.volume?_eq_some hfound
  obtain ⟨hchecked, -, hbus, -⟩ := plan_eq_ok_iff.1 hsettled.admitted.planned
  refine ⟨v, p.bus, ?_, hname, hchecked.name, rfl, hbus, rfl⟩
  exact (congrArg _ hname).trans hfound

/-- The attachment `a` is of the volume with which the request `r` was answered: it has the disk of
the volume's id, that id, the bus that was asked for, and the volume's own id as serial. -/
structure Identifies (s : Settings) (σ : Cluster.State) (r : CreateVolume) (reply : Volume)
    (a : Attachment) : Prop where
  disk : a.disk = diskName reply.id
  volume : a.volume = reply.id
  bus : busOf busParameter r.parameters = .ok a.bus
  serial : ∃ v, σ.volume? s.ns reply.id = some v ∧ a.serial = v.uid

/-- **An issued volume is attached as what it is.** -/
theorem identifies_of_addDisk (h : Issued s σ calls r reply) {p : PublishVolume} {now : Instant}
    (hid : p.volumeId = reply.id) (hcontext : p.context = reply.context) {vm : InstanceRef}
    {a : Attachment} (ha : .addDisk vm a ∈ asks s ⟨now, .publishVolume p⟩ (after s calls σ)) :
    Identifies s (after s calls σ) r reply a := by
  obtain ⟨v, bus, hfound, -, -, -, hbus, hissued⟩ := h.exists_volume
  obtain ⟨p', v', disks, hp', -, hv', hattached, -, -⟩ := addDisk_cases ha
  obtain rfl := Request.publishVolume.inj hp'
  -- The volume that is looked up is the one that was issued.
  rw [hid, hfound] at hv'
  obtain rfl := Option.some.inj hv'
  rw [attachmentOf_contextOf (hcontext.trans hissued), hid] at hattached
  obtain rfl := Except.ok.inj hattached
  exact ⟨rfl, rfl, hbus, v, hfound, rfl⟩

/-- The context of an issued volume is no reason to refuse to plug it. -/
theorem servable_of_issued (h : Issued s σ calls r reply) {p : PublishVolume}
    (hid : p.volumeId = reply.id) (hcontext : p.context = reply.context)
    (hcapability : p.capability ≠ none) : Servable s (after s calls σ) p := by
  obtain ⟨v, bus, hfound, hname, hne, -, -, hissued⟩ := h.exists_volume
  refine ⟨?_, hcapability, ⟨v, ?_⟩, ⟨bus, ?_⟩⟩
  · rwa [hid, hname]
  · rw [hid, hfound]
  · rw [hcontext, hissued, busOf_contextOf]

/-! ### Runs in which volumes are plugged as they were issued -/

variable {before : List Call} {a : Attachment}

/-- The machine under the node id `m` has no disks after the calls `before`, and in the calls after
that every request to plug a volume into it brings the id and the context of a volume that was
issued until then, and that is not deleted any more. -/
structure PluggedAsIssued (s : Settings) (σ : Cluster.State) (before calls : List Call)
    (m : String) : Prop where
  empty : (after s before σ).disks.get? m = some []
  faithful : ∀ {earlier : List Call} {now : Instant} {p : PublishVolume} {later : List Call}
    {vm : InstanceRef}, calls = earlier ++ ⟨now, .publishVolume p⟩ :: later →
    Denotes σ.instances s.ns p.nodeId vm → vm.toText = m →
    ∃ r reply, Issued s σ (before ++ earlier) r reply ∧ p.volumeId = reply.id ∧
      p.context = reply.context ∧ ∀ c ∈ later, c.request ≠ .deleteVolume r.name

/-- No two attachments have the same disk. -/
theorem PluggedAsIssued.nodup (h : PluggedAsIssued s σ before calls m) :
    ((attachments s m calls (after s before σ) []).map (·.disk)).Nodup := by
  have hnone : (([] : List Attachment).map (·.disk)).Nodup := List.nodup_nil
  exact nodup_after h.empty hnone calls

/-- The attachment is of a volume that was issued in the run. -/
def Owned (s : Settings) (σ : Cluster.State) (calls : List Call) (a : Attachment) : Prop :=
  ∃ r reply, Issued s σ calls r reply ∧ Identifies s (after s calls σ) r reply a

/-- An attachment of an issued volume has the disk and the id of that volume. -/
theorem Owned.exists_volume (h : Owned s σ calls a) :
    ∃ v, (after s calls σ).volume? s.ns a.volume = some v ∧ v.name = a.volume ∧
      a.serial = v.uid ∧ a.disk = diskName a.volume := by
  obtain ⟨r, reply, hissued, hidentifies⟩ := h
  obtain ⟨v, -, hv, -, -, hname, -⟩ := hissued.exists_volume
  obtain ⟨v', hv', hserial⟩ := hidentifies.serial
  rw [hv] at hv'
  obtain rfl := Option.some.inj hv'
  rw [hidentifies.volume]
  exact ⟨v, hv, hname, hserial, hidentifies.disk⟩

theorem Identifies.append (h : Identifies s (after s calls σ) r reply a) (hid : reply.id = r.name)
    {more : List Call} (hmore : ∀ c ∈ more, c.request ≠ .deleteVolume r.name) :
    Identifies s (after s (calls ++ more) σ) r reply a where
  disk := h.disk
  volume := h.volume
  bus := h.bus
  serial := by
    obtain ⟨v, hv, hserial⟩ := h.serial
    rw [hid] at hv ⊢
    exact ⟨v, by rw [after_append]; exact volume?_after hmore hv, hserial⟩

/-- **All that is attached to the machine is of issued volumes.** -/
theorem owned_attachments (h : PluggedAsIssued s σ before calls m)
    (ha : a ∈ attachments s m calls (after s before σ) []) : Owned s σ (before ++ calls) a := by
  revert a
  -- The attachments after each part of the run are of volumes that are issued in the whole of it.
  refine prefix_induction calls
    (P := fun earlier => ∀ {a}, a ∈ attachments s m earlier (after s before σ) [] →
      Owned s σ (before ++ calls) a) (fun ha => absurd ha List.not_mem_nil) ?_
  intro earlier c later hcalls ih a ha
  rw [attachments_append_singleton, ← after_append] at ha
  rcases mem_foldl_asks ha with hold | ⟨vm, hasked, hvm⟩
  · exact ih hold
  · obtain ⟨p, v, disks, hp, hdenotes, -⟩ := addDisk_cases hasked
    rw [instances_after] at hdenotes
    obtain ⟨now, request⟩ := c
    obtain rfl : request = .publishVolume p := hp
    obtain ⟨r, reply, hissued, hid, hcontext, hkept⟩ := h.faithful hcalls hdenotes hvm
    have hidentifies := identifies_of_addDisk hissued hid hcontext hasked
    have hmore : ∀ c ∈ (⟨now, .publishVolume p⟩ : Call) :: later,
        c.request ≠ .deleteVolume r.name := by
      intro c hc
      rcases List.mem_cons.1 hc with rfl | hc
      · nofun
      · exact hkept c hc
    obtain ⟨-, -, -, hname, -⟩ := hissued.exists_volume
    refine ⟨r, reply, ?_, ?_⟩
    · rw [hcalls, ← List.append_assoc]
      exact hissued.append hmore
    · rw [hcalls, ← List.append_assoc]
      exact hidentifies.append hname hmore

/-- A request to plug an issued volume into the machine is served, and the volume is attached until
it is asked to be unplugged. -/
theorem attached_of_publish (h : PluggedAsIssued s σ before calls m) {earlier later : List Call}
    {now : Instant} {p : PublishVolume}
    (hcalls : calls = earlier ++ ⟨now, .publishVolume p⟩ :: later)
    (hissued : Issued s σ (before ++ earlier) r reply) (hid : p.volumeId = reply.id)
    (hcontext : p.context = reply.context) (hcapability : p.capability ≠ none)
    (hvm : ∃ vm, Denotes σ.instances s.ns p.nodeId vm)
    (hm : ∀ vm, Denotes σ.instances s.ns p.nodeId vm → vm.toText = m) :
    (serve s ⟨now, .publishVolume p⟩ (after s (before ++ earlier) σ)).1.isOk = true ∧
      ((∀ c ∈ later, ¬ Unplugs σ.instances s.ns m (diskName reply.id) c.request) →
        ∃ a ∈ attachments s m calls (after s before σ) [], a.volume = reply.id) := by
  have hdisks : (after s earlier (after s before σ)).disks.get? m =
      some ((attachments s m earlier (after s before σ) []).map (·.disk)) :=
    disks_after h.empty earlier
  rw [← after_append] at hdisks
  have hinstances : (after s (before ++ earlier) σ).instances = σ.instances := instances_after
  rw [← hinstances] at hvm hm
  obtain ⟨hok, a, ha, hdisk⟩ := publish_attached hdisks
    (servable_of_issued hissued hid hcontext hcapability) hvm hm now
  refine ⟨hok, fun hlater => ?_⟩
  rw [hid] at hdisk
  have hkept : a ∈ attachments s m calls (after s before σ) [] := by
    rw [hcalls, attachments_append, ← after_append, attachments_cons]
    refine mem_attachments_of_mem ha ?_
    rw [instances_serve, instances_after, hdisk]
    exact hlater
  -- Its disk is that of the volume, so that it is an attachment of the volume.
  obtain ⟨r', reply', -, hidentifies⟩ := owned_attachments h hkept
  have hsame : reply'.id = reply.id :=
    diskName_injective (hidentifies.disk.symm.trans hdisk)
  exact ⟨a, hkept, hidentifies.volume.trans hsame⟩

/-! ### The guest -/

/-- The context of an issued volume brings the id of that volume as serial. -/
theorem serialOf_issued (h : Issued s σ calls r reply) {v : RemoteVolume}
    (hv : (after s calls σ).volume? s.ns reply.id = some v) : serialOf reply.context = v.uid := by
  obtain ⟨v', bus, hv', -, -, -, -, hcontext⟩ := h.exists_volume
  rw [hv] at hv'
  obtain rfl := Option.some.inj hv'
  rw [hcontext, serialOf_contextOf]

/-- If every volume has an id of its own, no two attachments have the same serial, as no two have
the same disk. -/
theorem eq_of_serial_eq (h : PluggedAsIssued s σ before calls m)
    (hdistinct : ((after s (before ++ calls) σ).volumes.map (·.uid)).Nodup) {a' : Attachment}
    (ha' : a' ∈ attachments s m calls (after s before σ) [])
    (ha : a ∈ attachments s m calls (after s before σ) []) (hsame : a'.serial = a.serial) :
    a' = a := by
  obtain ⟨v, hv, hname, hserial, hdisk⟩ := (owned_attachments h ha).exists_volume
  obtain ⟨v', hv', hname', hserial', hdisk'⟩ := (owned_attachments h ha').exists_volume
  obtain ⟨hmem, -, -⟩ := Cluster.State.volume?_eq_some hv
  obtain ⟨hmem', -, -⟩ := Cluster.State.volume?_eq_some hv'
  have huid : v'.uid = v.uid := by rw [← hserial', hsame, hserial]
  have hvolumes : v' = v := List.inj_on_of_nodup_map hdistinct hmem' hmem huid
  refine List.inj_on_of_nodup_map h.nodup ha' ha ?_
  rw [hdisk', hdisk, ← hname', ← hname, hvolumes]

/-- **The guest finds the device of the attachment.** If every volume has an id of its own, and the
guest has a device with the serial of each attachment and other devices only with serials that are
no volume's id, then the context of an attached volume leads to the device of its attachment. -/
theorem resolves_attached (h : PluggedAsIssued s σ before calls m)
    (hnamed : ∀ v ∈ (after s (before ++ calls) σ).volumes, v.uid ≠ "")
    (hdistinct : ((after s (before ++ calls) σ).volumes.map (·.uid)).Nodup)
    {device : Attachment → BlockDevice} {others devices : List BlockDevice}
    (hdevice : ∀ a ∈ attachments s m calls (after s before σ) [], (device a).serial = a.serial)
    (hothers : ∀ d ∈ others, ∀ v ∈ (after s (before ++ calls) σ).volumes, d.serial ≠ v.uid)
    (hall : devices.Perm ((attachments s m calls (after s before σ) []).map device ++ others))
    (ha : a ∈ attachments s m calls (after s before σ) [])
    (hissued : Issued s σ (before ++ calls) r reply) (hid : reply.id = a.volume) :
    Resolves reply.context devices (device a) := by
  obtain ⟨v, hv, -, hserial, -⟩ := (owned_attachments h ha).exists_volume
  obtain ⟨hvmem, -, -⟩ := Cluster.State.volume?_eq_some hv
  have hcontext : serialOf reply.context = v.uid := serialOf_issued hissued (hid.symm ▸ hv)
  have hmine : (attachments s m calls (after s before σ) []).filter
      (fun a' => (device a').serial == v.uid) = [a] := by
    refine List.perm_singleton.1 ((List.perm_ext_iff_of_nodup
      (h.nodup.of_map.filter _) (List.nodup_singleton a)).2 fun a' => ?_)
    rw [List.mem_filter, List.mem_singleton, beq_iff_eq]
    constructor
    · rintro ⟨ha', hsame⟩
      rw [hdevice a' ha', ← hserial] at hsame
      exact eq_of_serial_eq h hdistinct ha' ha hsame
    · rintro rfl
      exact ⟨ha, (hdevice _ ha).trans hserial⟩
  have hforeign : others.filter (fun d => d.serial == v.uid) = [] := by
    refine List.filter_eq_nil_iff.2 fun d hd => ?_
    rw [beq_iff_eq]
    exact hothers d hd v hvmem
  -- So of all devices the one of the attachment alone has the serial that the context brings.
  refine Node.resolves_of_choose (by rw [hcontext]; exact hnamed v hvmem) ?_
  rw [BlockDevice.choose_eq_ok_iff, hcontext]
  refine List.perm_singleton.1 ((hall.filter _).trans ?_)
  rw [List.filter_append, List.filter_map, hforeign, List.append_nil]
  change List.Perm (((attachments s m calls (after s before σ) []).filter
    (fun a' => (device a').serial == v.uid)).map device) _
  rw [hmine, List.map_cons, List.map_nil]

/-- **The identities of a volume agree from its creation to the guest.** In a run in which volumes
are plugged into a machine with the context with which they were issued, no such request fails for
its context: it is served if the machine is found, and the volume is then attached until it is asked
to be unplugged. An attachment has the disk of the volume's id, that id, the bus that was asked for
at the creation, and the volume's own id as serial. So if every volume has an id of its own, and the
guest has a device with the serial of each attachment and other devices only with serials that are
no volume's id, then what is staged or published in the guest with the context of an attached volume
is the device of its attachment. -/
theorem identities_agree (h : PluggedAsIssued s σ before calls m) :
    let final := after s (before ++ calls) σ
    let plugged := attachments s m calls (after s before σ) []
    (∀ earlier now p later r reply, calls = earlier ++ ⟨now, .publishVolume p⟩ :: later →
      Issued s σ (before ++ earlier) r reply → p.volumeId = reply.id →
      p.context = reply.context →
        let then' := after s (before ++ earlier) σ
        (∀ vm a, .addDisk vm a ∈ asks s ⟨now, .publishVolume p⟩ then' →
          Identifies s then' r reply a) ∧
        (p.capability ≠ none → (∃ vm, Denotes σ.instances s.ns p.nodeId vm) →
          (∀ vm, Denotes σ.instances s.ns p.nodeId vm → vm.toText = m) →
          (serve s ⟨now, .publishVolume p⟩ then').1.isOk = true ∧
            ((∀ c ∈ later, ¬ Unplugs σ.instances s.ns m (diskName reply.id) c.request) →
              ∃ a ∈ plugged, a.volume = reply.id))) ∧
    (∀ a ∈ plugged, Owned s σ (before ++ calls) a) ∧
    ((∀ v ∈ final.volumes, v.uid ≠ "") → (final.volumes.map (·.uid)).Nodup →
      ∀ (device : Attachment → BlockDevice) (others devices : List BlockDevice),
        (∀ a ∈ plugged, (device a).serial = a.serial) →
        (∀ d ∈ others, ∀ v ∈ final.volumes, d.serial ≠ v.uid) →
        devices.Perm (plugged.map device ++ others) →
          ∀ a ∈ plugged, ∀ r reply, Issued s σ (before ++ calls) r reply → reply.id = a.volume →
            Resolves reply.context devices (device a)) := by
  intro final plugged
  refine ⟨fun earlier now p later r reply hcalls hissued hid hcontext => ⟨fun vm a ha => ?_, ?_⟩,
    fun a ha => owned_attachments h ha, ?_⟩
  · exact identifies_of_addDisk hissued hid hcontext ha
  · intro hcapability hvm hm
    exact attached_of_publish h hcalls hissued hid hcontext hcapability hvm hm
  · intro hnamed hdistinct device others devices hdevice hothers hall a ha r reply hissued hid
    exact resolves_attached h hnamed hdistinct hdevice hothers hall ha hissued hid

/-- A cluster with one virtual machine, which has no disks. -/
def bareMachine : Cluster.State where
  instances := [⟨"infra", "vm", none⟩]
  disks := Table.ofList [("infra/vm", [])]

/-- A request for a volume on a bus of its own. -/
def newVirtio : CreateVolume where
  name := "a"
  capacity := some { required := 1024 }
  capabilities := [{ access := some .block, mode := some 1 }]
  parameters := Table.ofList [("bus", "virtio")]

/-- The answer to it. -/
def virtioReply : Volume where
  capacity := 1024
  id := "a"
  context := Table.ofList [("bus", "virtio"), ("serial", "uid-1")]
  source := none

/-- The volume is made. -/
def madeVirtio : List Call :=
  [⟨⟨0, 0⟩, .createVolume newVirtio⟩]

/-- It is plugged into the machine. -/
def plugVirtio : PublishVolume where
  volumeId := "a"
  nodeId := "infra/vm"
  capability := some { access := some .block, mode := some 1 }
  context := virtioReply.context

/-- The devices of the guest: its own, and that of the volume. -/
def guestDevices : List BlockDevice :=
  [⟨"root", "/dev/vda", some "xfs"⟩, ⟨"uid-1", "/dev/vdb", none⟩]

theorem identities_agree_virtio :
    PluggedAsIssued { ns := "infra" } bareMachine madeVirtio
        [⟨⟨1, 0⟩, .publishVolume plugVirtio⟩] "infra/vm" ∧
      (serve { ns := "infra" } ⟨⟨1, 0⟩, .publishVolume plugVirtio⟩
        (after { ns := "infra" } madeVirtio bareMachine)).1.isOk = true ∧
      Resolves virtioReply.context guestDevices ⟨"uid-1", "/dev/vdb", none⟩ := by
  have hissued : Issued { ns := "infra" } bareMachine madeVirtio newVirtio virtioReply :=
    ⟨[], ⟨0, 0⟩, [], rfl, rfl, by simp⟩
  have hplugged : PluggedAsIssued { ns := "infra" } bareMachine madeVirtio
      [⟨⟨1, 0⟩, .publishVolume plugVirtio⟩] "infra/vm" := by
    refine ⟨rfl, fun {earlier now p later vm} hcalls _ _ => ?_⟩
    obtain ⟨rfl, hsingle⟩ | ⟨-, hnone⟩ := List.singleton_eq_append_iff.1 hcalls
    · obtain ⟨hcall, rfl⟩ := List.cons.inj hsingle
      cases hcall
      exact ⟨newVirtio, virtioReply, hissued, rfl, rfl, by simp⟩
    · exact absurd hnone (List.cons_ne_nil _ _)
  obtain ⟨hpublish, -, hguest⟩ := identities_agree hplugged
  have hwell : InstanceRef.WellNamed ⟨"infra", "vm"⟩ :=
    ⟨by decide, by decide, by decide, by decide⟩
  have hvm : Denotes bareMachine.instances "infra" plugVirtio.nodeId ⟨"infra", "vm"⟩ := .name hwell
  have hdistinct : Cluster.DistinctHardwareIds bareMachine.instances := by
    intro i hi j hj _ _ _ _ _
    rw [List.mem_singleton.1 hi, List.mem_singleton.1 hj]
  have hdenotes : ∀ vm, Denotes bareMachine.instances "infra" plugVirtio.nodeId vm →
      vm.toText = "infra/vm" := by
    intro vm hvm'
    rw [hvm'.unique hdistinct hvm]
    rfl
  obtain ⟨-, hserved⟩ := hpublish [] ⟨1, 0⟩ plugVirtio [] newVirtio virtioReply rfl
    (hissued.append (by simp)) rfl rfl
  obtain ⟨hok, -⟩ := hserved (by simp [plugVirtio]) ⟨_, hvm⟩ hdenotes
  refine ⟨hplugged, hok, ?_⟩
  exact hguest (by decide) (by decide) (fun a => ⟨a.serial, "/dev/vdb", none⟩)
    [⟨"root", "/dev/vda", some "xfs"⟩] guestDevices (fun _ _ => rfl) (by decide)
    (List.Perm.swap _ _ _) ⟨"disk-a", "a", "uid-1", .virtio⟩ (by decide) newVirtio virtioReply
    (hissued.append (by simp)) rfl

end Hotplug.Controller
