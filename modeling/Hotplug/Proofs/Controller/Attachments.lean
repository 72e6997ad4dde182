import Hotplug.Proofs.Controller.Plugging
import Mathlib.Data.List.Nodup

/-!
# The attachments of a virtual machine

The cluster remembers the names of the disks of a virtual machine, and no more. Which volume each
of them is, with which serial and on which bus, is what the cluster was told when it was asked to
add the disk.

## Main definitions

* `replug m attached r` — the attachments of the machine `m` after a request to the cluster.
* `attachments s m calls σ attached` — its attachments after a run of calls.
* `Unplugs instances ns m disk r` — the requests to take a disk away from a machine.

## Main results

* `disks_after`, `nodup_after` — the disks of a machine are those of its attachments.
* `addDisk_cases`, `removeDisk_cases` — where an attachment comes from, and what takes it away.
* `publish_attached`, `mem_attachments_of_mem` — when a volume is attached, and how long.
-/

namespace Hotplug.Controller

open Cluster (Denotes courseOn leavesReads_step)

variable {s : Settings} {σ : Cluster.State} {m : String} {attached : List Attachment}

/-! ### One request to the cluster -/

/-- The attachments of the machine under a node id, after a request to the cluster. -/
def replug (m : String) (attached : List Attachment) : Cluster.Request → List Attachment
  | .addDisk vm a => if vm.toText = m then attached ++ [a] else attached
  | .removeDisk vm disk =>
    if vm.toText = m then attached.filter (·.disk != disk) else attached
  | _ => attached

theorem replug_of_read {r : Cluster.Request} (hr : r.isMutation = false) :
    replug m attached r = attached := by
  cases r with
  | addDisk | removeDisk => cases hr
  | _ => rfl

theorem mem_replug {r : Cluster.Request} {a : Attachment} (ha : a ∈ replug m attached r) :
    a ∈ attached ∨ ∃ vm, r = .addDisk vm a ∧ vm.toText = m := by
  cases r with
  | addDisk vm a' =>
    rw [replug] at ha
    split at ha
    · next hvm =>
      rcases List.mem_append.1 ha with hold | hnew
      · exact .inl hold
      · obtain rfl := List.mem_singleton.1 hnew
        exact .inr ⟨vm, rfl, hvm⟩
    · exact .inl ha
  | removeDisk vm disk =>
    rw [replug] at ha
    split at ha
    · exact .inl (List.mem_filter.1 ha).1
    · exact .inl ha
  | _ => exact .inl ha

/-- An attachment stays until its disk is removed. -/
theorem mem_replug_of_mem {r : Cluster.Request} {a : Attachment} (ha : a ∈ attached)
    (hr : ∀ vm, r = .removeDisk vm a.disk → vm.toText ≠ m) : a ∈ replug m attached r := by
  cases r with
  | addDisk vm a' =>
    rw [replug]
    split
    · exact List.mem_append_left _ ha
    · exact ha
  | removeDisk vm disk =>
    rw [replug]
    split
    · next hvm =>
      refine List.mem_filter.2 ⟨ha, ?_⟩
      rw [bne_iff_ne]
      rintro rfl
      exact hr vm rfl hvm
    · exact ha
  | _ => exact ha

/-- The cluster has the disks of the attachments. -/
theorem disks_step (h : σ.disks.get? m = some (attached.map (·.disk))) (r : Cluster.Request) :
    (Cluster.step r σ).2.disks.get? m = some ((replug m attached r).map (·.disk)) := by
  cases r with
  | addDisk vm a =>
    rw [Cluster.step, replug]
    by_cases hvm : vm.toText = m
    · subst hvm
      simp only [h, if_true, Table.get?_modify, Option.map_some, List.map_append, List.map_cons,
        List.map_nil]
    · rw [if_neg hvm]
      split
      · exact h
      · rw [Table.get?_modify, h]
        simp [Ne.symm hvm]
  | removeDisk vm disk =>
    rw [Cluster.step, replug]
    by_cases hvm : vm.toText = m
    · subst hvm
      simp only [h, if_true, Table.get?_modify, Option.map_some, List.filter_map]
      rfl
    · rw [if_neg hvm]
      split
      · exact h
      · rw [Table.get?_modify, h]
        simp [Ne.symm hvm]
  | listDisks vm =>
    rw [Cluster.step]
    split <;> exact h
  | _ => exact h

/-! ### One call -/

/-- A call asks for no change, or for one change of its own kind, and makes it. -/
theorem changes_cases (s : Settings) (c : Call) (σ : Cluster.State) :
    ((serve s c σ).2 = σ ∧ (asks s c σ).filter (·.isMutation) = []) ∨
      ∃ r, c.request.Effect s r ∧ (serve s c σ).2 = (Cluster.step r σ).2 ∧
        (asks s c σ).filter (·.isMutation) = [r] := by
  have hcases := Cluster.courseOn_cases leavesReads_step (settles_respond s c.now c.request) σ
  rcases hcases with ⟨x, hcourse⟩ | ⟨r, x, -, hr, hcourse⟩
  · exact .inl ⟨congrArg (·.1.2) hcourse, congrArg (·.2) hcourse⟩
  · exact .inr ⟨r, hr, congrArg (·.1.2) hcourse, congrArg (·.2) hcourse⟩

/-- A change that a call asks for is one of its own kind. -/
theorem effect_of_asks {c : Call} {r : Cluster.Request} (h : r ∈ asks s c σ)
    (hr : r.isMutation = true) : c.request.Effect s r := by
  have hmem : r ∈ (asks s c σ).filter (·.isMutation) := List.mem_filter.2 ⟨h, hr⟩
  rcases changes_cases s c σ with ⟨-, hchanges⟩ | ⟨r', hr', -, hchanges⟩
  · rw [hchanges] at hmem
    exact absurd hmem List.not_mem_nil
  · rw [hchanges] at hmem
    rwa [List.mem_singleton.1 hmem]

/-- What a call reads does not count. -/
theorem foldl_replug_asks (s : Settings) (c : Call) (σ : Cluster.State) :
    (asks s c σ).foldl (replug m) attached =
      ((asks s c σ).filter (·.isMutation)).foldl (replug m) attached := by
  rw [List.foldl_filter]
  congr 1
  funext attached r
  cases hr : r.isMutation with
  | true => rfl
  | false => exact replug_of_read hr

/-- A call leaves the attachments of a machine as they are, or asks for one change of them. -/
theorem foldl_asks_cases (s : Settings) (c : Call) (σ : Cluster.State) (m : String)
    (attached : List Attachment) :
    ((serve s c σ).2 = σ ∧ (asks s c σ).foldl (replug m) attached = attached) ∨
      ∃ r ∈ asks s c σ, (serve s c σ).2 = (Cluster.step r σ).2 ∧
        (asks s c σ).foldl (replug m) attached = replug m attached r := by
  rw [foldl_replug_asks]
  rcases changes_cases s c σ with ⟨hstate, hchanges⟩ | ⟨r, -, hstate, hchanges⟩
  · rw [hchanges]
    exact .inl ⟨hstate, rfl⟩
  · have hmem : r ∈ (asks s c σ).filter (·.isMutation) := by
      rw [hchanges]
      exact List.mem_singleton_self r
    rw [hchanges]
    exact .inr ⟨r, (List.mem_filter.1 hmem).1, hstate, rfl⟩

theorem disks_serve (h : σ.disks.get? m = some (attached.map (·.disk))) (c : Call) :
    (serve s c σ).2.disks.get? m =
      some (((asks s c σ).foldl (replug m) attached).map (·.disk)) := by
  rcases foldl_asks_cases s c σ m attached with ⟨hstate, hsame⟩ | ⟨r, -, hstate, hchanged⟩
  · rw [hstate, hsame]
    exact h
  · rw [hstate, hchanged]
    exact disks_step h r

/-- **A disk is added for a request to plug a volume**, as the attachment of that volume, to a
machine that its node id leads to and that has no such disk. -/
theorem addDisk_cases {c : Call} {vm : InstanceRef} {a : Attachment}
    (h : .addDisk vm a ∈ asks s c σ) :
    ∃ p v disks, c.request = .publishVolume p ∧ Denotes σ.instances s.ns p.nodeId vm ∧
      σ.volume? s.ns p.volumeId = some v ∧ attachmentOf p v = .ok a ∧
      σ.disks.get? vm.toText = some disks ∧ a.disk ∉ disks := by
  have hmem : .addDisk vm a ∈ (asks s c σ).filter (·.isMutation) := List.mem_filter.2 ⟨h, rfl⟩
  obtain ⟨now, request⟩ := c
  have hpublish : ∃ p, request = .publishVolume p := by
    cases effect_of_asks h rfl with
    | publishVolume p => exact ⟨p, rfl⟩
  obtain ⟨p, rfl⟩ := hpublish
  obtain ⟨-, -, hchanges⟩ := course_publishVolume s p now σ
  rw [hchanges] at hmem
  -- A disk is asked for only where the request gets to its machine and the disk is absent there.
  rcases publish_cases s σ p with ⟨-, e, hcourse⟩ | ⟨vm', v, a', -, hvm, hv, ha, hcourse⟩
  · rw [hcourse] at hmem
    exact absurd hmem List.not_mem_nil
  · rw [hcourse] at hmem
    cases hdisks : σ.disks.get? vm'.toText with
    | none =>
      rw [Cluster.attach_of_none hdisks] at hmem
      exact absurd hmem List.not_mem_nil
    | some disks =>
      by_cases hthere : a'.disk ∈ disks
      · rw [Cluster.attach_of_mem hdisks hthere] at hmem
        exact absurd hmem List.not_mem_nil
      · rw [Cluster.attach_of_not_mem hdisks hthere] at hmem
        obtain ⟨rfl, rfl⟩ := Cluster.Request.addDisk.inj (List.mem_singleton.1 hmem)
        exact ⟨p, v, disks, rfl, hvm, hv, ha, hdisks, hthere⟩

/-- **A disk is removed for a request to unplug its volume**, from a machine that the node id leads
to. -/
theorem removeDisk_cases {c : Call} {vm : InstanceRef} {disk : String}
    (h : .removeDisk vm disk ∈ asks s c σ) :
    ∃ u, c.request = .unpublishVolume u ∧ Denotes σ.instances s.ns u.nodeId vm ∧
      disk = diskName u.volumeId := by
  have hmem : .removeDisk vm disk ∈ (asks s c σ).filter (·.isMutation) :=
    List.mem_filter.2 ⟨h, rfl⟩
  obtain ⟨now, request⟩ := c
  have hunpublish : ∃ u, request = .unpublishVolume u := by
    cases effect_of_asks h rfl with
    | unpublishVolume u => exact ⟨u, rfl⟩
  obtain ⟨u, rfl⟩ := hunpublish
  obtain ⟨-, -, hchanges⟩ := course_unpublishVolume s u now σ
  rw [hchanges] at hmem
  rcases unpublish_cases s σ u with ⟨-, e, hcourse⟩ | ⟨-, -, -, hcourse⟩ | ⟨vm', -, hvm, hcourse⟩
  · rw [hcourse] at hmem
    exact absurd hmem List.not_mem_nil
  · rw [hcourse] at hmem
    exact absurd hmem List.not_mem_nil
  · rw [hcourse, Cluster.courseOn_andReturn] at hmem
    have hsettles := Cluster.settles_detach vm' (diskName u.volumeId)
    rcases Cluster.courseOn_cases leavesReads_step hsettles σ with
      ⟨x, hdetach⟩ | ⟨r, x, -, rfl, hdetach⟩
    · rw [hdetach] at hmem
      exact absurd hmem List.not_mem_nil
    · rw [hdetach] at hmem
      obtain ⟨rfl, rfl⟩ := Cluster.Request.removeDisk.inj (List.mem_singleton.1 hmem)
      exact ⟨u, rfl, hvm, rfl⟩

/-- An attachment that is new after a call was asked for by it. -/
theorem mem_foldl_asks {c : Call} {a : Attachment}
    (ha : a ∈ (asks s c σ).foldl (replug m) attached) :
    a ∈ attached ∨ ∃ vm, .addDisk vm a ∈ asks s c σ ∧ vm.toText = m := by
  rcases foldl_asks_cases s c σ m attached with ⟨-, hsame⟩ | ⟨r, hr, -, hchanged⟩
  · rw [hsame] at ha
    exact .inl ha
  · rw [hchanged] at ha
    refine (mem_replug ha).imp_right ?_
    rintro ⟨vm, rfl, hvm⟩
    exact ⟨vm, hr, hvm⟩

/-- An attachment stays through a call that does not ask for its disk to be removed. -/
theorem mem_foldl_asks_of_mem {c : Call} {a : Attachment} (ha : a ∈ attached)
    (hc : ∀ vm, .removeDisk vm a.disk ∈ asks s c σ → vm.toText ≠ m) :
    a ∈ (asks s c σ).foldl (replug m) attached := by
  rcases foldl_asks_cases s c σ m attached with ⟨-, hsame⟩ | ⟨r, hr, -, hchanged⟩
  · rwa [hsame]
  · rw [hchanged]
    refine mem_replug_of_mem ha ?_
    rintro vm rfl
    exact hc vm hr

/-- A call adds no disk that is there. -/
theorem nodup_serve (h : σ.disks.get? m = some (attached.map (·.disk)))
    (hnodup : (attached.map (·.disk)).Nodup) (c : Call) :
    (((asks s c σ).foldl (replug m) attached).map (·.disk)).Nodup := by
  rcases foldl_asks_cases s c σ m attached with ⟨-, hsame⟩ | ⟨r, hr, -, hchanged⟩
  · rwa [hsame]
  · rw [hchanged]
    cases r with
    | addDisk vm a =>
      rw [replug]
      split
      · next hvm =>
        -- The disk was looked for before it was added.
        obtain ⟨-, -, disks, -, -, -, -, hdisks, hnew⟩ := addDisk_cases hr
        rw [hvm, h] at hdisks
        obtain rfl := Option.some.inj hdisks
        rw [List.map_append]
        refine List.Nodup.append hnodup (List.nodup_singleton _) ?_
        exact List.disjoint_singleton.2 hnew
      · exact hnodup
    | removeDisk vm disk =>
      rw [replug]
      split
      · exact hnodup.sublist (List.filter_sublist.map _)
      · exact hnodup
    | _ => exact hnodup

/-- Where nothing else is in the way and the node id leads to the machine, a volume is attached
after the request to plug it. -/
theorem publish_attached (h : σ.disks.get? m = some (attached.map (·.disk))) {p : PublishVolume}
    (hp : Servable s σ p) (hvm : ∃ vm, Denotes σ.instances s.ns p.nodeId vm)
    (hm : ∀ vm, Denotes σ.instances s.ns p.nodeId vm → vm.toText = m) (now : Instant) :
    (serve s ⟨now, .publishVolume p⟩ σ).1.isOk = true ∧
      ∃ a ∈ (asks s ⟨now, .publishVolume p⟩ σ).foldl (replug m) attached,
        a.disk = diskName p.volumeId := by
  obtain ⟨hok, -, hchanges⟩ := course_publishVolume s p now σ
  rw [hok, foldl_replug_asks, hchanges]
  change (courseOn Cluster.step (publish s p) σ).1.1.isOk = true ∧ _
  rcases publish_cases s σ p with ⟨hno, -⟩ | ⟨vm, v, a, -, hdenotes, -, ha, hcourse⟩
  · exact absurd ⟨hp, hvm⟩ hno
  · have hdisk := attachmentOf_disk ha
    obtain rfl := hm vm hdenotes
    rw [hcourse]
    by_cases hthere : a.disk ∈ attached.map (·.disk)
    · rw [Cluster.attach_of_mem h hthere]
      obtain ⟨a', ha', hsame⟩ := List.mem_map.1 hthere
      exact ⟨rfl, a', ha', hsame.trans hdisk⟩
    · rw [Cluster.attach_of_not_mem h hthere]
      refine ⟨rfl, a, ?_, hdisk⟩
      simp [replug]

/-! ### Runs of calls -/

/-- The attachments of the machine under a node id after a run of calls. -/
def attachments (s : Settings) (m : String) :
    List Call → Cluster.State → List Attachment → List Attachment
  | [], _, attached => attached
  | c :: calls, σ, attached =>
    attachments s m calls (serve s c σ).2 ((asks s c σ).foldl (replug m) attached)

variable {calls : List Call}

theorem attachments_cons (c : Call) (calls : List Call) :
    attachments s m (c :: calls) σ attached =
      attachments s m calls (serve s c σ).2 ((asks s c σ).foldl (replug m) attached) := rfl

theorem attachments_append (calls calls' : List Call) :
    attachments s m (calls ++ calls') σ attached =
      attachments s m calls' (after s calls σ) (attachments s m calls σ attached) := by
  induction calls generalizing σ attached with
  | nil => rfl
  | cons c calls ih => exact ih

theorem attachments_append_singleton (calls : List Call) (c : Call) :
    attachments s m (calls ++ [c]) σ attached =
      (asks s c (after s calls σ)).foldl (replug m) (attachments s m calls σ attached) :=
  attachments_append calls [c]

/-- **The disks of a machine are those of its attachments.** -/
theorem disks_after (h : σ.disks.get? m = some (attached.map (·.disk))) (calls : List Call) :
    (after s calls σ).disks.get? m =
      some ((attachments s m calls σ attached).map (·.disk)) := by
  induction calls generalizing σ attached with
  | nil => exact h
  | cons c calls ih => exact ih (disks_serve h c)

/-- No disk is added twice. -/
theorem nodup_after (h : σ.disks.get? m = some (attached.map (·.disk)))
    (hnodup : (attached.map (·.disk)).Nodup) (calls : List Call) :
    ((attachments s m calls σ attached).map (·.disk)).Nodup := by
  induction calls generalizing σ attached with
  | nil => exact hnodup
  | cons c calls ih => exact ih (disks_serve h c) (nodup_serve h hnodup c)

/-- A request to unplug the volume of this disk from the machine. -/
def Unplugs (instances : List Instance) (ns m disk : String) (r : Request) : Prop :=
  ∃ u vm, r = .unpublishVolume u ∧ diskName u.volumeId = disk ∧
    Denotes instances ns u.nodeId vm ∧ vm.toText = m

/-- An attachment stays through a run of calls none of which asks to unplug it. -/
theorem mem_attachments_of_mem {a : Attachment} (ha : a ∈ attached)
    (hcalls : ∀ c ∈ calls, ¬ Unplugs σ.instances s.ns m a.disk c.request) :
    a ∈ attachments s m calls σ attached := by
  induction calls generalizing σ attached with
  | nil => exact ha
  | cons c calls ih =>
    refine ih (mem_foldl_asks_of_mem ha fun vm hasked hvm => ?_) ?_
    · obtain ⟨u, hu, hdenotes, hdisk⟩ := removeDisk_cases hasked
      exact hcalls c List.mem_cons_self ⟨u, vm, hu, hdisk.symm, hdenotes, hvm⟩
    · rw [instances_serve]
      exact fun c' hc' => hcalls c' (List.mem_cons_of_mem c hc')

end Hotplug.Controller
