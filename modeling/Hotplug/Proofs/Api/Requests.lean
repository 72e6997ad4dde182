import Hotplug.Api.Machine
import Hotplug.Proofs.Api.Document
import Mathlib.Data.List.Nodup

/-!
# The disks that a virtual machine reports

A virtual machine lists volumes in its specification, and requests to plug and to unplug that it has
not yet acted on. Whether it reports a disk is decided by the last request that mentions the disk,
and where none does by the specification. So it makes no difference whether the oldest request is
still there or has been acted on.

## Main definitions

* `specNames object` — the names that the specification lists.
* `Adds request disk`, `Removes request disk` — what a request mentions.
* `Reported object disk` — the last mention of the disk is that it be added.
* `Queued`, `Reconciled` — a request is put at the end of the queue, or taken from its front and
  acted on.

## Main results

* `mem_disks_iff` — **which disks are reported.**
* `nodup_disks` — none is reported twice.
* `mem_disks_of_queued`, `mem_disks_of_reconciled` — what becomes of the disks when a request comes
  and when it goes.
-/

namespace Hotplug.Machine

open Api

/-! ### What an object says -/

/-- The names of the volumes that the specification lists. -/
def specNames (object : Json) : List String :=
  (Object.itemsAt ["spec", "template", "spec", "volumes"] object).filterMap fun item =>
    (item.pointer? ["name"]).bind Json.text?

/-- A request plugs a disk. -/
def Adds (request : Json) (disk : String) : Prop :=
  request.pointer? ["addVolumeOptions", "name"] = some (.string disk)

/-- A request unplugs a disk. -/
def Removes (request : Json) (disk : String) : Prop :=
  request.pointer? ["removeVolumeOptions", "name"] = some (.string disk)

/-- A request is about a disk. -/
def Mentions (request : Json) (disk : String) : Prop :=
  Adds request disk ∨ Removes request disk

/-- The last of some requests that mentions a disk plugs it. A request that both plugs and unplugs
it mentions the unplugging last. -/
def LastAdds (queue : List Json) (disk : String) : Prop :=
  ∃ earlier request later, queue = earlier ++ request :: later ∧ Adds request disk ∧
    ¬ Removes request disk ∧ ∀ r ∈ later, ¬ Mentions r disk

/-- A disk is plugged by the last request that mentions it, or none does and the specification lists
it. -/
def Reported (object : Json) (disk : String) : Prop :=
  LastAdds (requests object) disk ∨
    (∀ r ∈ requests object, ¬ Mentions r disk) ∧ disk ∈ specNames object

variable {object request : Json} {disk : String} {queue : List Json}

/-- The names that count are those that are not empty. -/
theorem volumes_eq (object : Json) :
    volumes object = (specNames object).filter fun s => !s.isEmpty := by
  unfold volumes specNames
  rw [List.filter_filterMap]
  rfl

theorem mem_volumes_iff : disk ∈ volumes object ↔ disk ∈ specNames object ∧ disk ≠ "" := by
  rw [volumes_eq, List.mem_filter]
  simp

/-! ### One request -/

theorem mem_add_iff {disks : List String} {name : String} :
    disk ∈ (if disks.contains name then disks else disks ++ [name]) ↔
      disk ∈ disks ∨ name = disk := by
  by_cases hname : name ∈ disks
  · rw [if_pos (List.contains_iff_mem.2 hname)]
    constructor
    · exact .inl
    · rintro (h | rfl)
      · exact h
      · exact hname
  · rw [if_neg (mt List.contains_iff_mem.1 hname), List.mem_append, List.mem_singleton, eq_comm]

theorem mem_remove_iff {disks : List String} {name : String} :
    disk ∈ disks.filter (· != name) ↔ disk ∈ disks ∧ ¬ name = disk := by
  rw [List.mem_filter, bne_iff_ne, ne_comm]

/-- A request plugs the disk it names to be added, and then unplugs the one to be removed. -/
theorem mem_afterRequest_iff (disks : List String) :
    disk ∈ afterRequest disks request ↔
      (disk ∈ disks ∨ Object.textAt? ["addVolumeOptions", "name"] request = some disk) ∧
        ¬ Object.textAt? ["removeVolumeOptions", "name"] request = some disk := by
  unfold afterRequest
  cases Object.textAt? ["addVolumeOptions", "name"] request <;>
    cases Object.textAt? ["removeVolumeOptions", "name"] request <;>
    simp only [mem_add_iff, mem_remove_iff, Option.some.injEq, reduceCtorEq, or_false,
      not_false_eq_true, and_true]

theorem mem_afterRequest_iff_of_ne (hdisk : disk ≠ "") (disks : List String) :
    disk ∈ afterRequest disks request ↔
      (disk ∈ disks ∨ Adds request disk) ∧ ¬ Removes request disk := by
  rw [mem_afterRequest_iff, Object.textAt?_eq_some_iff, Object.textAt?_eq_some_iff,
    and_iff_left hdisk, and_iff_left hdisk]
  rfl

/-- The empty name is no disk. -/
theorem empty_not_mem_afterRequest {disks : List String} (h : "" ∉ disks) (request : Json) :
    "" ∉ afterRequest disks request := by
  rw [mem_afterRequest_iff, Object.textAt?_eq_some_iff]
  rintro ⟨hmem | ⟨-, hne⟩, -⟩
  · exact h hmem
  · exact hne rfl

/-- A request leaves every disk once. -/
theorem nodup_afterRequest {disks : List String} (h : disks.Nodup) (request : Json) :
    (afterRequest disks request).Nodup := by
  have hadd : ∀ name, (if disks.contains name then disks else disks ++ [name]).Nodup := by
    intro name
    by_cases hname : name ∈ disks
    · rwa [if_pos (List.contains_iff_mem.2 hname)]
    · rw [if_neg (mt List.contains_iff_mem.1 hname)]
      exact h.append (List.nodup_singleton name) (List.disjoint_singleton.2 hname)
  unfold afterRequest
  cases Object.textAt? ["addVolumeOptions", "name"] request <;>
    cases Object.textAt? ["removeVolumeOptions", "name"] request
  · exact h
  · exact h.filter _
  · exact hadd _
  · exact (hadd _).filter _

/-! ### All requests -/

/-- Whether a disk is plugged after some requests, if it is known whether it was before. -/
def PluggedAfter (queue : List Json) (disk : String) (before : Prop) : Prop :=
  queue.foldl (fun plugged r => (plugged ∨ Adds r disk) ∧ ¬ Removes r disk) before

theorem pluggedAfter_congr {before before' : Prop} (h : before ↔ before') :
    PluggedAfter queue disk before ↔ PluggedAfter queue disk before' := by
  rw [propext h]

theorem pluggedAfter_append (queue later : List Json) (disk : String) (before : Prop) :
    PluggedAfter (queue ++ later) disk before =
      PluggedAfter later disk (PluggedAfter queue disk before) :=
  List.foldl_append

theorem mem_foldl_afterRequest_iff (hdisk : disk ≠ "") (queue : List Json)
    (disks : List String) :
    disk ∈ queue.foldl afterRequest disks ↔ PluggedAfter queue disk (disk ∈ disks) := by
  induction queue generalizing disks with
  | nil => exact Iff.rfl
  | cons request queue ih =>
    rw [List.foldl_cons, ih]
    exact pluggedAfter_congr (mem_afterRequest_iff_of_ne hdisk disks)

/-- A disk is reported if it is plugged after all requests. -/
theorem mem_disks_iff_pluggedAfter (hdisk : disk ≠ "") (object : Json) :
    disk ∈ disks object ↔ PluggedAfter (requests object) disk (disk ∈ specNames object) := by
  unfold disks
  rw [mem_foldl_afterRequest_iff hdisk]
  exact pluggedAfter_congr (mem_volumes_iff.trans (and_iff_left hdisk))

theorem lastAdds_cons_iff : LastAdds (request :: queue) disk ↔
    LastAdds queue disk ∨
      (Adds request disk ∧ ¬ Removes request disk ∧ ∀ r ∈ queue, ¬ Mentions r disk) := by
  constructor
  · rintro ⟨earlier, r, later, heq, hadds, hkept, hlast⟩
    cases earlier with
    | nil =>
      obtain ⟨rfl, rfl⟩ := List.cons.inj heq
      exact .inr ⟨hadds, hkept, hlast⟩
    | cons first earlier =>
      obtain ⟨-, rfl⟩ := List.cons.inj heq
      exact .inl ⟨earlier, r, later, rfl, hadds, hkept, hlast⟩
  · rintro (⟨earlier, r, later, rfl, hadds, hkept, hlast⟩ | ⟨hadds, hkept, hlast⟩)
    · exact ⟨request :: earlier, r, later, rfl, hadds, hkept, hlast⟩
    · exact ⟨[], request, queue, rfl, hadds, hkept, hlast⟩

/-- A disk is plugged after some requests if the last that mentions it plugs it, or if none does and
it was plugged before. -/
theorem pluggedAfter_iff (queue : List Json) (disk : String) (before : Prop) :
    PluggedAfter queue disk before ↔
      LastAdds queue disk ∨ (∀ r ∈ queue, ¬ Mentions r disk) ∧ before := by
  induction queue generalizing before with
  | nil =>
    have hnone : ¬ LastAdds [] disk := by
      rintro ⟨earlier, r, later, heq, -⟩
      exact absurd heq (by simp)
    simp [PluggedAfter, hnone]
  | cons request queue ih =>
    have hstep : PluggedAfter (request :: queue) disk before ↔
        PluggedAfter queue disk ((before ∨ Adds request disk) ∧ ¬ Removes request disk) := Iff.rfl
    rw [hstep, ih, lastAdds_cons_iff, List.forall_mem_cons]
    unfold Mentions
    -- What remains is about this request alone: the disk is plugged by it, or not mentioned.
    tauto

/-- **Which disks are reported**: those whose last mention plugs them, and those that no request
mentions and the specification lists. -/
theorem mem_disks_iff (hdisk : disk ≠ "") (object : Json) :
    disk ∈ disks object ↔ Reported object disk :=
  (mem_disks_iff_pluggedAfter hdisk object).trans (pluggedAfter_iff _ _ _)

/-- What holds of the volumes, and is kept by every request, holds of the disks. -/
theorem disks_induction {P : List String → Prop}
    (hstep : ∀ names request, P names → P (afterRequest names request)) {object : Json}
    (h : P (volumes object)) : P (disks object) := by
  have hall : ∀ (queue : List Json) (names : List String), P names →
      P (queue.foldl afterRequest names) := by
    intro queue
    induction queue with
    | nil => exact fun names hnames => hnames
    | cons request queue ih => exact fun names hnames => ih _ (hstep names request hnames)
  exact hall (requests object) (volumes object) h

/-- The empty name is not reported. -/
theorem empty_not_mem_disks (object : Json) : "" ∉ disks object :=
  disks_induction (P := fun names => "" ∉ names)
    (fun _ request h => empty_not_mem_afterRequest h request)
    fun h => (mem_volumes_iff.1 h).2 rfl

/-- **No disk is reported twice**, if the specification lists none twice. -/
theorem nodup_disks (h : (specNames object).Nodup) : (disks object).Nodup := by
  refine disks_induction (P := List.Nodup) (fun _ request h => nodup_afterRequest h request) ?_
  rw [volumes_eq]
  exact h.filter _

/-! ### Requests that come and go -/

/-- What is asked of a virtual machine. -/
inductive Action where
  | plug | unplug
  deriving DecidableEq

/-- The name of an action. -/
def Action.name : Action → String
  | plug => "addvolume"
  | unplug => "removevolume"

/-- A request is put at the end of the queue: one that plugs, or unplugs, the disk that a body
names. -/
structure Queued (action : Action) (body before after : Json) : Prop where
  names : ∀ disk, disk ∈ specNames after ↔ disk ∈ specNames before
  entry : ∃ request, requests after = requests before ++ [request] ∧
    (∀ disk, Adds request disk ↔
      action = .plug ∧ body.pointer? ["name"] = some (.string disk)) ∧
    ∀ disk, Removes request disk ↔
      action = .unplug ∧ body.pointer? ["name"] = some (.string disk)

/-- The oldest request is acted on and dropped: the specification lists what it adds, and no longer
what it removes. -/
def Reconciled (before after : Json) : Prop :=
  ∃ request, requests before = request :: requests after ∧
    ∀ disk, disk ∈ specNames after ↔
      (disk ∈ specNames before ∨ Adds request disk) ∧ ¬ Removes request disk

/-- **To act on the oldest request changes nothing in what is reported.** -/
theorem mem_disks_of_reconciled {before after : Json} (h : Reconciled before after) :
    disk ∈ disks after ↔ disk ∈ disks before := by
  by_cases hdisk : disk = ""
  · subst hdisk
    exact iff_of_false (empty_not_mem_disks after) (empty_not_mem_disks before)
  · obtain ⟨request, hrequests, hnames⟩ := h
    rw [mem_disks_iff_pluggedAfter hdisk, mem_disks_iff_pluggedAfter hdisk, hrequests]
    exact pluggedAfter_congr (hnames disk)

/-- **What becomes of the disks when a request comes.** -/
theorem mem_disks_of_queued {action : Action} {body before after : Json}
    (h : Queued action body before after) (hdisk : disk ≠ "") :
    disk ∈ disks after ↔
      (disk ∈ disks before ∨
        action = .plug ∧ body.pointer? ["name"] = some (.string disk)) ∧
        ¬ (action = .unplug ∧ body.pointer? ["name"] = some (.string disk)) := by
  obtain ⟨request, hrequests, hadds, hremoves⟩ := h.entry
  rw [mem_disks_iff_pluggedAfter hdisk, mem_disks_iff_pluggedAfter hdisk, hrequests,
    pluggedAfter_append, ← hadds, ← hremoves]
  exact and_congr_left' (or_congr_left (pluggedAfter_congr (h.names disk)))

end Hotplug.Machine
