import Hotplug.Cluster.Memory
import Hotplug.Proofs.Cluster.Change
import Hotplug.Proofs.Policy

/-!
# The cluster in memory

How the requests move the cluster in memory, and what the operations come to on it. Its reads never
fail and move nothing, so that every operation has a plain description in terms of its objects.

## Main definitions

* `Moves s r s'` — what the request `r` makes of the cluster `s`.
* `State.defaultFlag`, `State.isDefaultClass` — whether a storage class is marked, or counts, as the
  default.
* `State.hasSource` — whether the source of a new volume exists.

## Main results

* `moves_step` — a step moves the cluster so.
* `transactional_step` — only changes that succeed move it.
* `volume?_step`, `snapshot?_step`, `storageClasses_step`, `mem_volumes_step` — what a step keeps.
* `runOn_enforceStorageClass`, `runOn_ensureVolume_of_some`, `runOn_ensureVolume_of_none` — what the
  operations come to.
-/

namespace Hotplug.Cluster

open State

variable {s : State} {r : Request} {ns name : String}

/-! ### Steps -/

/-- `Moves s r s'` says that `s'` is what the request `r` makes of the cluster `s`. -/
inductive Moves (s : State) : Request → State → Prop where
  | read {r : Request} (hr : r.isMutation = false) : Moves s r s
  | createVolume (ns : String) (v : NewVolume) : Moves s (.createVolume ns v)
      { s with volumes := s.volumes ++ [s.newVolume ns v], created := s.created + 1 }
  | deleteVolume (ns name : String) : Moves s (.deleteVolume ns name)
      { s with volumes := s.volumes.filter fun v => !(v.ns == ns && v.name == name) }
  | addDisk (vm : InstanceRef) (a : Attachment) (disks : Table (List String)) :
      Moves s (.addDisk vm a) { s with disks }
  | removeDisk (vm : InstanceRef) (disk : String) (disks : Table (List String)) :
      Moves s (.removeDisk vm disk) { s with disks }
  | createSnapshot (ns : String) (v : NewSnapshot) : Moves s (.createSnapshot ns v)
      { s with snapshots := s.snapshots ++ [s.newSnapshot ns v] }
  | deleteSnapshot (ns name : String) : Moves s (.deleteSnapshot ns name)
      { s with snapshots := s.snapshots.filter fun v => !(v.ns == ns && v.name == name) }

/-- A step moves the cluster as it says. -/
theorem moves_step (s : State) (r : Request) : Moves s r (step r s).2 := by
  cases r with
  | createVolume ns v => exact .createVolume ns v
  | deleteVolume ns name => exact .deleteVolume ns name
  | createSnapshot ns v => exact .createSnapshot ns v
  | deleteSnapshot ns name => exact .deleteSnapshot ns name
  | addDisk vm a =>
    rw [step]
    split
    · exact .addDisk vm a s.disks
    · exact .addDisk vm a _
  | removeDisk vm disk =>
    rw [step]
    split
    · exact .removeDisk vm disk s.disks
    · exact .removeDisk vm disk _
  | listDisks vm =>
    rw [step]
    split <;> exact .read rfl
  | _ => exact .read rfl

theorem leavesReads_step : LeavesReads step := by
  intro r s hr
  have hmoves := moves_step s r
  generalize (step r s).2 = s' at hmoves ⊢
  cases hmoves with
  | read => rfl
  | _ => cases hr

/-- Only changes that succeed move the cluster in memory. -/
theorem transactional_step : Transactional step where
  reads := leavesReads_step
  failures := by
    intro r s hfailed
    cases r with
    | listDisks vm | addDisk vm a | removeDisk vm disk =>
      rw [step] at hfailed ⊢
      split at hfailed
      · simp only
      · cases hfailed
    | _ => cases hfailed

/-! ### What steps keep -/

/-- Storage classes are fixed. -/
@[simp] theorem storageClasses_step : (step r s).2.storageClasses = s.storageClasses := by
  have hmoves := moves_step s r
  generalize (step r s).2 = s' at hmoves ⊢
  cases hmoves <;> rfl

/-- Virtual machines are fixed. -/
@[simp] theorem instances_step : (step r s).2.instances = s.instances := by
  have hmoves := moves_step s r
  generalize (step r s).2 = s' at hmoves ⊢
  cases hmoves <;> rfl

/-- A volume is only made by a request for it. -/
theorem mem_volumes_step {v : RemoteVolume} (hr : ∀ ns new, r ≠ .createVolume ns new)
    (hv : v ∈ (step r s).2.volumes) : v ∈ s.volumes := by
  have hmoves := moves_step s r
  generalize (step r s).2 = s' at hmoves hv
  cases hmoves with
  | createVolume ns new => exact absurd rfl (hr ns new)
  | deleteVolume ns name => exact (List.mem_filter.1 hv).1
  | _ => exact hv

/-- A volume that is found is one of the cluster, and it has that namespace and name. -/
theorem State.volume?_eq_some {v : RemoteVolume} (h : s.volume? ns name = some v) :
    v ∈ s.volumes ∧ v.ns = ns ∧ v.name = name := by
  unfold volume? at h
  have hnamed := List.find?_some h
  rw [Bool.and_eq_true, beq_iff_eq, beq_iff_eq] at hnamed
  exact ⟨List.mem_of_find?_eq_some h, hnamed⟩

/-- What is looked up by a test that removal spares is found as before. -/
theorem find?_filter_of_imp {α : Type} {p q : α → Bool} (hpq : ∀ a, p a = true → q a = true)
    (list : List α) : (list.filter q).find? p = list.find? p := by
  rw [List.find?_filter]
  congr 1
  funext a
  cases hp : p a with
  | false => simp
  | true => simp [hpq a hp]

/-- An object of one namespace and name is not of another. -/
theorem not_named_of_ne {ns ns' name name' ns₀ name₀ : String} (hne : (ns', name') ≠ (ns, name))
    (h : (ns₀ == ns && name₀ == name) = true) : (!(ns₀ == ns' && name₀ == name')) = true := by
  rw [Bool.and_eq_true, beq_iff_eq, beq_iff_eq] at h
  obtain ⟨rfl, rfl⟩ := h
  rw [Bool.not_eq_true', Bool.and_eq_false_iff, beq_eq_false_iff_ne, beq_eq_false_iff_ne]
  by_cases hns : ns₀ = ns'
  · exact .inr fun hname => hne (by rw [hns, hname])
  · exact .inl hns

/-- A volume is found as long as its deletion is not asked for. -/
theorem volume?_step {v : RemoteVolume} (hr : r ≠ .deleteVolume ns name)
    (hv : s.volume? ns name = some v) : (step r s).2.volume? ns name = some v := by
  have hmoves := moves_step s r
  generalize (step r s).2 = s' at hmoves ⊢
  cases hmoves with
  | createVolume ns' new =>
    unfold volume? at hv ⊢
    rw [List.find?_append, hv]
    rfl
  | deleteVolume ns' name' =>
    unfold volume? at hv ⊢
    rw [← hv]
    refine find?_filter_of_imp (fun w => not_named_of_ne fun heq => hr ?_) s.volumes
    obtain ⟨rfl, rfl⟩ := Prod.mk.inj heq
    rfl
  | _ => exact hv

/-- A snapshot is found as long as its deletion is not asked for. -/
theorem snapshot?_step {v : RemoteSnapshot} (hr : r ≠ .deleteSnapshot ns name)
    (hv : s.snapshot? ns name = some v) : (step r s).2.snapshot? ns name = some v := by
  have hmoves := moves_step s r
  generalize (step r s).2 = s' at hmoves ⊢
  cases hmoves with
  | createSnapshot ns' new =>
    unfold snapshot? at hv ⊢
    rw [List.find?_append, hv]
    rfl
  | deleteSnapshot ns' name' =>
    unfold snapshot? at hv ⊢
    rw [← hv]
    refine find?_filter_of_imp (fun w => not_named_of_ne fun heq => hr ?_) s.snapshots
    obtain ⟨rfl, rfl⟩ := Prod.mk.inj heq
    rfl
  | _ => exact hv

/-! ### What the operations come to -/

namespace State

/-- Whether a storage class of a name is marked as the default. -/
def defaultFlag (s : State) (storageClass : String) : Bool :=
  ((s.storageClasses.find? (·.name == storageClass)).map (·.isDefault)).getD false

/-- Whether a storage class counts as the default: it is marked so, or it has no name. -/
def isDefaultClass (s : State) (storageClass : String) : Bool :=
  storageClass.isEmpty || s.defaultFlag storageClass

/-- Whether what a new volume gets its contents from exists. -/
def hasSource (s : State) : VolumeSource → Bool
  | .blank => true
  | .snapshot ns name => (s.snapshot? ns name).isSome
  | .claim ns name => (s.volume? ns name).isSome

end State

/-- To ask whether a storage class is the default is to look it up at most once. -/
theorem runOn_isDefaultStorageClass (s : State) (storageClass : String) :
    runOn step (isDefaultStorageClass storageClass) s =
        (.ok (s.isDefaultClass storageClass), s) ∧
      (askedOn step (isDefaultStorageClass storageClass) s = [] ∨
        askedOn step (isDefaultStorageClass storageClass) s = [.getStorageClass storageClass]) := by
  unfold isDefaultStorageClass isDefaultClass
  cases hempty : storageClass.isEmpty with
  | true => exact ⟨rfl, .inl rfl⟩
  | false => exact ⟨rfl, .inr rfl⟩

/-- **The policy is applied as if the default class were always known**, and the storage class is
looked up at most once. -/
theorem runOn_enforceStorageClass (s : State) (policy : Policy) (storageClass : String) :
    runOn step (enforceStorageClass policy storageClass) s =
        (policy.checkStorageClass storageClass (s.isDefaultClass storageClass), s) ∧
      (askedOn step (enforceStorageClass policy storageClass) s = [] ∨
        askedOn step (enforceStorageClass policy storageClass) s =
          [.getStorageClass storageClass]) := by
  unfold enforceStorageClass
  cases hneeds : policy.needsDefaultLookup storageClass with
  | false =>
    rw [Policy.checkStorageClass_eq_of_not_needs hneeds _ false]
    exact ⟨rfl, .inl rfl⟩
  | true =>
    obtain ⟨hrun, hasked⟩ := runOn_isDefaultStorageClass s storageClass
    simp only [if_true]
    refine ⟨runOn_bind_ok hrun, ?_⟩
    rw [askedOn_bind_ok hrun, askedOn_ofExcept, List.append_nil]
    exact hasked

/-- A storage class that is allowed passes the policy. -/
theorem runOn_enforceStorageClass_of_allowed {policy : Policy} {storageClass : String}
    (h : policy.isAllowed storageClass (s.isDefaultClass storageClass) = true) :
    runOn step (enforceStorageClass policy storageClass) s = (.ok (), s) := by
  rw [(runOn_enforceStorageClass s policy storageClass).1, Policy.checkStorageClass_eq_ok_iff.2 h]

/-- A volume of the name that is wanted is looked at, and nothing is made. -/
theorem runOn_ensureVolume_of_some {wanted : NewVolume} {existing : RemoteVolume}
    (h : s.volume? ns wanted.name = some existing) :
    runOn step (ensureVolume ns wanted) s = (reuse ns wanted existing, s) := by
  refine (runOn_bind_ok rfl).trans ?_
  rw [h]
  rfl

/-- A volume is made where there is none of its name. -/
theorem runOn_ensureVolume_of_none {wanted : NewVolume}
    (h : s.volume? ns wanted.name = none) :
    runOn step (ensureVolume ns wanted) s =
      (.ok (s.newVolume ns wanted),
        { s with volumes := s.volumes ++ [s.newVolume ns wanted], created := s.created + 1 }) := by
  refine (runOn_bind_ok rfl).trans ?_
  rw [h]
  rfl

/-! ### A volume that was made -/

/-- A volume that is made where there was none of its name is found by it. -/
theorem State.volume?_append {v : RemoteVolume} (hnone : s.volume? ns name = none)
    (hns : v.ns = ns) (hname : v.name = name) :
    { s with volumes := s.volumes ++ [v] }.volume? ns name = some v := by
  unfold volume? at hnone ⊢
  rw [List.find?_append, hnone, List.find?_singleton]
  simp [hns, hname]

/-- A volume made as it was wanted is one that can be used where it is wanted. -/
theorem reuse_newVolume (s : State) (ns : String) (wanted : NewVolume) :
    reuse ns wanted (s.newVolume ns wanted) = .ok (s.newVolume ns wanted) := by
  have hns : VolumeSource.orElse ns ns = ns := by
    unfold VolumeSource.orElse
    split <;> rfl
  simp [reuse, State.newVolume, hns]

/-- A volume is the one wanted if its size, its storage class, if one is asked for, and its source
are. -/
theorem reuse_eq_ok_iff {wanted : NewVolume} {existing v : RemoteVolume} :
    reuse ns wanted existing = .ok v ↔ v = existing ∧ existing.size = wanted.size ∧
      (wanted.storageClass = none ∨ existing.storageClass = wanted.storageClass) ∧
      existing.source.orNamespace (VolumeSource.orElse existing.ns ns) =
        wanted.source.orNamespace ns := by
  unfold reuse
  by_cases hsize : existing.size = wanted.size
  · by_cases hclass : wanted.storageClass = none ∨ existing.storageClass = wanted.storageClass
    · have hkept : ¬ (wanted.storageClass.isSome &&
          decide (existing.storageClass ≠ wanted.storageClass)) = true := by
        rcases hclass with hnone | hsame
        · simp [hnone]
        · simp [hsame]
      simp only [hsize, ne_eq, not_true_eq_false, if_false, hkept, hclass, true_and]
      by_cases hsource : existing.source.orNamespace (VolumeSource.orElse existing.ns ns) =
          wanted.source.orNamespace ns
      · simp [hsource, eq_comm]
      · simp [hsource]
    · rw [not_or] at hclass
      obtain ⟨hsome, hdiffer⟩ := hclass
      simp [hsize, hsome, hdiffer, Option.isSome_iff_ne_none]
  · simp [hsize]

/-- A volume is found to be the one wanted, or it is refused: it is never changed. -/
theorem reuse_eq_ok {wanted : NewVolume} {existing v : RemoteVolume}
    (h : reuse ns wanted existing = .ok v) : v = existing :=
  (reuse_eq_ok_iff.1 h).1

end Hotplug.Cluster
