import Hotplug.Proofs.Cluster.Memory

/-!
# Snapshots of the cluster in memory

The cluster in memory makes a snapshot whenever it is asked to, whether or not its name is taken.
As long as nobody asks for one whose name is taken, there is at most one of each name.

## Main definitions

* `State.snapshotsNamed ns name` — the snapshots of a namespace and a name.
* `State.UniqueSnapshots ns` — there is at most one of each name.
* `State.ClassOfClaim ns claim storageClass` — the storage class of the volume behind a claim.

## Main results

* `State.UniqueSnapshots.step` — what keeps the names unique.
* `storageClassForClaim_cases` — **how the storage class of a claim is found.**
-/

namespace Hotplug.Cluster

open State

variable {s : State} {r : Request} {ns name : String} {v : RemoteSnapshot}

/-! ### Snapshots by name -/

namespace State

/-- The snapshots of a namespace and a name. -/
def snapshotsNamed (s : State) (ns name : String) : List RemoteSnapshot :=
  s.snapshots.filter fun v => v.ns == ns && v.name == name

/-- There is at most one snapshot of each name. -/
def UniqueSnapshots (s : State) (ns : String) : Prop :=
  ∀ name, (s.snapshotsNamed ns name).length ≤ 1

/-- The snapshot that is found under a name is the first of them. -/
theorem snapshot?_eq_head? : s.snapshot? ns name = (s.snapshotsNamed ns name).head? :=
  List.head?_filter.symm

theorem snapshot?_eq_none_iff : s.snapshot? ns name = none ↔ s.snapshotsNamed ns name = [] := by
  rw [snapshot?_eq_head?, List.head?_eq_none_iff]

/-- Where names are unique, the snapshot that is found under a name is the only one. -/
theorem UniqueSnapshots.eq_singleton (hunique : s.UniqueSnapshots ns)
    (hfound : s.snapshot? ns name = some v) : s.snapshotsNamed ns name = [v] := by
  have hlength := hunique name
  rw [snapshot?_eq_head?] at hfound
  cases hnamed : s.snapshotsNamed ns name with
  | nil =>
    rw [hnamed] at hfound
    cases hfound
  | cons w rest =>
    rw [hnamed] at hfound hlength
    have hrest : rest = [] := by
      rw [List.length_cons] at hlength
      exact List.length_eq_zero_iff.1 (by omega)
    rw [hrest, Option.some.inj hfound]

/-- A snapshot that was just made is the only one of its name, if there was none. -/
theorem snapshotsNamed_append (hnone : s.snapshot? ns name = none) (hns : v.ns = ns)
    (hname : v.name = name) :
    { s with snapshots := s.snapshots ++ [v] }.snapshotsNamed ns name = [v] := by
  have hnamed := snapshot?_eq_none_iff.1 hnone
  unfold snapshotsNamed at hnamed ⊢
  rw [List.filter_append, hnamed]
  simp [hns, hname]

/-- **Names stay unique** in every step but one that makes a snapshot whose name is taken. -/
theorem UniqueSnapshots.step (hunique : s.UniqueSnapshots ns)
    (hfree : ∀ new, r = .createSnapshot ns new → s.snapshot? ns new.name = none) :
    (step r s).2.UniqueSnapshots ns := by
  intro name
  have hmoves := moves_step s r
  generalize (Cluster.step r s).2 = s' at hmoves ⊢
  cases hmoves with
  | createSnapshot ns' new =>
    cases hnew : (s.newSnapshot ns' new).ns == ns && (s.newSnapshot ns' new).name == name with
    | true =>
      rw [Bool.and_eq_true, beq_iff_eq, beq_iff_eq] at hnew
      obtain ⟨hns, hname⟩ := hnew
      change ns' = ns at hns
      change new.name = name at hname
      subst hns hname
      rw [snapshotsNamed_append (hfree new rfl) rfl rfl]
      exact Nat.le_refl 1
    | false =>
      -- The new snapshot does not count here.
      have hsame : { s with snapshots := s.snapshots ++ [s.newSnapshot ns' new] }.snapshotsNamed
          ns name = s.snapshotsNamed ns name := by
        unfold snapshotsNamed
        simp [List.filter_append, hnew]
      rw [hsame]
      exact hunique name
  | deleteSnapshot ns' name' =>
    have hfewer : (s.snapshots.filter fun v => !(v.ns == ns' && v.name == name')).Sublist
        s.snapshots := List.filter_sublist
    exact Nat.le_trans (hfewer.filter _).length_le (hunique name)
  | _ => exact hunique name

end State

/-! ### The storage class of a claim -/

/-- A claim exists and is bound, and this is the storage class of what it is bound to, or its own
where that is missing or of no storage class. -/
def State.ClassOfClaim (s : State) (ns claim storageClass : String) : Prop :=
  ∃ found volumeName, s.claim? ns claim = some found ∧ found.volumeName = some volumeName ∧
    ((s.persistentVolume? volumeName).bind (·.storageClass)).or found.storageClass =
      some storageClass

/-- A claim that exists and is bound gives the name of the volume, any other fails. -/
theorem runOn_volumeNameFromClaim (s : State) (ns claim : String) :
    (∃ found volumeName, s.claim? ns claim = some found ∧ found.volumeName = some volumeName ∧
        runOn step (volumeNameFromClaim ns claim) s = (.ok volumeName, s)) ∨
      (∀ found volumeName, s.claim? ns claim = some found → found.volumeName ≠ some volumeName) ∧
        ∃ e, runOn step (volumeNameFromClaim ns claim) s = (.error e, s) := by
  have hlooked : runOn step (volumeNameFromClaim ns claim) s = _ := runOn_bind_ok rfl
  cases hclaim : s.claim? ns claim with
  | none =>
    refine .inr ⟨nofun, .notFound "PersistentVolumeClaim" (shownClaim ns claim), ?_⟩
    rw [hlooked, hclaim]
    rfl
  | some found =>
    have hfound := hlooked.trans (runOn_bind_ok (runOn_orFail_of_eq _ _ _ hclaim))
    cases hvolume : found.volumeName with
    | none =>
      refine .inr ⟨?_, _, hfound.trans (runOn_orFail_of_eq _ _ _ hvolume)⟩
      rintro _ _ ⟨⟩
      rw [hvolume]
      nofun
    | some volumeName =>
      refine .inl ⟨found, volumeName, rfl, hvolume, ?_⟩
      exact hfound.trans (runOn_orFail_of_eq _ _ _ hvolume)

/-- A claim that is bound has the storage class of its volume, or else its own, or none at all. -/
theorem runOn_storageClassForClaim {claim volumeName : String} {found : Claim}
    (hclaim : s.claim? ns claim = some found)
    (hname : runOn step (volumeNameFromClaim ns claim) s = (.ok volumeName, s)) :
    runOn step (storageClassForClaim ns claim) s =
      ((((s.persistentVolume? volumeName).bind (·.storageClass)).or found.storageClass).elim
        (.error (.failedPrecondition
          ("no storage class recorded for PersistentVolumeClaim " ++ shownClaim ns claim))) .ok,
        s) := by
  refine (runOn_bind_ok hname).trans ((runOn_bind_ok rfl).trans ?_)
  cases (s.persistentVolume? volumeName).bind (·.storageClass) with
  | some storageClass => rfl
  | none =>
    refine (runOn_bind_ok rfl).trans (runOn_orFail_of_eq _ _ _ ?_)
    change (s.claim? ns claim).bind (·.storageClass) = _
    rw [hclaim]
    rfl

/-- **How the storage class of a claim is found**: it is that of the volume that the claim is bound
to, or else the claim's own, and otherwise the search fails. -/
theorem storageClassForClaim_cases (s : State) (ns claim : String) :
    (∃ storageClass, s.ClassOfClaim ns claim storageClass ∧
        runOn step (storageClassForClaim ns claim) s = (.ok storageClass, s)) ∨
      (∀ storageClass, ¬ s.ClassOfClaim ns claim storageClass) ∧
        ∃ e, runOn step (storageClassForClaim ns claim) s = (.error e, s) := by
  rcases runOn_volumeNameFromClaim s ns claim with
    ⟨found, volumeName, hclaim, hvolume, hname⟩ | ⟨hunbound, e, hname⟩
  · have hrun := runOn_storageClassForClaim hclaim hname
    cases hclass : ((s.persistentVolume? volumeName).bind (·.storageClass)).or
        found.storageClass with
    | some storageClass =>
      rw [hclass] at hrun
      exact .inl ⟨storageClass, ⟨found, volumeName, hclaim, hvolume, hclass⟩, hrun⟩
    | none =>
      rw [hclass] at hrun
      refine .inr ⟨?_, _, hrun⟩
      rintro storageClass ⟨found', volumeName', hclaim', hvolume', hclass'⟩
      obtain rfl := Option.some.inj (hclaim.symm.trans hclaim')
      obtain rfl := Option.some.inj (hvolume.symm.trans hvolume')
      rw [hclass] at hclass'
      cases hclass'
  · refine .inr ⟨?_, e, runOn_bind_error hname⟩
    rintro storageClass ⟨found, volumeName, hclaim, hvolume, -⟩
    exact hunbound found volumeName hclaim hvolume

/-- A claim has one storage class. -/
theorem State.ClassOfClaim.unique {claim storageClass storageClass' : String}
    (h : s.ClassOfClaim ns claim storageClass) (h' : s.ClassOfClaim ns claim storageClass') :
    storageClass = storageClass' := by
  obtain ⟨found, volumeName, hclaim, hvolume, hclass⟩ := h
  obtain ⟨found', volumeName', hclaim', hvolume', hclass'⟩ := h'
  obtain rfl := Option.some.inj (hclaim.symm.trans hclaim')
  obtain rfl := Option.some.inj (hvolume.symm.trans hvolume')
  exact Option.some.inj (hclass.symm.trans hclass')

end Hotplug.Cluster
