import Hotplug.Proofs.Cluster.Machine
import Hotplug.Proofs.Cluster.Unique
import Hotplug.Proofs.Independence

/-!
# A cluster that numbers its volumes

The id of a volume may depend on nothing but its name and on how often a volume of that name was
made. Then the cluster in memory falls into parts that have nothing to do with each other: for each
name, the volumes of that name, their number, and the disks that are plugged in for them. Everything
else is fixed. The operations on a volume mind its own part, and move nothing else.

Two clusters are compared by what they have in common: the order of volumes of different names does
not matter, and neither does the order of the disks of a machine, nor how often one is there.

## Main definitions

* `Numbered`, `stepNumbered uid` — the cluster, and its steps.
* `Plugs.SameAt P Q i` — `i` is plugged into the same machines.
* `Alike ns hidden s t` — but for the volumes with hidden names, the clusters are the same.
* `Numbered.Same s t` — the clusters are the same, but for the order of volumes and disks.

## Main results

* `Alike.createVolume`, `Alike.addDisk` and others — a request about a volume that is not hidden
  keeps clusters alike.
* `alike_createVolume`, `alike_addDisk` and others — all that a request moves is the part of its
  volume.
* `confined_ensureVolume`, `confined_attach` and others — **the operations on a volume are confined
  to its part.**
-/

namespace Hotplug

namespace Cluster

/-! ### Machines into which the same is plugged -/

namespace Plugs

variable {ι : Type} {P Q : Plugs ι} {i : ι} {f : Set ι → Set ι}

/-- The same machines exist, and `i` is plugged into the same of them. -/
def SameAt (P Q : Plugs ι) (i : ι) : Prop :=
  ∀ m, (P m).map (i ∈ ·) = (Q m).map (i ∈ ·)

theorem SameAt.apply (h : P.SameAt Q i) (m : String) :
    (P m = none ∧ Q m = none) ∨ ∃ S T, P m = some S ∧ Q m = some T ∧ (i ∈ S ↔ i ∈ T) := by
  have hm := h m
  cases hP : P m with
  | none =>
    rw [hP] at hm
    exact .inl ⟨rfl, Option.map_eq_none_iff.1 hm.symm⟩
  | some S =>
    rw [hP] at hm
    obtain ⟨T, hQ, hiff⟩ := Option.map_eq_some_iff.1 hm.symm
    exact .inr ⟨S, T, rfl, hQ, iff_of_eq hiff.symm⟩

/-- A change that treats `i` alike in all sets keeps machines the same at `i`. -/
theorem SameAt.change (h : P.SameAt Q i) (vm : InstanceRef)
    (hf : ∀ S T, (i ∈ S ↔ i ∈ T) → (i ∈ f S ↔ i ∈ f T)) :
    (P.change vm f).SameAt (Q.change vm f) i := by
  intro m
  rw [change_apply, change_apply]
  rcases h.apply m with ⟨hP, hQ⟩ | ⟨S, T, hP, hQ, hiff⟩
  · rw [hP, hQ]
  · rw [hP, hQ]
    by_cases hm : m = vm.toText
    · simp [hm, hf S T hiff]
    · simp [hm, hiff]

/-- A change that leaves `i` where it is changes nothing at `i`. -/
theorem sameAt_change (P : Plugs ι) (vm : InstanceRef) (hf : ∀ S, i ∈ f S ↔ i ∈ S) :
    P.SameAt (P.change vm f) i := by
  intro m
  rw [change_apply]
  cases P m with
  | none => rfl
  | some S =>
    by_cases hm : m = vm.toText
    · simp [hm, hf S]
    · simp [hm]

/-- Machines that are the same at everything are the same. -/
theorem eq_of_sameAt [Nonempty ι] (h : ∀ i, P.SameAt Q i) : P = Q := by
  funext m
  rcases (h (Classical.arbitrary ι)).apply m with ⟨hP, hQ⟩ | ⟨S, T, hP, hQ, -⟩
  · rw [hP, hQ]
  · rw [hP, hQ]
    refine congrArg some (Set.ext fun i => ?_)
    have hi := h i m
    rw [hP, hQ] at hi
    exact iff_of_eq (Option.some.inj hi)

end Plugs

/-! ### The cluster -/

/-- A cluster with the number of volumes of each name that were ever made. -/
structure Numbered where
  cluster : State
  /-- How often a volume of a namespace and a name was made. -/
  made : String → String → Nat

namespace Numbered

/-- The volume made from a description, with the id that `uid` gives for its name and number. -/
def newVolume (uid : String → String → Nat → String) (s : Numbered) (ns : String)
    (v : NewVolume) : RemoteVolume :=
  { s.cluster.newVolume ns v with uid := uid ns v.name (s.made ns v.name) }

end Numbered

/-- The answer to a request and the cluster after it, where names are unique and ids depend on names
and numbers alone. -/
def stepNumbered (uid : String → String → Nat → String) : Handler interface Numbered
  | .createVolume ns v, s =>
    match s.cluster.volume? ns v.name with
    | some _ => (.error (.alreadyExists "DataVolume" v.name "name taken"), s)
    | none =>
      (.ok (s.newVolume uid ns v),
        { cluster :=
            { s.cluster with volumes := s.cluster.volumes ++ [s.newVolume uid ns v] }
          made := fun ns' name =>
            if ns' = ns ∧ name = v.name then s.made ns' name + 1 else s.made ns' name })
  | r, s => ((step r s.cluster).1, { s with cluster := (step r s.cluster).2 })

variable {uid : String → String → Nat → String} {s t : Numbered} {ns : String}
  {hidden hidden' : String → Prop}

theorem stepNumbered_createVolume_of_some {v : NewVolume} {w : RemoteVolume}
    (h : s.cluster.volume? ns v.name = some w) :
    stepNumbered uid (.createVolume ns v) s =
      (.error (.alreadyExists "DataVolume" v.name "name taken"), s) := by
  rw [stepNumbered, h]

theorem stepNumbered_createVolume_of_none {v : NewVolume}
    (h : s.cluster.volume? ns v.name = none) :
    stepNumbered uid (.createVolume ns v) s =
      (.ok (s.newVolume uid ns v),
        { cluster := { s.cluster with volumes := s.cluster.volumes ++ [s.newVolume uid ns v] }
          made := fun ns' name =>
            if ns' = ns ∧ name = v.name then s.made ns' name + 1 else s.made ns' name }) := by
  rw [stepNumbered, h]

/-- A read moves nothing. -/
theorem stepNumbered_read {r : Request} (hr : r.isMutation = false) :
    (stepNumbered uid r s).2 = s := by
  have hstep : stepNumbered uid r s =
      ((step r s.cluster).1, { s with cluster := (step r s.cluster).2 }) := by
    cases r with
    | createVolume => cases hr
    | _ => rfl
  rw [hstep, leavesReads_step r s.cluster hr]

/-! ### Clusters that are alike -/

/-- What of a cluster neither a request about a volume nor one about a disk moves. -/
def State.fixed (σ : State) : State :=
  { σ with volumes := [], disks := .empty }

/-- But for the volumes of the namespace `ns` with hidden names, and for their disks, the clusters
`s` and `t` are the same. -/
structure Alike (ns : String) (hidden : String → Prop) (s t : Numbered) : Prop where
  fixed : s.cluster.fixed = t.cluster.fixed
  volumes : ∀ ns' name, (ns' = ns → ¬ hidden name) →
    s.cluster.volumes.filter (isNamed ns' name) = t.cluster.volumes.filter (isNamed ns' name)
  made : ∀ ns' name, (ns' = ns → ¬ hidden name) → s.made ns' name = t.made ns' name
  disks : ∀ disk, (∀ v, hidden v → disk ≠ diskName v) →
    s.cluster.plugs.SameAt t.cluster.plugs disk

namespace Alike

theorem refl (s : Numbered) : Alike ns hidden s s :=
  ⟨rfl, fun _ _ _ => rfl, fun _ _ _ => rfl, fun _ _ _ => rfl⟩

theorem symm (h : Alike ns hidden s t) : Alike ns hidden t s :=
  ⟨h.fixed.symm, fun n v hv => (h.volumes n v hv).symm, fun n v hv => (h.made n v hv).symm,
    fun d hd m => (h.disks d hd m).symm⟩

theorem trans {u : Numbered} (h : Alike ns hidden s t) (h' : Alike ns hidden t u) :
    Alike ns hidden s u :=
  ⟨h.fixed.trans h'.fixed, fun n v hv => (h.volumes n v hv).trans (h'.volumes n v hv),
    fun n v hv => (h.made n v hv).trans (h'.made n v hv),
    fun d hd m => (h.disks d hd m).trans (h'.disks d hd m)⟩

theorem equivalence (ns : String) (hidden : String → Prop) : Equivalence (Alike ns hidden) :=
  ⟨refl, symm, trans⟩

/-- With more hidden, more is alike. -/
theorem mono (h : Alike ns hidden s t) (hle : ∀ v, hidden v → hidden' v) : Alike ns hidden' s t :=
  ⟨h.fixed, fun n v hv => h.volumes n v fun hn hhidden => hv hn (hle v hhidden),
    fun n v hv => h.made n v fun hn hhidden => hv hn (hle v hhidden),
    fun d hd => h.disks d fun v hv => hd v (hle v hv)⟩

theorem storageClasses (h : Alike ns hidden s t) :
    s.cluster.storageClasses = t.cluster.storageClasses := by
  have hfixed := congrArg State.storageClasses h.fixed
  exact hfixed

theorem instances (h : Alike ns hidden s t) : s.cluster.instances = t.cluster.instances := by
  have hfixed := congrArg State.instances h.fixed
  exact hfixed

theorem snapshots (h : Alike ns hidden s t) : s.cluster.snapshots = t.cluster.snapshots := by
  have hfixed := congrArg State.snapshots h.fixed
  exact hfixed

/-- A volume that is not hidden is found alike. -/
theorem volume? (h : Alike ns hidden s t) {ns' name : String} (hname : ns' = ns → ¬ hidden name) :
    s.cluster.volume? ns' name = t.cluster.volume? ns' name := by
  rw [volume?_eq_find?, volume?_eq_find?, ← List.head?_filter, ← List.head?_filter,
    h.volumes ns' name hname]

end Alike

/-- The disk of a volume that is not hidden is that of no hidden one. -/
theorem diskName_visible {v : String} (hv : ¬ hidden v) :
    ∀ w, hidden w → diskName v ≠ diskName w := by
  intro w hw heq
  rw [diskName_injective heq] at hv
  exact hv hw

/-- The clusters are the same, but for the order of volumes of different names, the order of the
disks of a machine, and how often a disk is there. -/
structure Numbered.Same (s t : Numbered) : Prop where
  fixed : s.cluster.fixed = t.cluster.fixed
  volumes : s.cluster.volumes.Perm t.cluster.volumes
  found : ∀ ns name, s.cluster.volume? ns name = t.cluster.volume? ns name
  plugs : s.cluster.plugs = t.cluster.plugs
  made : s.made = t.made

/-- Clusters are the same if they are alike in several ways, none of which hides all that another
hides. -/
theorem Numbered.same_of_alike {family : String → String → Prop} (hvisible : ∀ v, ¬ family v v)
    (h : ∀ v, Alike ns (family v) s t) : s.Same t where
  fixed := (h "").fixed
  volumes := by
    refine List.perm_iff_count.2 fun v => ?_
    have hnamed : isNamed v.ns v.name v = true := by
      rw [isNamed, beq_self_eq_true, beq_self_eq_true, Bool.and_true]
    rw [← List.count_filter hnamed, ← List.count_filter (l := t.cluster.volumes) hnamed,
      (h v.name).volumes v.ns v.name fun _ => hvisible v.name]
  found ns' name := (h name).volume? fun _ => hvisible name
  plugs := by
    refine Plugs.eq_of_sameAt fun disk => ?_
    by_cases hdisk : ∃ v, disk = diskName v
    · obtain ⟨v, rfl⟩ := hdisk
      exact (h v).disks _ (diskName_visible (hvisible v))
    · exact (h "").disks disk fun v _ heq => hdisk ⟨v, heq⟩
  made := by
    funext ns' name
    exact (h name).made ns' name fun _ => hvisible name

/-! ### What a request keeps alike -/

/-- A volume that is not hidden is made alike. -/
theorem Alike.createVolume (h : Alike ns hidden s t) {v : NewVolume} (hv : ¬ hidden v.name) :
    (stepNumbered uid (.createVolume ns v) s).1 = (stepNumbered uid (.createVolume ns v) t).1 ∧
      Alike ns hidden (stepNumbered uid (.createVolume ns v) s).2
        (stepNumbered uid (.createVolume ns v) t).2 := by
  have hfound : s.cluster.volume? ns v.name = t.cluster.volume? ns v.name := h.volume? fun _ => hv
  cases hs : s.cluster.volume? ns v.name with
  | some w =>
    rw [stepNumbered_createVolume_of_some hs, stepNumbered_createVolume_of_some (hfound ▸ hs)]
    exact ⟨rfl, h⟩
  | none =>
    have hnew : s.newVolume uid ns v = t.newVolume uid ns v := by
      unfold Numbered.newVolume State.newVolume
      rw [h.made ns v.name fun _ => hv]
    rw [stepNumbered_createVolume_of_none hs, stepNumbered_createVolume_of_none (hfound ▸ hs), hnew]
    refine ⟨rfl, h.fixed, fun ns' name hname => ?_, fun ns' name hname => ?_, h.disks⟩
    · rw [List.filter_append, List.filter_append, h.volumes ns' name hname]
    · simp only [h.made ns' name hname]

/-- A volume that is not hidden is deleted alike. -/
theorem Alike.deleteVolume (h : Alike ns hidden s t) {name : String} (hname : ¬ hidden name) :
    (stepNumbered uid (.deleteVolume ns name) s).1 =
        (stepNumbered uid (.deleteVolume ns name) t).1 ∧
      Alike ns hidden (stepNumbered uid (.deleteVolume ns name) s).2
        (stepNumbered uid (.deleteVolume ns name) t).2 := by
  refine ⟨?_, h.fixed, fun ns' name' hname' => ?_, h.made, h.disks⟩
  · exact congrArg (fun found : Option RemoteVolume => Except.ok found.isSome)
      (h.volume? fun _ => hname)
  · change (s.cluster.volumes.filter fun v => !isNamed ns name v).filter _ =
      (t.cluster.volumes.filter fun v => !isNamed ns name v).filter _
    rw [List.filter_comm, h.volumes ns' name' hname', List.filter_comm]

/-- A machine exists in both clusters or in neither, and `disk` is among its disks in both or in
neither. -/
theorem Alike.machine (h : Alike ns hidden s t) {disk : String}
    (hdisk : ∀ v, hidden v → disk ≠ diskName v) (m : String) :
    (s.cluster.disks.get? m = none ∧ t.cluster.disks.get? m = none) ∨
      ∃ disks disks', s.cluster.disks.get? m = some disks ∧
        t.cluster.disks.get? m = some disks' ∧ disks.contains disk = disks'.contains disk := by
  rcases (h.disks disk hdisk).apply m with ⟨hs, ht⟩ | ⟨S, T, hs, ht, hiff⟩
  · exact .inl ⟨plugs_eq_none_iff.1 hs, plugs_eq_none_iff.1 ht⟩
  · obtain ⟨disks, hdisks, rfl⟩ := Option.map_eq_some_iff.1 hs
    obtain ⟨disks', hdisks', rfl⟩ := Option.map_eq_some_iff.1 ht
    refine .inr ⟨disks, disks', hdisks, hdisks', ?_⟩
    rw [Bool.eq_iff_iff, List.contains_iff_mem, List.contains_iff_mem]
    exact hiff

/-- A change of disks that treats those alike that are not hidden keeps clusters alike. -/
theorem Alike.changeDisks (h : Alike ns hidden s t) {σ τ : State} {vm : InstanceRef}
    {f : Set String → Set String} (hσ : σ = { s.cluster with disks := σ.disks })
    (hτ : τ = { t.cluster with disks := τ.disks }) (hsplugs : σ.plugs = s.cluster.plugs.change vm f)
    (htplugs : τ.plugs = t.cluster.plugs.change vm f)
    (hf : ∀ disk S T, (disk ∈ S ↔ disk ∈ T) → (disk ∈ f S ↔ disk ∈ f T)) :
    Alike ns hidden { s with cluster := σ } { t with cluster := τ } where
  fixed := by
    rw [hσ, hτ]
    exact h.fixed
  volumes ns' name hname := by
    rw [hσ, hτ]
    exact h.volumes ns' name hname
  made := h.made
  disks disk hdisk := by
    change σ.plugs.SameAt τ.plugs disk
    rw [hsplugs, htplugs]
    exact (h.disks disk hdisk).change vm (hf disk)

/-- A disk is plugged in alike. -/
theorem Alike.addDisk (h : Alike ns hidden s t) (vm : InstanceRef) (a : Attachment)
    (ha : ∀ v, hidden v → a.disk ≠ diskName v) :
    (stepNumbered uid (.addDisk vm a) s).1 = (stepNumbered uid (.addDisk vm a) t).1 ∧
      Alike ns hidden (stepNumbered uid (.addDisk vm a) s).2
        (stepNumbered uid (.addDisk vm a) t).2 := by
  have hanswer : (step (.addDisk vm a) s.cluster).1 = (step (.addDisk vm a) t.cluster).1 := by
    rcases h.machine ha vm.toText with ⟨hs, ht⟩ | ⟨disks, disks', hs, ht, -⟩
    · rw [step, step, hs, ht]
    · rw [step, step, hs, ht]
  refine ⟨hanswer, h.changeDisks frame_addDisk frame_addDisk plugs_addDisk plugs_addDisk ?_⟩
  intro disk S T hiff
  rw [Set.mem_insert_iff, Set.mem_insert_iff, hiff]

/-- A disk is unplugged alike. -/
theorem Alike.removeDisk (h : Alike ns hidden s t) (vm : InstanceRef) {disk : String}
    (hdisk : ∀ v, hidden v → disk ≠ diskName v) :
    (stepNumbered uid (.removeDisk vm disk) s).1 = (stepNumbered uid (.removeDisk vm disk) t).1 ∧
      Alike ns hidden (stepNumbered uid (.removeDisk vm disk) s).2
        (stepNumbered uid (.removeDisk vm disk) t).2 := by
  have hanswer :
      (step (.removeDisk vm disk) s.cluster).1 = (step (.removeDisk vm disk) t.cluster).1 := by
    rcases h.machine hdisk vm.toText with ⟨hs, ht⟩ | ⟨disks, disks', hs, ht, -⟩
    · rw [step, step, hs, ht]
    · rw [step, step, hs, ht]
  refine ⟨hanswer,
    h.changeDisks frame_removeDisk frame_removeDisk plugs_removeDisk plugs_removeDisk ?_⟩
  intro d S T hiff
  rw [Set.mem_sdiff, Set.mem_sdiff, hiff]

/-! ### What a request moves -/

/-- To make a volume moves the volumes of its name, and their number. -/
theorem alike_createVolume (uid : String → String → Nat → String) (s : Numbered) (ns : String)
    (v : NewVolume) :
    Alike ns (· = v.name) s (stepNumbered uid (.createVolume ns v) s).2 := by
  cases hs : s.cluster.volume? ns v.name with
  | some w =>
    rw [stepNumbered_createVolume_of_some hs]
    exact .refl s
  | none =>
    rw [stepNumbered_createVolume_of_none hs]
    refine ⟨rfl, fun ns' name hname => ?_, fun ns' name hname => ?_, fun _ _ _ => rfl⟩
    · have hother : isNamed ns' name (s.newVolume uid ns v) = false := by
        rw [isNamed, Bool.and_eq_false_iff, beq_eq_false_iff_ne, beq_eq_false_iff_ne]
        by_cases hns : ns = ns'
        · exact .inr fun heq => hname hns.symm heq.symm
        · exact .inl hns
      rw [List.filter_append, List.filter_singleton, hother]
      exact (List.append_nil _).symm
    · have hother : ¬ (ns' = ns ∧ name = v.name) := fun h => hname h.1 h.2
      simp only [if_neg hother]

/-- To delete a volume moves the volumes of its name. -/
theorem alike_deleteVolume (uid : String → String → Nat → String) (s : Numbered)
    (ns name : String) :
    Alike ns (· = name) s (stepNumbered uid (.deleteVolume ns name) s).2 := by
  refine ⟨rfl, fun ns' name' hname => ?_, fun _ _ _ => rfl, fun _ _ _ => rfl⟩
  change _ = (s.cluster.volumes.filter fun v => !isNamed ns name v).filter _
  rw [List.filter_filter]
  refine List.filter_congr fun v _ => ?_
  cases hnamed : isNamed ns' name' v with
  | false => rfl
  | true =>
    have hother : (ns, name) ≠ (ns', name') := fun heq =>
      hname (Prod.mk.inj heq).1.symm (Prod.mk.inj heq).2.symm
    exact (not_named_of_ne hother hnamed).symm

/-- A change of the disks that leaves all but one where they are moves the part of this one. -/
theorem alike_changeDisks {σ : State} {vm : InstanceRef} {f : Set String → Set String} {v : String}
    (hσ : σ = { s.cluster with disks := σ.disks }) (hplugs : σ.plugs = s.cluster.plugs.change vm f)
    (hf : ∀ disk S, disk ≠ diskName v → (disk ∈ f S ↔ disk ∈ S)) :
    Alike ns (· = v) s { s with cluster := σ } where
  fixed := by
    rw [hσ]
    rfl
  volumes ns' name hname := by
    rw [hσ]
  made _ _ _ := rfl
  disks disk hdisk := by
    change s.cluster.plugs.SameAt σ.plugs disk
    rw [hplugs]
    exact s.cluster.plugs.sameAt_change vm fun S => hf disk S (hdisk v rfl)

/-- To plug a disk in moves this disk. -/
theorem alike_addDisk (uid : String → String → Nat → String) (s : Numbered) (ns : String)
    (vm : InstanceRef) {a : Attachment} {v : String} (ha : a.disk = diskName v) :
    Alike ns (· = v) s (stepNumbered uid (.addDisk vm a) s).2 := by
  refine alike_changeDisks frame_addDisk plugs_addDisk fun disk S hne => ?_
  rw [Set.mem_insert_iff, ha, or_iff_right hne]

/-- To unplug a disk moves this disk. -/
theorem alike_removeDisk (uid : String → String → Nat → String) (s : Numbered) (ns : String)
    (vm : InstanceRef) (v : String) :
    Alike ns (· = v) s (stepNumbered uid (.removeDisk vm (diskName v)) s).2 := by
  refine alike_changeDisks frame_removeDisk plugs_removeDisk fun disk S hne => ?_
  rw [Set.mem_sdiff, Set.mem_singleton_iff, and_iff_left hne]

/-! ### The operations on a volume -/

section Operations

variable {v : String}

/-- One request whose answer does not depend on what is hidden. -/
theorem confined_call {r : Request}
    (hr : ∀ s t, Alike ns hidden s t → (stepNumbered uid r s).1 = (stepNumbered uid r t).1 ∧
      Alike ns hidden (stepNumbered uid r s).2 (stepNumbered uid r t).2)
    (hmoves : ∀ s, Alike ns (· = v) s (stepNumbered uid r s).2) :
    Confined (stepNumbered uid) (Alike ns hidden) (Alike ns (· = v)) (call r).run :=
  .askThen (fun s t h => (hr s t h).1) (fun s t h => (hr s t h).2) hmoves fun x => .done x

/-- One read whose answer does not depend on what is hidden. -/
theorem confined_read {r : Request} (hr : r.isMutation = false)
    (hanswer : ∀ s t, Alike ns hidden s t → (stepNumbered uid r s).1 = (stepNumbered uid r t).1) :
    Confined (stepNumbered uid) (Alike ns hidden) (Alike ns (· = v)) (call r).run := by
  refine confined_call (fun s t h => ⟨hanswer s t h, ?_⟩) fun s => ?_
  · rwa [stepNumbered_read hr, stepNumbered_read hr]
  · rw [stepNumbered_read hr]
    exact .refl s

theorem confined_getVolume {name : String} (hname : ¬ hidden name) :
    Confined (stepNumbered uid) (Alike ns hidden) (Alike ns (· = v)) (getVolume ns name).run :=
  confined_read rfl fun _ _ h => congrArg Except.ok (h.volume? fun _ => hname)

theorem confined_getSnapshot (ns' name : String) :
    Confined (stepNumbered uid) (Alike ns hidden) (Alike ns (· = v)) (getSnapshot ns' name).run := by
  refine confined_read rfl fun s t h => ?_
  change Except.ok (s.cluster.snapshots.find? _) = Except.ok (t.cluster.snapshots.find? _)
  rw [h.snapshots]

theorem confined_enforceStorageClass (policy : Policy) (storageClass : String) :
    Confined (stepNumbered uid) (Alike ns hidden) (Alike ns (· = v))
      (enforceStorageClass policy storageClass).run := by
  have hlooked : Confined (stepNumbered uid) (Alike ns hidden) (Alike ns (· = v))
      (getStorageClass storageClass).run := by
    refine confined_read rfl fun s t h => ?_
    change Except.ok (s.cluster.storageClasses.find? _) =
      Except.ok (t.cluster.storageClasses.find? _)
    rw [h.storageClasses]
  have hdefault : Confined (stepNumbered uid) (Alike ns hidden) (Alike ns (· = v))
      (isDefaultStorageClass storageClass).run := by
    unfold isDefaultStorageClass
    split
    · exact .pure true
    · exact .andThen hlooked fun _ => .pure _
  unfold enforceStorageClass
  split
  · exact .andThen hdefault fun _ => .ofExcept _
  · exact .andThen (.pure false) fun _ => .ofExcept _

theorem confined_resolveInstance (ns' nodeId : String) :
    Confined (stepNumbered uid) (Alike ns hidden) (Alike ns (· = v))
      (resolveInstance ns' nodeId).run := by
  have hlisted : Confined (stepNumbered uid) (Alike ns hidden) (Alike ns (· = v))
      (listInstances ns').run := by
    refine confined_read rfl fun s t h => ?_
    change Except.ok (s.cluster.instances.filter _) = Except.ok (t.cluster.instances.filter _)
    rw [h.instances]
  unfold resolveInstance
  split
  · exact .fail _
  · split
    · exact .pure _
    · exact .andThen hlisted fun _ => .andThen (.orFail _ _) fun _ => .pure _

/-- **To make sure of a volume minds this volume only.** -/
theorem confined_ensureVolume {wanted : NewVolume} (hname : wanted.name = v) (hv : ¬ hidden v) :
    Confined (stepNumbered uid) (Alike ns hidden) (Alike ns (· = v))
      (ensureVolume ns wanted).run := by
  subst hname
  refine .andThen (confined_getVolume hv) fun found => ?_
  cases found with
  | some existing => exact .ofExcept _
  | none =>
    exact confined_call (fun _ _ h => h.createVolume hv) fun s => alike_createVolume uid s ns wanted

theorem confined_removeVolume (hv : ¬ hidden v) :
    Confined (stepNumbered uid) (Alike ns hidden) (Alike ns (· = v)) (removeVolume ns v).run := by
  have hcall : Confined (stepNumbered uid) (Alike ns hidden) (Alike ns (· = v))
      (deleteVolume ns v).run :=
    confined_call (fun _ _ h => h.deleteVolume hv) fun s => alike_deleteVolume uid s ns v
  exact .andThen hcall fun _ => .pure ()

/-- What is done with the disks of a machine is confined, if it depends on nothing but whether the
machine exists and whether one disk is there. -/
theorem confined_listDisks {vm : InstanceRef} {disk : String} {α : Type}
    (hdisk : ∀ v, hidden v → disk ≠ diskName v)
    {next : Except DriverError (List String) → Program interface α}
    (hsame : ∀ disks disks' : List String, disks.contains disk = disks'.contains disk →
      next (.ok disks) = next (.ok disks'))
    (hnext : ∀ x, Confined (stepNumbered uid) (Alike ns hidden) (Alike ns (· = v)) (next x)) :
    Confined (stepNumbered uid) (Alike ns hidden) (Alike ns (· = v)) (.ask (.listDisks vm) next) := by
  refine .ask (fun s t h => ?_) (fun s t h => ?_) (fun s => ?_) fun s => hnext _
  · change next (step (.listDisks vm) s.cluster).1 = next (step (.listDisks vm) t.cluster).1
    rcases h.machine hdisk vm.toText with ⟨hs, ht⟩ | ⟨disks, disks', hs, ht, hcontains⟩
    · rw [step, step, hs, ht]
    · rw [step, step, hs, ht]
      exact hsame disks disks' hcontains
  · rwa [stepNumbered_read rfl, stepNumbered_read rfl]
  · rw [stepNumbered_read rfl]
    exact .refl s

/-- **To plug a volume in minds its disk only**, though the whole list of disks is read. -/
theorem confined_attach (vm : InstanceRef) {a : Attachment} (ha : a.disk = diskName v)
    (hv : ¬ hidden v) :
    Confined (stepNumbered uid) (Alike ns hidden) (Alike ns (· = v)) (attach vm a).run := by
  have hdisk : ∀ w, hidden w → a.disk ≠ diskName w := by
    rw [ha]
    exact diskName_visible hv
  refine confined_listDisks hdisk (fun disks disks' hcontains => ?_) fun x => ?_
  · simp only [Program.done_bind, ExceptT.bindCont, hcontains]
  · cases x with
    | error e => exact .done _
    | ok disks =>
      change Confined _ _ _ (if disks.contains a.disk then Pure.pure () else addDisk vm a :
        Attempt interface Unit).run
      split
      · exact .pure ()
      · exact confined_call (fun _ _ h => h.addDisk vm a hdisk) fun s => alike_addDisk uid s ns vm ha

/-- **To unplug a volume minds its disk only.** -/
theorem confined_detach (vm : InstanceRef) (hv : ¬ hidden v) :
    Confined (stepNumbered uid) (Alike ns hidden) (Alike ns (· = v))
      (detach vm (diskName v)).run := by
  have hdisk := diskName_visible hv
  have hdecided : ∀ disks : List String,
      Confined (stepNumbered uid) (Alike ns hidden) (Alike ns (· = v))
        (if disks.contains (diskName v) then removeDisk vm (diskName v) else Pure.pure () :
          Attempt interface Unit).run := by
    intro disks
    split
    · exact confined_call (fun _ _ h => h.removeDisk vm hdisk)
        fun s => alike_removeDisk uid s ns vm v
    · exact .pure ()
  refine confined_listDisks hdisk (fun disks disks' hcontains => ?_) fun x => ?_
  · simp only [Program.done_bind, ExceptT.bindCont, hcontains]
  · cases x with
    | ok disks => exact hdecided disks
    | error e =>
      cases e with
      | notFound kind name => exact hdecided []
      | _ => exact .done _

end Operations

end Cluster

end Hotplug
