import Hotplug.Cluster.Resolve
import Hotplug.Proofs.Cluster.Memory
import Hotplug.Proofs.Instance
import Mathlib.Order.BooleanAlgebra.Set

/-!
# Virtual machines and their disks

A node id is the namespace and the name of a virtual machine around a slash, or a hardware id, whose
letters may be of either case. Where no two machines share a hardware id, it leads to one machine at
most, whatever it is written as. To plug a disk into that machine, or to unplug it, is then to
insert it into a set, or to remove it.

## Main definitions

* `courseOn h p s` — what a run comes to: its result, and the changes that it asks for.
* `Denotes instances ns nodeId vm` — the node id leads to the virtual machine.
* `DistinctHardwareIds` — no two machines share a hardware id.
* `Plugs`, `Plugs.change`, `Plugs.preimage` — what is plugged into the machines.
* `State.plugs` — the disks of the machines of a cluster.

## Main results

* `Denotes.unique` — **both ways to write a node id lead to the same machine.**
* `resolveInstance_cases` — how a node id is resolved.
* `plugs_addDisk`, `plugs_removeDisk` — a disk that is added or removed is inserted or removed.
* `attach_of_none`, `attach_of_mem`, `attach_of_not_mem`, and the same for `detach` — what
  plugging and unplugging come to.
-/

namespace Hotplug

namespace Cluster

open State

/-! ### What a run comes to -/

section Courses

variable {α β ε : Type} {σ : Type}

/-- What a run comes to: its result with the state after it, and the changes that it asks for. -/
def courseOn (h : Handler interface σ) (p : ExceptT ε (Program interface) α) (s : σ) :
    (Except ε α × σ) × List Request :=
  (runOn h p s, (askedOn h p s).filter (·.isMutation))

variable {h : Handler interface σ} {s s' : σ}

/-- A program that only reads asks for no change. -/
theorem changes_of_readsOnly (hreads : LeavesReads h) {p : ExceptT ε (Program interface) α}
    (hp : ReadsOnly p.run) : (askedOn h p s).filter (·.isMutation) = [] := by
  refine List.filter_eq_nil_iff.2 fun r hr => ?_
  rcases hp.outcome hreads s with ⟨-, hasked⟩ | ⟨_, -, -, hno, -⟩
  · rw [hasked r hr]
    exact Bool.false_ne_true
  · exact hno.elim

/-- A run asks for no change and leaves the state as it was, or it asks for one permitted change and
makes it. -/
theorem courseOn_cases (hreads : LeavesReads h) {M : Request → Prop}
    {p : ExceptT ε (Program interface) α} (hp : Settles M p.run) (s : σ) :
    (∃ x, courseOn h p s = ((x, s), [])) ∨
      ∃ r x, r.isMutation = true ∧ M r ∧ courseOn h p s = ((x, (h r s).2), [r]) := by
  obtain ⟨t, hasked, hconv⟩ := exists_conversation h p.run s
  have hcount := (hp.changesLast hconv).1.atMostOne
  have hlength : ((askedOn h p s).filter (·.isMutation)).length ≤ 1 := by
    unfold askedOn
    rw [← hasked, ← List.countP_eq_length_filter, List.countP_map]
    exact hcount
  rcases hp.outcome hreads s with ⟨hstate, hnone⟩ | ⟨r, hr, hmut, hM, hstate, -⟩
  · refine .inl ⟨(runOn h p s).1, ?_⟩
    have hchanges : (askedOn h p s).filter (·.isMutation) = [] := by
      refine List.filter_eq_nil_iff.2 fun r hr => ?_
      rw [hnone r hr]
      exact Bool.false_ne_true
    unfold courseOn
    rw [hchanges]
    exact Prod.ext (Prod.ext rfl hstate) rfl
  · refine .inr ⟨r, (runOn h p s).1, hmut, hM, ?_⟩
    have hmem : r ∈ (askedOn h p s).filter (·.isMutation) := List.mem_filter.2 ⟨hr, hmut⟩
    have hchanges : (askedOn h p s).filter (·.isMutation) = [r] := by
      obtain ⟨r', hr'⟩ := List.length_eq_one_iff.1
        (Nat.le_antisymm hlength (List.length_pos_of_mem hmem))
      rw [hr'] at hmem ⊢
      rw [List.mem_singleton.1 hmem]
    unfold courseOn
    rw [hchanges]
    exact Prod.ext (Prod.ext rfl hstate) rfl

/-- After reading, a run comes to what follows. -/
theorem courseOn_bind_ok (hreads : LeavesReads h) {p : ExceptT ε (Program interface) α}
    (hp : ReadsOnly p.run) {f : α → ExceptT ε (Program interface) β} {a : α}
    (hrun : runOn h p s = (.ok a, s')) : courseOn h (p >>= f) s = courseOn h (f a) s' := by
  unfold courseOn
  rw [runOn_bind_ok hrun, askedOn_bind_ok hrun, List.filter_append,
    changes_of_readsOnly hreads hp, List.nil_append]

/-- If reading fails, that is all. -/
theorem courseOn_bind_error (hreads : LeavesReads h) {p : ExceptT ε (Program interface) α}
    (hp : ReadsOnly p.run) {f : α → ExceptT ε (Program interface) β} {e : ε}
    (hrun : runOn h p s = (.error e, s')) : courseOn h (p >>= f) s = ((.error e, s'), []) := by
  unfold courseOn
  rw [runOn_bind_error hrun, askedOn_bind_error hrun, changes_of_readsOnly hreads hp]

variable (h s)

/-- Changing the value of a success changes nothing else. -/
theorem courseOn_andReturn (p : ExceptT ε (Program interface) α) (g : α → β) :
    courseOn h (p >>= fun a => pure (g a)) s =
      (((courseOn h p s).1.1.map g, (courseOn h p s).1.2), (courseOn h p s).2) := by
  unfold courseOn
  rw [runOn_andReturn, askedOn_andReturn]

end Courses

/-! ### Node ids -/

theorem sameIgnoringCase_iff {a b : String} :
    sameIgnoringCase a b = true ↔ a.toList.map Char.toLower = b.toList.map Char.toLower :=
  beq_iff_eq

theorem hasHardwareId_iff {hardwareId : String} {i : Instance} :
    hasHardwareId hardwareId i = true ↔
      ∃ id, i.hardwareId = some id ∧ sameIgnoringCase id hardwareId = true := by
  unfold hasHardwareId
  cases i.hardwareId with
  | none => simp
  | some id => simp

/-- `Denotes instances ns nodeId vm` says that the node id leads to the virtual machine. -/
inductive Denotes (instances : List Instance) (ns : String) : String → InstanceRef → Prop where
  /-- The namespace and the name of any machine, running or not. -/
  | name {vm : InstanceRef} (hvm : vm.WellNamed) : Denotes instances ns vm.toText vm
  /-- The hardware id of a running machine of the namespace, in letters of either case. -/
  | hardwareId {nodeId : String} {i : Instance} {id : String} (hne : nodeId ≠ "")
      (hname : ∀ vm : InstanceRef, vm.WellNamed → nodeId ≠ vm.toText) (hi : i ∈ instances)
      (hns : i.ns = ns) (hid : i.hardwareId = some id)
      (hsame : sameIgnoringCase id nodeId = true) :
      Denotes instances ns nodeId ⟨i.ns, i.name⟩

/-- No two machines share a hardware id, also if the case of letters is ignored. -/
def DistinctHardwareIds (instances : List Instance) : Prop :=
  ∀ i ∈ instances, ∀ j ∈ instances, ∀ a b, i.hardwareId = some a → j.hardwareId = some b →
    sameIgnoringCase a b = true → i = j

variable {instances : List Instance} {ns nodeId hardwareId : String} {vm vm' : InstanceRef}
  {i j : Instance} {s : State}

/-- A hardware id has one machine. -/
theorem DistinctHardwareIds.eq (hdistinct : DistinctHardwareIds instances) (hi : i ∈ instances)
    (hj : j ∈ instances) (hid : hasHardwareId hardwareId i = true)
    (hid' : hasHardwareId hardwareId j = true) : i = j := by
  obtain ⟨a, ha, hsame⟩ := hasHardwareId_iff.1 hid
  obtain ⟨b, hb, hsame'⟩ := hasHardwareId_iff.1 hid'
  rw [sameIgnoringCase_iff] at hsame hsame'
  exact hdistinct i hi j hj a b ha hb (sameIgnoringCase_iff.2 (hsame.trans hsame'.symm))

/-- **A node id leads to one machine at most**, whichever way it is written. -/
theorem Denotes.unique (hdistinct : DistinctHardwareIds instances)
    (h : Denotes instances ns nodeId vm) (h' : Denotes instances ns nodeId vm') : vm = vm' := by
  cases h with
  | name hvm =>
    -- Texts that name machines are read as names only, and each is the name of one machine.
    generalize htext : vm.toText = text at h'
    cases h' with
    | name hvm' => exact (hvm.toText_inj hvm').1 htext
    | hardwareId _ hname => exact absurd htext.symm (hname vm hvm)
  | @hardwareId _ i id hne hname hi hns hid hsame =>
    cases h' with
    | name hvm' => exact absurd rfl (hname _ hvm')
    | @hardwareId _ j id' _ _ hj _ hid' hsame' =>
      have hij : i = j := hdistinct.eq hi hj (hasHardwareId_iff.2 ⟨id, hid, hsame⟩)
        (hasHardwareId_iff.2 ⟨id', hid', hsame'⟩)
      rw [hij]

/-- An empty node id leads nowhere. -/
theorem Denotes.ne_empty (h : Denotes instances ns nodeId vm) : nodeId ≠ "" := by
  cases h with
  | name _ => exact vm.toText_ne_empty
  | hardwareId hne _ _ _ _ _ => exact hne

/-! ### Resolving -/

/-- The id of a machine that can be told from its id is resolved without asking for anything. -/
theorem resolveInstance_toText (ns : String) (hvm : vm.WellNamed) :
    resolveInstance ns vm.toText = pure vm := by
  unfold resolveInstance
  rw [if_neg (by simpa using vm.toText_ne_empty), hvm.parse?_toText]

/-- Any other id is looked for among the hardware ids. -/
theorem resolveInstance_of_none (ns : String) (hne : nodeId ≠ "")
    (hparse : InstanceRef.parse? nodeId = none) :
    resolveInstance ns nodeId = findByHardwareId ns nodeId := by
  unfold resolveInstance
  rw [if_neg (by simpa using hne), hparse]

/-- Without the name of a machine, the running machines of the namespace are searched. -/
theorem runOn_resolveInstance_of_none (hne : nodeId ≠ "")
    (hparse : InstanceRef.parse? nodeId = none) :
    runOn step (resolveInstance ns nodeId) s =
      ((((s.instances.filter (·.ns == ns)).find? (hasHardwareId nodeId)).map
          fun i => (⟨i.ns, i.name⟩ : InstanceRef)).elim
        (.error (.notFound "VirtualMachineInstance with firmware uuid" nodeId)) .ok, s) := by
  rw [resolveInstance_of_none ns hne hparse]
  refine (runOn_bind_ok rfl).trans ?_
  cases (s.instances.filter (·.ns == ns)).find? (hasHardwareId nodeId) <;> rfl

/-- A node id that leads to a machine is resolved to one that it leads to. -/
theorem exists_resolved (h : Denotes s.instances ns nodeId vm) :
    ∃ vm, Denotes s.instances ns nodeId vm ∧
      runOn step (resolveInstance ns nodeId) s = (.ok vm, s) := by
  have hne := h.ne_empty
  cases h with
  | name hvm =>
    refine ⟨vm, .name hvm, ?_⟩
    rw [resolveInstance_toText ns hvm]
    rfl
  | @hardwareId _ i id _ hname hi hns hid hsame =>
    have hmem : i ∈ s.instances.filter (·.ns == ns) :=
      List.mem_filter.2 ⟨hi, by rw [hns, beq_self_eq_true]⟩
    have hhas : hasHardwareId nodeId i = true := hasHardwareId_iff.2 ⟨id, hid, hsame⟩
    -- The search finds a machine with the hardware id, this one or another.
    obtain ⟨j, hj⟩ := Option.isSome_iff_exists.1 (List.find?_isSome.2 ⟨i, hmem, hhas⟩)
    obtain ⟨hjmem, hjns⟩ := List.mem_filter.1 (List.mem_of_find?_eq_some hj)
    obtain ⟨id', hid', hsame'⟩ := hasHardwareId_iff.1 (List.find?_some hj)
    refine ⟨_, .hardwareId hne hname hjmem (beq_iff_eq.1 hjns) hid' hsame', ?_⟩
    rw [runOn_resolveInstance_of_none hne (InstanceRef.parse?_eq_none hname), hj]
    rfl

/-- A node id that leads nowhere is reported as missing. -/
theorem runOn_resolveInstance_of_unknown (hne : nodeId ≠ "")
    (h : ∀ vm, ¬ Denotes s.instances ns nodeId vm) :
    ∃ kind name, runOn step (resolveInstance ns nodeId) s = (.error (.notFound kind name), s) := by
  have hname : ∀ vm : InstanceRef, vm.WellNamed → nodeId ≠ vm.toText := by
    rintro vm hvm rfl
    exact h vm (.name hvm)
  have hnone : (s.instances.filter (·.ns == ns)).find? (hasHardwareId nodeId) = none := by
    refine List.find?_eq_none.2 fun i hi hhas => ?_
    obtain ⟨hmem, hns⟩ := List.mem_filter.1 hi
    obtain ⟨id, hid, hsame⟩ := hasHardwareId_iff.1 hhas
    exact h _ (.hardwareId hne hname hmem (beq_iff_eq.1 hns) hid hsame)
  rw [runOn_resolveInstance_of_none hne (InstanceRef.parse?_eq_none hname), hnone]
  exact ⟨_, _, rfl⟩

/-- An empty node id is refused. -/
theorem runOn_resolveInstance_of_empty (ns : String) (s : State) :
    runOn step (resolveInstance ns "") s =
      (.error (.invalidArgument "node id is required"), s) :=
  rfl

/-- **A node id is resolved to a machine that it leads to**, or it is refused for being empty, or
the machine is reported as missing. -/
theorem resolveInstance_cases (s : State) (ns nodeId : String) :
    (∃ vm, Denotes s.instances ns nodeId vm ∧
        runOn step (resolveInstance ns nodeId) s = (.ok vm, s)) ∨
      (∀ vm, ¬ Denotes s.instances ns nodeId vm) ∧
        ∃ e, runOn step (resolveInstance ns nodeId) s = (.error e, s) ∧
          ((nodeId = "" ∧ ∃ text, e = .invalidArgument text) ∨
            (nodeId ≠ "" ∧ ∃ kind name, e = .notFound kind name)) := by
  by_cases hvm : ∃ vm, Denotes s.instances ns nodeId vm
  · obtain ⟨vm, hvm⟩ := hvm
    exact .inl (exists_resolved hvm)
  · rw [not_exists] at hvm
    refine .inr ⟨hvm, ?_⟩
    rcases eq_or_ne nodeId "" with rfl | hne
    · exact ⟨_, runOn_resolveInstance_of_empty ns s, .inl ⟨rfl, _, rfl⟩⟩
    · obtain ⟨kind, name, hmissing⟩ := runOn_resolveInstance_of_unknown hne hvm
      exact ⟨_, hmissing, .inr ⟨hne, kind, name, rfl⟩⟩

/-! ### Disks -/

/-- What is plugged into each machine, for the node ids that name one. -/
def Plugs (ι : Type) : Type :=
  String → Option (Set ι)

namespace Plugs

variable {ι κ : Type}

/-- Changes what is plugged into one machine, if it exists. -/
def change (P : Plugs ι) (vm : InstanceRef) (f : Set ι → Set ι) : Plugs ι :=
  fun m => (P m).map fun S => if m = vm.toText then f S else S

/-- Tells what is plugged in by other names. -/
def preimage (name : ι → κ) (P : Plugs κ) : Plugs ι :=
  fun m => (P m).map (Set.preimage name)

variable {P : Plugs ι} {vm : InstanceRef} {f : Set ι → Set ι} {m : String}

theorem change_apply :
    P.change vm f m = (P m).map fun S => if m = vm.toText then f S else S := rfl

theorem preimage_apply {name : κ → ι} : P.preimage name m = (P m).map (Set.preimage name) := rfl

/-- A change that leaves the machine as it is changes nothing. -/
theorem change_eq_self (h : ∀ S, P vm.toText = some S → f S = S) : P.change vm f = P := by
  funext m
  rw [change_apply]
  cases hm : P m with
  | none => rfl
  | some S =>
    by_cases hvm : m = vm.toText
    · simp [hvm, h S (hvm ▸ hm)]
    · simp [hvm]

/-- To insert what is plugged in already changes nothing. -/
theorem change_insert {S : Set ι} {i : ι} (h : P vm.toText = some S) (hi : i ∈ S) :
    P.change vm (insert i) = P := by
  refine change_eq_self fun S' hS' => Set.insert_eq_of_mem ?_
  rw [h] at hS'
  rwa [← Option.some.inj hS']

/-- To remove what is not plugged in changes nothing. -/
theorem change_remove {S : Set ι} {i : ι} (h : P vm.toText = some S) (hi : i ∉ S) :
    P.change vm (· \ {i}) = P := by
  refine change_eq_self fun S' hS' => Set.sdiff_singleton_eq_self ?_
  rw [h] at hS'
  rwa [← Option.some.inj hS']

/-- A change that names agree on is the same change under either name. -/
theorem preimage_change {name : κ → ι} {g : Set κ → Set κ}
    (h : ∀ S, Set.preimage name (f S) = g (Set.preimage name S)) :
    (P.change vm f).preimage name = (P.preimage name).change vm g := by
  funext m
  rw [preimage_apply, change_apply, change_apply, preimage_apply]
  cases P m with
  | none => rfl
  | some S =>
    by_cases hvm : m = vm.toText
    · simp [hvm, h S]
    · simp [hvm]

end Plugs

/-- The disks of the machines of a cluster. -/
def State.plugs (s : State) : Plugs String :=
  fun m => (s.disks.get? m).map fun disks => {d | d ∈ disks}

variable {a : Attachment} {disk : String} {disks : List String}

/-- Changing the list of disks of a machine changes the set of them. -/
theorem plugs_modify {f : List String → List String} {g : Set String → Set String}
    (h : ∀ disks, {d | d ∈ f disks} = g {d | d ∈ disks}) :
    { s with disks := s.disks.modify vm.toText f }.plugs = s.plugs.change vm g := by
  funext m
  unfold plugs Plugs.change
  rw [Table.get?_modify, Option.map_map, Option.map_map]
  congr 1
  funext disks
  by_cases hvm : m = vm.toText
  · simp [hvm, ← h disks]
  · simp [hvm]

theorem plugs_eq_none_iff {m : String} : s.plugs m = none ↔ s.disks.get? m = none :=
  Option.map_eq_none_iff

theorem plugs_of_some {m : String} (h : s.disks.get? m = some disks) :
    s.plugs m = some {d | d ∈ disks} := by
  unfold plugs
  rw [h]
  rfl

theorem plugs_ne_none {m : String} (h : s.disks.get? m = some disks) : s.plugs m ≠ none := by
  rw [plugs_of_some h]
  exact Option.some_ne_none _

/-- A disk that is added comes after the others of the machine, if that exists. -/
theorem step_addDisk : (step (.addDisk vm a) s).2 =
    { s with disks := s.disks.modify vm.toText (· ++ [a.disk]) } := by
  rw [step]
  split
  · next hnone => rw [Table.modify_of_get?_none hnone]
  · rfl

/-- A disk that is removed is taken from those of the machine, if that exists. -/
theorem step_removeDisk : (step (.removeDisk vm disk) s).2 =
    { s with disks := s.disks.modify vm.toText (·.filter (· != disk)) } := by
  rw [step]
  split
  · next hnone => rw [Table.modify_of_get?_none hnone]
  · rfl

/-- A step that adds or removes a disk changes disks alone. -/
theorem frame_addDisk : (step (.addDisk vm a) s).2 =
    { s with disks := (step (.addDisk vm a) s).2.disks } := by
  rw [step_addDisk]

theorem frame_removeDisk : (step (.removeDisk vm disk) s).2 =
    { s with disks := (step (.removeDisk vm disk) s).2.disks } := by
  rw [step_removeDisk]

/-- To plug a disk in is to insert it. -/
theorem plugs_addDisk : (step (.addDisk vm a) s).2.plugs = s.plugs.change vm (insert a.disk) := by
  rw [step_addDisk]
  refine plugs_modify fun disks => ?_
  ext d
  simp [or_comm]

/-- To unplug a disk is to remove it. -/
theorem plugs_removeDisk :
    (step (.removeDisk vm disk) s).2.plugs = s.plugs.change vm (· \ {disk}) := by
  rw [step_removeDisk]
  refine plugs_modify fun disks => ?_
  ext d
  simp

/-! ### Plugging and unplugging -/

theorem runOn_listDisks_of_some (h : s.disks.get? vm.toText = some disks) :
    runOn step (listDisks vm) s = (.ok disks, s) := by
  change step (.listDisks vm) s = _
  rw [step, h]

theorem runOn_listDisks_of_none (h : s.disks.get? vm.toText = none) :
    runOn step (listDisks vm) s = (.error (noMachine vm), s) := by
  change step (.listDisks vm) s = _
  rw [step, h]

/-- A machine that does not exist takes no disk. -/
theorem attach_of_none (h : s.disks.get? vm.toText = none) :
    courseOn step (attach vm a) s = ((.error (noMachine vm), s), []) :=
  courseOn_bind_error leavesReads_step (.callRead rfl) (runOn_listDisks_of_none h)

/-- A disk that is there is not plugged in again. -/
theorem attach_of_mem (h : s.disks.get? vm.toText = some disks) (hmem : a.disk ∈ disks) :
    courseOn step (attach vm a) s = ((.ok (), s), []) := by
  refine (courseOn_bind_ok leavesReads_step (.callRead rfl) (runOn_listDisks_of_some h)).trans ?_
  rw [if_pos (List.contains_iff_mem.2 hmem)]
  rfl

/-- A disk that is not there is plugged in. -/
theorem attach_of_not_mem (h : s.disks.get? vm.toText = some disks) (hmem : a.disk ∉ disks) :
    courseOn step (attach vm a) s =
      ((.ok (), (step (.addDisk vm a) s).2), [.addDisk vm a]) := by
  refine (courseOn_bind_ok leavesReads_step (.callRead rfl) (runOn_listDisks_of_some h)).trans ?_
  rw [if_neg (by simpa using hmem)]
  have hrun : runOn step (addDisk vm a) s = (.ok (), (step (.addDisk vm a) s).2) := by
    change step (.addDisk vm a) s = _
    rw [step, h]
  unfold courseOn
  rw [hrun]
  rfl

/-- The disks of a machine that does not exist are none. -/
theorem runOn_disksOrNone : runOn step (disksOrNone vm) s =
    (.ok ((s.disks.get? vm.toText).getD []), s) := by
  unfold disksOrNone
  rw [runOn_orMissing]
  cases hdisks : s.disks.get? vm.toText with
  | none =>
    rw [runOn_listDisks_of_none hdisks]
    rfl
  | some disks =>
    rw [runOn_listDisks_of_some hdisks]
    rfl

/-- A disk that is not there, or whose machine does not exist, is left alone. -/
theorem detach_of_not_mem (hmem : disk ∉ (s.disks.get? vm.toText).getD []) :
    courseOn step (detach vm disk) s = ((.ok (), s), []) := by
  have hreads : ReadsOnly (disksOrNone vm).run := .orMissing (.callRead rfl) (.pure [])
  refine (courseOn_bind_ok leavesReads_step hreads runOn_disksOrNone).trans ?_
  rw [if_neg (by simpa using hmem)]
  rfl

/-- A disk that is there is unplugged. -/
theorem detach_of_mem (h : s.disks.get? vm.toText = some disks) (hmem : disk ∈ disks) :
    courseOn step (detach vm disk) s =
      ((.ok (), (step (.removeDisk vm disk) s).2), [.removeDisk vm disk]) := by
  have hreads : ReadsOnly (disksOrNone vm).run := .orMissing (.callRead rfl) (.pure [])
  refine (courseOn_bind_ok leavesReads_step hreads runOn_disksOrNone).trans ?_
  rw [h, Option.getD_some, if_pos (List.contains_iff_mem.2 hmem)]
  have hrun : runOn step (removeDisk vm disk) s = (.ok (), (step (.removeDisk vm disk) s).2) := by
    change step (.removeDisk vm disk) s = _
    rw [step, h]
  unfold courseOn
  rw [hrun]
  rfl

end Cluster

end Hotplug
