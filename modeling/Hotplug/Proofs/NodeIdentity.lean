import Hotplug.Proofs.Cluster.Machine

/-!
# The id that a node publishes, and what it is resolved to

A node learns from its provider id and its annotations which virtual machine it is, and publishes
the namespace and the name of that machine around a slash. The controller reads the two back, if
there is no other slash. Nothing on the side of the node sees to that: a text with a slash of its
own is published as it is, and then the whole id is taken for a hardware id.

## Main results

* `nodeIdentity_ne` — neither part of what a node publishes is empty.
* `nodeIdentity_resolved_iff` — **exactly when a published id leads back to its machine.**
* `nodeIdentity_slash_not_resolved` — one that does not.
-/

namespace Hotplug

variable {r : InstanceRef} {providerId : Option String} {annotations : Table String}

/-! ### What is published -/

theorem nonEmpty?_eq_some_iff {value : Option String} {text : String} :
    nonEmpty? value = some text ↔ value = some text ∧ text ≠ "" := by
  unfold nonEmpty?
  rw [Option.filter_eq_some_iff]
  simp

/-- Two texts that count only where they are not empty make a machine with neither part empty. -/
theorem ne_of_nonEmpty? {first second : Option String}
    (h : (do
      let name ← nonEmpty? first
      let ns ← nonEmpty? second
      return (⟨ns, name⟩ : InstanceRef)) = some r) : r.ns ≠ "" ∧ r.name ≠ "" := by
  obtain ⟨name, hname, hrest⟩ := Option.bind_eq_some_iff.1 h
  obtain ⟨ns, hns, hr⟩ := Option.bind_eq_some_iff.1 hrest
  obtain rfl := Option.some.inj hr
  exact ⟨(nonEmpty?_eq_some_iff.1 hns).2, (nonEmpty?_eq_some_iff.1 hname).2⟩

/-- Neither part of what a node publishes is empty. -/
theorem nodeIdentity_ne (h : nodeIdentity providerId annotations = .ok r) :
    r.ns ≠ "" ∧ r.name ≠ "" := by
  unfold nodeIdentity at h
  split at h
  · next hprovider =>
    cases h
    exact ne_of_nonEmpty? hprovider
  · split at h
    · next hannotated =>
      cases h
      exact ne_of_nonEmpty? hannotated
    · cases h

/-! ### What it is resolved to -/

open Cluster

section Resolving

variable {σ : Type} (h : Handler Cluster.interface σ) (c : σ) (infraNs : String)

/-- An id with another slash is looked for among the hardware ids. -/
theorem resolveInstance_toText_of_slash (hr : '/' ∈ r.ns.toList ∨ '/' ∈ r.name.toList) :
    resolveInstance infraNs r.toText = findByHardwareId infraNs r.toText :=
  resolveInstance_of_none infraNs r.toText_ne_empty (InstanceRef.parse?_toText_of_slash hr)

/-- To look for a hardware id is to ask for the running machines, and nothing else. -/
theorem askedOn_findByHardwareId (hardwareId : String) :
    askedOn h (findByHardwareId infraNs hardwareId) c = [.listInstances infraNs] := by
  unfold findByHardwareId
  have hlist : runOn h (listInstances infraNs) c = h (.listInstances infraNs) c := rfl
  have hasked : askedOn h (listInstances infraNs) c = [.listInstances infraNs] := rfl
  rcases hanswer : h (.listInstances infraNs) c with ⟨x, c'⟩
  rw [hanswer] at hlist
  cases x with
  | error e => rw [askedOn_bind_error hlist, hasked]
  | ok listed =>
    rw [askedOn_bind_ok hlist, hasked]
    cases listed.find? (hasHardwareId hardwareId) <;> rfl

/-- The first of the running machines that has the hardware id is found. -/
theorem runOn_findByHardwareId {hardwareId : String} {listed : List Instance}
    (hlisted : (h (.listInstances infraNs) c).1 = .ok listed) :
    (runOn h (findByHardwareId infraNs hardwareId) c).1 =
      match listed.find? (hasHardwareId hardwareId) with
      | some i => .ok ⟨i.ns, i.name⟩
      | none => .error (.notFound "VirtualMachineInstance with firmware uuid" hardwareId) := by
  have hlist : runOn h (listInstances infraNs) c = (.ok listed, (h (.listInstances infraNs) c).2) :=
    Prod.ext hlisted rfl
  unfold findByHardwareId
  rw [runOn_bind_ok hlist]
  cases listed.find? (hasHardwareId hardwareId) <;> rfl

end Resolving

/-- **Exactly when a published id leads back to its machine.** On every cluster the id that a node
publishes is resolved to the machine it was published for, and without listing any machines, if and
only if neither the namespace nor the name has a slash. Otherwise the running machines are listed,
and the id is resolved to the first that has it as its hardware id, or is reported as missing. -/
theorem nodeIdentity_resolved_iff (hpublished : nodeIdentity providerId annotations = .ok r)
    (infraNs : String) {σ : Type} (h : Handler Cluster.interface σ) (c : σ) :
    (runOn h (resolveInstance infraNs r.toText) c = (.ok r, c) ∧
        askedOn h (resolveInstance infraNs r.toText) c = [] ↔
      '/' ∉ r.ns.toList ∧ '/' ∉ r.name.toList) ∧
    (¬ ('/' ∉ r.ns.toList ∧ '/' ∉ r.name.toList) →
      askedOn h (resolveInstance infraNs r.toText) c = [.listInstances infraNs] ∧
        ∀ listed, (h (.listInstances infraNs) c).1 = .ok listed →
          (runOn h (resolveInstance infraNs r.toText) c).1 =
            match listed.find? (hasHardwareId r.toText) with
            | some i => .ok ⟨i.ns, i.name⟩
            | none => .error (.notFound "VirtualMachineInstance with firmware uuid" r.toText)) := by
  obtain ⟨hns, hname⟩ := nodeIdentity_ne hpublished
  by_cases hslash : '/' ∉ r.ns.toList ∧ '/' ∉ r.name.toList
  · have hr : r.WellNamed := ⟨hns, hslash.1, hname, hslash.2⟩
    rw [resolveInstance_toText infraNs hr]
    exact ⟨iff_of_true ⟨runOn_pure h c r, askedOn_pure h c r⟩ hslash, fun hno => absurd hslash hno⟩
  · have hr : '/' ∈ r.ns.toList ∨ '/' ∈ r.name.toList := by
      simpa only [not_and_or, not_not] using hslash
    rw [resolveInstance_toText_of_slash infraNs hr]
    have hasked := askedOn_findByHardwareId h c infraNs r.toText
    refine ⟨iff_of_false ?_ hslash, fun _ => ⟨hasked, fun listed hlisted => ?_⟩⟩
    · rintro ⟨-, hnothing⟩
      rw [hasked] at hnothing
      exact absurd hnothing (List.cons_ne_nil _ _)
    · exact runOn_findByHardwareId h c infraNs hlisted

/-- The annotation with the namespace of the machines. -/
def providerAnnotations : Table String :=
  Table.ofList [( clusterNamespaceAnnotation, "tenants")]

/-- The machine that a provider id names is found again by its id. -/
theorem nodeIdentity_resolved_iff_provider :
    nodeIdentity (some "kubevirt://vm-1") providerAnnotations = .ok ⟨"tenants", "vm-1"⟩ ∧
      runOn step (resolveInstance "infra" "tenants/vm-1") {} = (.ok ⟨"tenants", "vm-1"⟩, {}) ∧
      askedOn step (resolveInstance "infra" "tenants/vm-1") {} = [] := by
  have hpublished : nodeIdentity (some "kubevirt://vm-1") providerAnnotations =
      .ok ⟨"tenants", "vm-1"⟩ := rfl
  obtain ⟨hiff, -⟩ := nodeIdentity_resolved_iff hpublished "infra" step {}
  exact ⟨hpublished, hiff.2 (by decide)⟩

/-- **Not every published id is resolved.** The machine of a provider id with two parts is
published, but its id is taken for a hardware id, and no machine has it. -/
theorem nodeIdentity_slash_not_resolved :
    nodeIdentity (some "kubevirt://team/vm-1") providerAnnotations =
        .ok ⟨"tenants", "team/vm-1"⟩ ∧
      askedOn step (resolveInstance "infra" (InstanceRef.toText ⟨"tenants", "team/vm-1"⟩)) {} =
        [.listInstances "infra"] ∧
      (runOn step (resolveInstance "infra" (InstanceRef.toText ⟨"tenants", "team/vm-1"⟩)) {}).1 =
        .error (.notFound "VirtualMachineInstance with firmware uuid" "tenants/team/vm-1") := by
  refine ⟨?_, ?_, ?_⟩
  · rfl
  · rfl
  · rfl

end Hotplug
