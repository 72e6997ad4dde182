import Hotplug.Error
import Hotplug.Table
import Hotplug.Text.Cut

/-!
# Instances: the virtual machines behind tenant nodes

A tenant node is a virtual machine of the infra cluster, named by its namespace and its name. The
node plugin publishes that name as the node's id, and the controller reads it back.

## Main definitions

* `InstanceRef` — a virtual machine's namespace and name; `toText` prints it, `parse?` reads it.
* `nodeIdentity` — the virtual machine behind a node, from its provider id and annotations.
-/

namespace Hotplug

/-- A virtual machine of the infra cluster. -/
structure InstanceRef where
  /-- The namespace it is in. -/
  ns : String
  /-- Its name there. -/
  name : String
  deriving DecidableEq, Repr, Inhabited

namespace InstanceRef

/-- The node id of an instance. -/
def toText (r : InstanceRef) : String :=
  r.ns ++ "/" ++ r.name

/-- Reads a node id: two parts around one slash, neither empty. -/
def parse? (nodeId : String) : Option InstanceRef :=
  match Text.cut? '/' nodeId with
  | none => none
  | some (ns, name) =>
    if ns.isEmpty || name.isEmpty || name.toList.contains '/' then none
    else some ⟨ns, name⟩

/-- A namespace and a name that a node id can tell apart. -/
structure WellNamed (r : InstanceRef) : Prop where
  ns_ne : r.ns ≠ ""
  ns_slash : '/' ∉ r.ns.toList
  name_ne : r.name ≠ ""
  name_slash : '/' ∉ r.name.toList

theorem toText_toList (r : InstanceRef) :
    r.toText.toList = r.ns.toList ++ '/' :: r.name.toList := by
  unfold toText
  rw [String.toList_append, String.toList_append, List.append_assoc]
  rfl

/-- **A node id is read back as the instance that it was printed for**, and nothing else is read as
an instance. -/
theorem parse?_eq_some_iff {nodeId : String} {r : InstanceRef} :
    parse? nodeId = some r ↔ nodeId = r.toText ∧ r.WellNamed := by
  unfold parse?
  constructor
  · intro h
    split at h
    · cases h
    · next ns name hcut =>
      obtain ⟨htext, hslash⟩ := Text.cut?_eq_some_iff.1 hcut
      split at h
      · cases h
      · next hgood =>
        obtain rfl := Option.some.inj h
        simp only [Bool.or_eq_true, String.isEmpty_iff, List.contains_iff_mem, not_or] at hgood
        obtain ⟨⟨hns, hname⟩, hslash'⟩ := hgood
        exact ⟨String.toList_inj.1 (htext.trans (toText_toList ⟨ns, name⟩).symm),
          hns, hslash, hname, hslash'⟩
  · rintro ⟨rfl, hns, hslash, hname, hslash'⟩
    have hcut : Text.cut? '/' r.toText = some (r.ns, r.name) :=
      Text.cut?_eq_some_iff.2 ⟨toText_toList r, hslash⟩
    simp [hcut, hns, hname, hslash']

end InstanceRef

/-- How a provider id that names a virtual machine begins. -/
def providerScheme : String := "kubevirt://"

/-- The annotation with the namespace of the cluster's machines. -/
def clusterNamespaceAnnotation : String := "cluster.x-k8s.io/cluster-namespace"

/-- The annotation that names the virtual machine outright. -/
def vmNameAnnotation : String := "csi.kubevirt.io/infra-vm-name"

/-- The annotation with the namespace of the virtual machine named outright. -/
def vmNamespaceAnnotation : String := "csi.kubevirt.io/infra-vm-namespace"

/-- A value that counts only when it is there and not empty. -/
def nonEmpty? (value : Option String) : Option String :=
  value.filter (fun v => !v.isEmpty)

/-- The instance named by a provider id and the cluster's namespace. -/
def identityFromProvider? (providerId : Option String) (annotations : Table String) :
    Option InstanceRef := do
  let name ← nonEmpty? (providerId.bind (Text.after? providerScheme))
  let ns ← nonEmpty? (annotations.get? clusterNamespaceAnnotation)
  return ⟨ns, name⟩

/-- The instance named outright by the two annotations. -/
def identityFromAnnotations? (annotations : Table String) : Option InstanceRef := do
  let name ← nonEmpty? (annotations.get? vmNameAnnotation)
  let ns ← nonEmpty? (annotations.get? vmNamespaceAnnotation)
  return ⟨ns, name⟩

/-- The virtual machine behind a node. The provider id wins over the annotations. -/
def nodeIdentity (providerId : Option String) (annotations : Table String) :
    Except DriverError InstanceRef :=
  match identityFromProvider? providerId annotations with
  | some r => .ok r
  | none =>
    match identityFromAnnotations? annotations with
    | some r => .ok r
    | none => .error (.failedPrecondition
        ("unable to determine the infra VM for this node: set annotations " ++ vmNameAnnotation ++
          " and " ++ vmNamespaceAnnotation ++ " on the node (or a " ++ providerScheme ++
          "<vm-name> provider ID with the " ++ clusterNamespaceAnnotation ++
          " annotation), then restart the node plugin"))

end Hotplug
