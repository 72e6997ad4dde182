import Hotplug.Proofs.Controller.Create

/-!
# Volumes comply with the policy

The policy on storage classes is applied before a volume is made, and nothing else makes volumes. So
whatever the controller is asked, and in whatever order, there is never a volume in a storage class
that the policy does not allow.

## Main definitions

* `Complies policy σ v` — the volume `v` is in a storage class that the policy allows.
* `Compliant policy σ` — every volume of the cluster is.

## Main results

* `compliant_serve`, `compliant_after` — a call, and so a run of calls, keeps a cluster compliant.
* `policy_enforced` — **every run is compliant, and a request that is denied does nothing.**
-/

namespace Hotplug.Controller

variable {s : Settings} {σ σ' : Cluster.State} {policy : Policy}

/-- A volume is in a storage class that the policy allows: in one that it records, be this the
cluster's default or not, or else in the cluster's default. -/
def Complies (policy : Policy) (σ : Cluster.State) (v : RemoteVolume) : Prop :=
  match v.storageClass with
  | some storageClass => policy.isAllowed storageClass (σ.defaultFlag storageClass) = true
  | none => policy.isAllowed "" true = true

/-- Every volume of a cluster is in a storage class that the policy allows. -/
def Compliant (policy : Policy) (σ : Cluster.State) : Prop :=
  ∀ v ∈ σ.volumes, Complies policy σ v

/-- Whether a volume complies depends on the storage classes of the cluster alone. -/
theorem Complies.of_storageClasses {v : RemoteVolume} (hσ : σ'.storageClasses = σ.storageClasses)
    (h : Complies policy σ v) : Complies policy σ' v := by
  unfold Complies Cluster.State.defaultFlag at h ⊢
  rwa [hσ]

/-- The volume that an admitted request asks for complies. A request without a storage class makes
a volume that records none, and has been checked as one for the default. -/
theorem complies_of_admitted {r : CreateVolume} {p : Plan} {source : VolumeSource}
    (h : Admitted s r σ p source) :
    Complies s.policy σ (σ.newVolume s.ns (wanted s r p source)) := by
  have hallowed := h.allowed
  have hclass : (σ.newVolume s.ns (wanted s r p source)).storageClass =
      nonEmpty? (some p.storageClass) := rfl
  unfold Complies
  rw [hclass]
  unfold Cluster.State.isDefaultClass at hallowed
  -- The empty name is the only one that is not recorded, and it counts as the default.
  cases hempty : p.storageClass.isEmpty with
  | true =>
    have hblank : p.storageClass = "" := by simpa using hempty
    rw [hblank] at hallowed ⊢
    exact hallowed
  | false =>
    rw [hempty] at hallowed
    simpa [nonEmpty?, Option.filter, hempty] using hallowed

/-- A call keeps a cluster compliant. -/
theorem compliant_serve {c : Call} (h : Compliant s.policy σ) :
    Compliant s.policy (serve s c σ).2 := by
  intro v hv
  refine Complies.of_storageClasses storageClasses_serve ?_
  rcases mem_volumes_serve hv with hold | ⟨r, p, source, -, hadmitted, rfl⟩
  · exact h v hold
  · exact complies_of_admitted hadmitted

/-- A run of calls keeps a cluster compliant. -/
theorem compliant_after {calls : List Call} (h : Compliant s.policy σ) :
    Compliant s.policy (after s calls σ) :=
  after_induction (fun _ _ _ => compliant_serve) h

/-- **Every run is compliant, and a request that is denied does nothing.** From a cluster without
volumes, any calls lead to one in which every volume is in a storage class that the policy allows.
And a request for a volume whose arguments pass but whose storage class the policy denies is
answered so, on any cluster, and has asked for that storage class at most. -/
theorem policy_enforced (s : Settings) :
    (∀ σ calls, σ.volumes = [] → Compliant s.policy (after s calls σ)) ∧
      ∀ σ now r, Checked r →
        s.policy.isAllowed (storageClassOf r) (σ.isDefaultClass (storageClassOf r)) = false →
        (∃ m, serve s ⟨now, .createVolume r⟩ σ = (.error ⟨.permissionDenied, m⟩, σ)) ∧
          (asks s ⟨now, .createVolume r⟩ σ = [] ∨
            asks s ⟨now, .createVolume r⟩ σ = [.getStorageClass (storageClassOf r)]) := by
  constructor
  · intro σ calls hnone
    refine compliant_after fun v hv => ?_
    rw [hnone] at hv
    exact absurd hv List.not_mem_nil
  · intro σ now r hchecked hdenied
    obtain ⟨p, hplan, hclass⟩ := exists_plan hchecked
    rw [← hclass] at hdenied ⊢
    obtain ⟨⟨m, hrun⟩, hasked⟩ := runOn_create_of_denied hplan hdenied
    rw [asks_createVolume, serve_createVolume, hrun]
    exact ⟨⟨_, rfl⟩, hasked⟩

/-- A controller whose tenants may use the default storage class alone. -/
def defaultOnly : Settings := { ns := "infra", policy := { allowDefault := true } }

/-- A cluster with a default storage class and another one. -/
def twoClasses : Cluster.State where
  storageClasses := [⟨"gold", "disks", true⟩, ⟨"silver", "disks", false⟩]

/-- A request for a volume in a storage class. -/
def orderIn (name storageClass : String) : CreateVolume where
  name := name
  capacity := some { required := 1024 }
  capabilities := [{ access := some .block, mode := some 1 }]
  parameters := Table.ofList [(storageClassParameter, storageClass)]

/-- A volume in the default class is made and complies, and one in the other class is refused. -/
theorem policy_enforced_defaultOnly :
    twoClasses.volumes = [] ∧ Checked (orderIn "b" "silver") ∧
      (after defaultOnly [⟨⟨0, 0⟩, .createVolume (orderIn "a" "gold")⟩] twoClasses).volumes.map
        (·.storageClass) = [some "gold"] ∧
      Compliant defaultOnly.policy
        (after defaultOnly [⟨⟨0, 0⟩, .createVolume (orderIn "a" "gold")⟩] twoClasses) ∧
      ∃ m, serve defaultOnly ⟨⟨0, 0⟩, .createVolume (orderIn "b" "silver")⟩ twoClasses =
        (.error ⟨.permissionDenied, m⟩, twoClasses) := by
  have hchecked : Checked (orderIn "b" "silver") := by
    refine ⟨by decide, by decide, by decide, rfl⟩
  refine ⟨rfl, hchecked, rfl, ?_, ?_⟩
  · exact (policy_enforced defaultOnly).1 twoClasses _ rfl
  · exact ((policy_enforced defaultOnly).2 twoClasses ⟨0, 0⟩ _ hchecked (by decide)).1

end Hotplug.Controller
