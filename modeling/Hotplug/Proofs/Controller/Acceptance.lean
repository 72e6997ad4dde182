import Hotplug.Proofs.Controller.Retry
import Hotplug.Proofs.NodeIdentity

/-!
# Which requests for a volume are served

A request for a volume passes many checks, and each may find the arguments missing, empty or wrong.
All of them together are one condition on the request, the settings and the cluster. Where it holds
the request is served, with the volume that is there or else a new one; where it does not, nothing
happens.

## Main definitions

* `Fits s r v` — a volume is one that a request asks for.
* `Acceptable s r σ` — all that a request has to fulfil.
* `delivery r v`, `madeVolume s r σ` — the answer with a volume, and the volume that is made.

## Main results

* `unsupported?_eq_none_iff`, `isOk_busOf_iff` — what the single checks are.
* `acceptable_iff` — the condition in terms of the stations that a request passes.
* `createVolume_served_iff` — **which requests are served, and what becomes of them.**
-/

namespace Hotplug

/-! ### Uses -/

namespace Capability

theorem problem?_eq_none_iff {c : Capability} :
    c.problem? = none ↔ c.access.isSome = true ∧ c.accessMode.isSingleNode = true := by
  unfold problem?
  cases c.access with
  | none => simp
  | some access => cases c.accessMode.isSingleNode <;> simp

/-- Uses can be served if there are any, each is of one of the two kinds, and each is by one
node. -/
theorem unsupported?_eq_none_iff {cs : List Capability} :
    unsupported? cs = none ↔ cs ≠ [] ∧
      ∀ c ∈ cs, c.access.isSome = true ∧ c.accessMode.isSingleNode = true := by
  unfold unsupported?
  cases cs with
  | nil => simp
  | cons c rest => simp [List.findSome?_eq_none_iff, problem?_eq_none_iff]

end Capability

namespace Controller

variable {s : Settings} {r : CreateVolume} {σ σ' : Cluster.State} {p : Plan}
  {source : VolumeSource} {v : RemoteVolume}

/-! ### The bus -/

/-- There is such a bus if the parameter is absent, empty or the name of a bus. -/
theorem isOk_busOf_iff : (busOf busParameter r.parameters).isOk = true ↔
    ∀ text, r.parameters.get? busParameter = some text → text ∈ ["", "scsi", "virtio", "sata"] := by
  have hok : (busOf busParameter r.parameters).isOk = true ↔
      ∃ bus : Bus, requestedBus r = bus.name := by
    simp only [← busOf_eq_ok_iff]
    exact isOk_iff_exists
  have hname : ∀ text, (∃ bus : Bus, text = bus.name) ↔ text ∈ ["scsi", "virtio", "sata"] := by
    intro text
    constructor
    · rintro ⟨bus, rfl⟩
      cases bus <;> decide
    · intro h
      simp only [List.mem_cons, List.not_mem_nil, or_false] at h
      rcases h with h | h | h
      · exact ⟨.scsi, h⟩
      · exact ⟨.virtio, h⟩
      · exact ⟨.sata, h⟩
  rw [hok, hname, requestedBus]
  cases r.parameters.get? busParameter with
  | none => exact iff_of_true (by decide) nofun
  | some text => by_cases hempty : text = "" <;> simp [nonEmpty?, Option.filter, hempty, Bus.name]

/-! ### The source -/

theorem orElse_self (ns : String) : VolumeSource.orElse ns ns = ns := by
  unfold VolumeSource.orElse
  split <;> rfl

/-- The source that is asked for is in the namespace of the volumes. -/
theorem orNamespace_requestedSource (s : Settings) (r : CreateVolume) :
    (requestedSource s r).orNamespace s.ns = requestedSource s r := by
  unfold requestedSource
  cases r.source.bind (·.origin) with
  | none => rfl
  | some origin => cases origin <;> simp [VolumeSource.orNamespace, orElse_self]

/-! ### The volume -/

/-- A volume is one that a request asks for: it has the size, the storage class, where one is asked
for, and the source, which is in the namespace of the volumes where it is in none. -/
structure Fits (s : Settings) (r : CreateVolume) (v : RemoteVolume) : Prop where
  size : v.size = requestedSize r
  storageClass : storageClassOf r = "" ∨ v.storageClass = some (storageClassOf r)
  source : v.source.orNamespace s.ns = requestedSource s r

theorem Admitted.storageClass (h : Admitted s r σ p source) : p.storageClass = storageClassOf r :=
  (plan_eq_ok_iff.1 h.planned).2.2.2

theorem Admitted.source_eq (h : Admitted s r σ p source) : source = requestedSource s r :=
  (sourceOf_eq_ok_iff.1 h.named).2

/-- The volume of the name that is wanted is used if it is one that is asked for. -/
theorem reuse_wanted_iff (h : Admitted s r σ p source) (hv : σ.volume? s.ns r.name = some v) :
    Cluster.reuse s.ns (wanted s r p source) v = .ok v ↔ Fits s r v := by
  obtain ⟨-, hns, -⟩ := Cluster.State.volume?_eq_some hv
  have hsize : p.size = requestedSize r := (plan_eq_ok_iff.1 h.planned).2.1
  have hclass : (nonEmpty? (some p.storageClass) = none ∨
      v.storageClass = nonEmpty? (some p.storageClass)) ↔
        (storageClassOf r = "" ∨ v.storageClass = some (storageClassOf r)) := by
    rw [h.storageClass]
    by_cases hempty : storageClassOf r = ""
    · simp [nonEmpty?, hempty]
    · simp [nonEmpty?, Option.filter, hempty]
  rw [Cluster.reuse_eq_ok_iff, hns, orElse_self]
  simp only [wanted, hsize, hclass, h.source_eq, orNamespace_requestedSource, true_and]
  exact ⟨fun ⟨hs, hc, hsource⟩ => ⟨hs, hc, hsource⟩, fun hfits => ⟨hfits.size, hfits.storageClass,
    hfits.source⟩⟩

/-! ### The condition -/

/-- All that a request for a volume has to fulfil to be served. -/
structure Acceptable (s : Settings) (r : CreateVolume) (σ : Cluster.State) : Prop where
  name : r.name ≠ ""
  capabilities : r.capabilities ≠ []
  uses : ∀ c ∈ r.capabilities, c.access.isSome = true ∧ c.accessMode.isSingleNode = true
  size : 0 < requestedSize r
  bus : ∀ text, r.parameters.get? busParameter = some text →
    text ∈ ["", "scsi", "virtio", "sata"]
  allowed : s.policy.isAllowed (storageClassOf r) (σ.isDefaultClass (storageClassOf r)) = true
  named : SourceNamed r
  source : SourceExists s r σ
  existing : ∀ v, σ.volume? s.ns r.name = some v → Fits s r v

/-- **The condition in terms of the stations that a request passes**: it is admitted, its source
exists, and the volume of its name, if there is one, is one that it asks for. -/
theorem acceptable_iff : Acceptable s r σ ↔ ∃ p source, Admitted s r σ p source ∧
    σ.hasSource source = true ∧ ∀ v, σ.volume? s.ns r.name = some v → Fits s r v := by
  constructor
  · intro h
    have hchecked : Checked r := ⟨h.name, Capability.unsupported?_eq_none_iff.2
      ⟨h.capabilities, h.uses⟩, h.size, isOk_busOf_iff.2 h.bus⟩
    obtain ⟨p, hplan, hclass⟩ := exists_plan hchecked
    have hsource : sourceOf s r.source = .ok (requestedSource s r) :=
      sourceOf_eq_ok_iff.2 ⟨h.named, rfl⟩
    refine ⟨p, requestedSource s r, ⟨hplan, ?_, hsource⟩, (sourceExists_iff hsource).1 h.source,
      h.existing⟩
    rw [hclass]
    exact h.allowed
  · rintro ⟨p, source, hadmitted, hsource, hexisting⟩
    have hchecked := checked_of_plan hadmitted.planned
    obtain ⟨hcapabilities, huses⟩ := Capability.unsupported?_eq_none_iff.1 hchecked.capabilities
    have hallowed := hadmitted.allowed
    rw [hadmitted.storageClass] at hallowed
    exact ⟨hchecked.name, hcapabilities, huses, hchecked.size, isOk_busOf_iff.1 hchecked.bus,
      hallowed, (sourceOf_eq_ok_iff.1 hadmitted.named).1,
      (sourceExists_iff hadmitted.named).2 hsource, hexisting⟩

/-! ### The outcome -/

/-- The answer to a request with a volume. -/
def delivery (r : CreateVolume) (v : RemoteVolume) : Volume :=
  { capacity := v.size
    id := r.name
    context := Table.ofList [(busKey, requestedBus r), (serialKey, v.uid)]
    source := r.source }

/-- The volume that is made for a request as the next one of a cluster. -/
def madeVolume (s : Settings) (r : CreateVolume) (σ : Cluster.State) : RemoteVolume :=
  { name := r.name
    ns := s.ns
    uid := "uid-" ++ Digits.text (σ.created + 1 : Nat)
    storageClass := nonEmpty? (some (storageClassOf r))
    size := requestedSize r
    labels := s.labels
    source := requestedSource s r }

theorem volumeReply_eq_delivery (h : Admitted s r σ p source) (hname : v.name = r.name)
    (hsize : v.size = requestedSize r) : volumeReply r p v = delivery r v := by
  obtain ⟨-, hplanned, hbus, -⟩ := plan_eq_ok_iff.1 h.planned
  unfold volumeReply delivery contextOf
  rw [hname, hsize, hplanned, busOf_eq_ok_iff.1 hbus]

section Served

variable (now : Instant)

/-- An admitted request is answered with the volume of its name, where that is one it asks for. -/
theorem serve_of_fits (h : Admitted s r σ p source) (hsource : σ.hasSource source = true)
    (hv : σ.volume? s.ns r.name = some v) (hfits : Fits s r v) :
    serve s ⟨now, .createVolume r⟩ σ = (.ok { response := .volume (delivery r v) }, σ) := by
  obtain ⟨-, -, hname⟩ := Cluster.State.volume?_eq_some hv
  rw [serve_createVolume, runOn_create_of_hasSource h hsource,
    Cluster.runOn_ensureVolume_of_some hv, (reuse_wanted_iff h hv).2 hfits,
    ← volumeReply_eq_delivery h hname hfits.size]
  rfl

/-- It fails where the volume of its name is another. -/
theorem serve_of_not_fits (h : Admitted s r σ p source) (hsource : σ.hasSource source = true)
    (hv : σ.volume? s.ns r.name = some v) (hfits : ¬ Fits s r v) :
    ∃ status, serve s ⟨now, .createVolume r⟩ σ = (.error status, σ) := by
  rw [serve_createVolume, runOn_create_of_hasSource h hsource,
    Cluster.runOn_ensureVolume_of_some hv]
  cases hreuse : Cluster.reuse s.ns (wanted s r p source) v with
  | error e => exact ⟨e.status, rfl⟩
  | ok v' =>
    obtain rfl := Cluster.reuse_eq_ok hreuse
    exact absurd ((reuse_wanted_iff h hv).1 hreuse) hfits

/-- Where there is no volume of its name, that is made. -/
theorem serve_of_none (h : Admitted s r σ p source) (hsource : σ.hasSource source = true)
    (hnone : σ.volume? s.ns r.name = none) :
    serve s ⟨now, .createVolume r⟩ σ =
      (.ok { response := .volume (delivery r (madeVolume s r σ)) },
        { σ with volumes := σ.volumes ++ [madeVolume s r σ], created := σ.created + 1 }) := by
  have hmade : σ.newVolume s.ns (wanted s r p source) = madeVolume s r σ := by
    obtain ⟨-, hsize, -, hclass⟩ := plan_eq_ok_iff.1 h.planned
    unfold Cluster.State.newVolume wanted madeVolume
    rw [hsize, hclass, h.source_eq]
  rw [serve_createVolume, runOn_create_of_hasSource h hsource,
    Cluster.runOn_ensureVolume_of_none hnone, hmade,
    ← volumeReply_eq_delivery h (v := madeVolume s r σ) rfl rfl]
  rfl

end Served

/-- **Which requests for a volume are served, and what becomes of them.** A request is served
exactly if it is acceptable. If it is not, it fails and nothing changes. If it is, it is answered
with a volume of its name that is one it asks for. Either that volume was there, and nothing
changes, or there was none of the name, and the one change is that it is made, with all that was
asked for. -/
theorem createVolume_served_iff (s : Settings) (r : CreateVolume) (now : Instant)
    (σ : Cluster.State) :
    ((serve s ⟨now, .createVolume r⟩ σ).1.isOk = true ↔ Acceptable s r σ) ∧
      ((∃ status, serve s ⟨now, .createVolume r⟩ σ = (.error status, σ)) ∨
        (∃ v, σ.volume? s.ns r.name = some v ∧ Fits s r v ∧
          serve s ⟨now, .createVolume r⟩ σ = (.ok { response := .volume (delivery r v) }, σ)) ∨
        σ.volume? s.ns r.name = none ∧
          serve s ⟨now, .createVolume r⟩ σ =
            (.ok { response := .volume (delivery r (madeVolume s r σ)) },
              { σ with
                volumes := σ.volumes ++ [madeVolume s r σ], created := σ.created + 1 })) := by
  rw [acceptable_iff]
  rcases create_cases s r σ with ⟨e, hrun⟩ | ⟨p, source, hadmitted, hsource⟩
  · have hserve : serve s ⟨now, .createVolume r⟩ σ = (.error e.status, σ) := by
      rw [serve_createVolume, hrun]
      rfl
    refine ⟨iff_of_false (by rw [hserve]; nofun) ?_, .inl ⟨_, hserve⟩⟩
    -- If it were acceptable it would have been served.
    rintro ⟨p, source, hadmitted, hsource, hexisting⟩
    cases hv : σ.volume? s.ns r.name with
    | some v =>
      rw [serve_of_fits now hadmitted hsource hv (hexisting v hv)] at hserve
      cases hserve
    | none =>
      rw [serve_of_none now hadmitted hsource hv] at hserve
      cases hserve
  · cases hv : σ.volume? s.ns r.name with
    | none =>
      have hserve := serve_of_none now hadmitted hsource hv
      rw [hserve]
      exact ⟨iff_of_true rfl ⟨p, source, hadmitted, hsource, nofun⟩, .inr (.inr ⟨rfl, rfl⟩)⟩
    | some v =>
      by_cases hfits : Fits s r v
      · have hserve := serve_of_fits now hadmitted hsource hv hfits
        rw [hserve]
        refine ⟨iff_of_true rfl ⟨p, source, hadmitted, hsource, ?_⟩,
          .inr (.inl ⟨v, rfl, hfits, rfl⟩)⟩
        rintro v' ⟨⟩
        exact hfits
      · obtain ⟨status, hserve⟩ := serve_of_not_fits now hadmitted hsource hv hfits
        rw [hserve]
        refine ⟨iff_of_false nofun ?_, .inl ⟨status, rfl⟩⟩
        rintro ⟨-, -, -, -, hexisting⟩
        exact hfits (hexisting v rfl)

/-- A request for a volume of a range of sizes. -/
def sizedFor (required limit : Int) : CreateVolume where
  name := "a"
  capacity := some { required, limit }
  capabilities := [{ access := some .block, mode := some 1 }]

/-- The answer to it with a size. -/
def madeWith (capacity : Int) : Outcome Response where
  response := .volume
    { capacity, id := "a", context := Table.ofList [("bus", "scsi"), ("serial", "uid-1")],
      source := none }

/-- On a cluster without volumes 10 bytes are served where they are required, 5 where none are
required and that is the limit, and nothing where there is no limit either. -/
theorem createVolume_served_ranges :
    (∃ σ, serve infra ⟨⟨0, 0⟩, .createVolume (sizedFor 10 0)⟩ {} = (.ok (madeWith 10), σ) ∧
      σ.volumes.map (·.size) = [10]) ∧
    (∃ σ, serve infra ⟨⟨0, 0⟩, .createVolume (sizedFor 0 5)⟩ {} = (.ok (madeWith 5), σ) ∧
      σ.volumes.map (·.size) = [5]) ∧
    ∃ status, serve infra ⟨⟨0, 0⟩, .createVolume (sizedFor 0 0)⟩ {} = (.error status, {}) := by
  -- All but the size of the request is as it should be.
  have hserved : ∀ required limit, 0 < requestedSize (sizedFor required limit) →
      ∃ σ, serve infra ⟨⟨0, 0⟩, .createVolume (sizedFor required limit)⟩ {} =
          (.ok (madeWith (requestedSize (sizedFor required limit))), σ) ∧
        σ.volumes.map (·.size) = [requestedSize (sizedFor required limit)] := by
    intro required limit hsize
    obtain ⟨hiff, hcases⟩ := createVolume_served_iff infra (sizedFor required limit) ⟨0, 0⟩ {}
    have hok := hiff.2
      { name := (by decide : "a" ≠ "")
        capabilities := List.cons_ne_nil _ _
        uses := List.forall_mem_singleton.2 ⟨rfl, rfl⟩
        size := hsize
        bus := nofun
        allowed := rfl
        named := trivial
        source := trivial
        existing := nofun }
    rcases hcases with ⟨status, hserve⟩ | ⟨v, hv, -, -⟩ | ⟨-, hserve⟩
    · rw [hserve] at hok
      cases hok
    · cases hv
    · exact ⟨_, hserve, rfl⟩
  refine ⟨hserved 10 0 (by decide), hserved 0 5 (by decide), ?_⟩
  obtain ⟨hiff, hcases⟩ := createVolume_served_iff infra (sizedFor 0 0) ⟨0, 0⟩ {}
  rcases hcases with hrefused | ⟨v, hv, -, -⟩ | ⟨-, hserve⟩
  · exact hrefused
  · cases hv
  · have hsize := (hiff.1 (by rw [hserve]; rfl)).size
    exact absurd hsize (by decide)

end Controller

end Hotplug
