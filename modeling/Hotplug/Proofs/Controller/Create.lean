import Hotplug.Proofs.Controller.Run
import Hotplug.Proofs.Success

/-!
# What a request to make a volume comes to

On the cluster in memory a request to make a volume passes three stations, its arguments, the policy
and the source, and is then answered by the volume of its name, which is made where there is none.

## Main definitions

* `requestedSize r`, `storageClassOf r`, `requestedBus r`, `requestedSource s r` — the size that a
  request asks for, the storage class, empty for the default, the bus, and the source.
* `Checked r` — the arguments of a request pass their checks.
* `Admitted s r σ p source` — a request passes its arguments and the policy.

## Main results

* `plan_eq_ok_iff`, `sourceOf_eq_ok_iff` — what the checks of the arguments are.
* `get?_contextOf_serial`, `busOf_contextOf` — what the context of a volume brings back.
* `runOn_create_of_denied` — a request that the policy denies changes nothing and asks next to
  nothing.
* `runOn_create`, `create_cases` — what becomes of the others, and which they are.
* `mem_volumes_serve` — where the volumes of a cluster come from.
-/

namespace Hotplug

/-- The text that a bus is read from is its name. -/
theorem Bus.parse_eq_ok_iff {text : String} {bus : Bus} :
    Bus.parse text = .ok bus ↔ text = bus.name := by
  constructor
  · intro h
    unfold Bus.parse at h
    split at h
    · next heq =>
      cases h
      exact heq
    · split at h
      · next heq =>
        cases h
        exact heq
      · split at h
        · next heq =>
          cases h
          exact heq
        · cases h
  · rintro rfl
    exact Bus.parse_name bus

namespace Controller

variable {s : Settings} {r : CreateVolume} {σ : Cluster.State} {p : Plan} {source : VolumeSource}

/-! ### The arguments -/

/-- The size that a request asks for: what its range of sizes requires, if that is positive, and
else the limit. Without a range it asks for none. -/
def requestedSize (r : CreateVolume) : Int :=
  match r.capacity with
  | some range => if 0 < range.required then range.required else range.limit
  | none => 0

theorem wantedSize_eq (r : CreateVolume) : wantedSize r.capacity = requestedSize r := by
  unfold wantedSize requestedSize
  cases r.capacity <;> rfl

/-- The storage class that a request asks for, empty for the default. -/
def storageClassOf (r : CreateVolume) : String :=
  (r.parameters.get? storageClassParameter).getD ""

/-- The name of the bus that a request asks for, which is the default where it asks for none. -/
def requestedBus (r : CreateVolume) : String :=
  (nonEmpty? (r.parameters.get? busParameter)).getD Bus.scsi.name

/-- A request has the bus of the name that it asks for. -/
theorem busOf_eq_ok_iff {bus : Bus} :
    busOf busParameter r.parameters = .ok bus ↔ requestedBus r = bus.name := by
  unfold busOf requestedBus
  cases nonEmpty? (r.parameters.get? busParameter) with
  | some text => exact Bus.parse_eq_ok_iff
  | none => cases bus <;> decide

/-- The arguments of a request pass their checks: it names the volume, asks for uses that can be
served, for a positive size, and for a bus that there is. -/
structure Checked (r : CreateVolume) : Prop where
  name : r.name ≠ ""
  capabilities : Capability.unsupported? r.capabilities = none
  size : 0 < requestedSize r
  bus : (busOf busParameter r.parameters).isOk = true

/-- A request has a plan exactly if its arguments pass their checks, and the plan is what they
say. -/
theorem plan_eq_ok_iff :
    plan r = .ok p ↔ Checked r ∧ p.size = requestedSize r ∧
      busOf busParameter r.parameters = .ok p.bus ∧ p.storageClass = storageClassOf r := by
  unfold plan
  rw [guard_eq_ok_iff, wantedSize_eq]
  cases hcap : Capability.unsupported? r.capabilities with
  | some reason =>
    refine iff_of_false (fun h => ?_) fun h => ?_
    · cases h.2
    · exact absurd (hcap.symm.trans h.1.capabilities) (Option.some_ne_none reason)
  | none =>
    simp only [guard_eq_ok_iff, bind_eq_ok_iff]
    constructor
    · rintro ⟨hname, hsize, bus, hbus, hp⟩
      obtain rfl := Except.ok.inj hp
      exact ⟨⟨by simpa using hname, hcap, Int.not_le.1 hsize, by rw [hbus]; rfl⟩, rfl, hbus, rfl⟩
    · rintro ⟨hchecked, hsize, hbus, hclass⟩
      refine ⟨by simpa using hchecked.name, Int.not_le.2 hchecked.size, p.bus, hbus, ?_⟩
      rw [← hsize, ← storageClassOf, ← hclass]
      rfl

theorem checked_of_plan (h : plan r = .ok p) : Checked r :=
  (plan_eq_ok_iff.1 h).1

theorem exists_plan (h : Checked r) : ∃ p, plan r = .ok p ∧ p.storageClass = storageClassOf r := by
  obtain ⟨bus, hbus⟩ := isOk_iff_exists.1 h.bus
  exact ⟨⟨requestedSize r, bus, storageClassOf r⟩, plan_eq_ok_iff.2 ⟨h, rfl, hbus, rfl⟩, rfl⟩

/-! ### The source -/

/-- The source that a request asks for: none where it gives none, or one of no known kind. -/
def requestedSource (s : Settings) (r : CreateVolume) : VolumeSource :=
  match r.source.bind (·.origin) with
  | none => .blank
  | some (.snapshot id) => .snapshot s.ns id
  | some (.volume id) => .claim s.ns id

/-- A source of a known kind has a name. -/
def SourceNamed (r : CreateVolume) : Prop :=
  match r.source.bind (·.origin) with
  | none => True
  | some (.snapshot id) => id ≠ ""
  | some (.volume id) => id ≠ ""

/-- A request has a source if that is named, and it is the one that it asks for. -/
theorem sourceOf_eq_ok_iff :
    sourceOf s r.source = .ok source ↔ SourceNamed r ∧ source = requestedSource s r := by
  have hnamed : ∀ {id : String} {kind : String → VolumeSource} {e : DriverError},
      (if id.isEmpty then .error e else .ok (kind id)) = Except.ok source ↔
        id ≠ "" ∧ source = kind id := by
    intro id kind e
    by_cases hid : id = ""
    · simp [hid]
    · rw [if_neg (by simpa using hid), Except.ok.injEq, and_iff_right hid]
      exact eq_comm
  unfold sourceOf SourceNamed requestedSource
  cases r.source.bind (·.origin) with
  | none => simp [eq_comm]
  | some origin =>
    cases origin with
    | snapshot id => exact hnamed
    | volume id => exact hnamed

/-! ### The context of a volume -/

theorem get?_contextOf_serial (bus : Bus) (v : RemoteVolume) :
    (contextOf bus v).get? serialKey = some v.uid := by
  change (Table.insert (Table.insert Table.empty busKey bus.name) serialKey v.uid).get? _ = _
  rw [Table.get?_insert, if_pos rfl]

theorem get?_contextOf_bus (bus : Bus) (v : RemoteVolume) :
    (contextOf bus v).get? busKey = some bus.name := by
  change (Table.insert (Table.insert Table.empty busKey bus.name) serialKey v.uid).get? _ = _
  rw [Table.get?_insert, if_neg (by decide), Table.get?_insert, if_pos rfl]

/-- A context brings its bus. -/
theorem busOf_contextOf (bus : Bus) (v : RemoteVolume) :
    busOf busKey (contextOf bus v) = .ok bus := by
  have hname : nonEmpty? (some bus.name) = some bus.name := by cases bus <;> rfl
  unfold busOf
  rw [get?_contextOf_bus, hname]
  exact Bus.parse_name bus

/-! ### The body of the request -/

/-- A request passes its arguments and the policy: it has a plan, the storage class of the plan is
allowed, and a source, if one is given, is named. -/
structure Admitted (s : Settings) (r : CreateVolume) (σ : Cluster.State) (p : Plan)
    (source : VolumeSource) : Prop where
  planned : plan r = .ok p
  allowed : s.policy.isAllowed p.storageClass (σ.isDefaultClass p.storageClass) = true
  named : sourceOf s r.source = .ok source

/-- A volume as the answer to the request for it. -/
def volumeReply (r : CreateVolume) (p : Plan) (v : RemoteVolume) : Volume :=
  { capacity := p.size, id := v.name, context := contextOf p.bus v, source := r.source }

/-- A source that exists passes its check. -/
theorem runOn_checkSource_of_hasSource (h : σ.hasSource source = true) :
    runOn Cluster.step (checkSource source) σ = (.ok (), σ) := by
  cases source with
  | blank => rfl
  | snapshot ns name =>
    obtain ⟨v, hv⟩ := Option.isSome_iff_exists.1 h
    refine (runOn_bind_ok rfl).trans ?_
    rw [hv]
    rfl
  | claim ns name =>
    obtain ⟨v, hv⟩ := Option.isSome_iff_exists.1 h
    refine (runOn_bind_ok rfl).trans ?_
    rw [hv]
    rfl

/-- A source that does not exist is reported as missing. -/
theorem runOn_checkSource_of_missing (h : σ.hasSource source = false) :
    ∃ kind name, runOn Cluster.step (checkSource source) σ = (.error (.notFound kind name), σ) := by
  cases source with
  | blank => cases h
  | snapshot ns name =>
    have hnone : σ.snapshot? ns name = none := by simpa [Cluster.State.hasSource] using h
    refine ⟨"VolumeSnapshot", name, (runOn_bind_ok rfl).trans ?_⟩
    rw [hnone]
    rfl
  | claim ns name =>
    have hnone : σ.volume? ns name = none := by simpa [Cluster.State.hasSource] using h
    refine ⟨"DataVolume", name, (runOn_bind_ok rfl).trans ?_⟩
    rw [hnone]
    rfl

/-- A request that the policy denies fails before it changes anything, and has looked up its storage
class at most. -/
theorem runOn_create_of_denied (hplan : plan r = .ok p)
    (hdenied : s.policy.isAllowed p.storageClass (σ.isDefaultClass p.storageClass) = false) :
    (∃ m, runOn Cluster.step (create s r) σ = (.error (.permissionDenied m), σ)) ∧
      (askedOn Cluster.step (create s r) σ = [] ∨
        askedOn Cluster.step (create s r) σ = [.getStorageClass p.storageClass]) := by
  obtain ⟨m, hm⟩ := Policy.checkStorageClass_of_denied hdenied
  obtain ⟨henforce, hasked⟩ := Cluster.runOn_enforceStorageClass σ s.policy p.storageClass
  rw [hm] at henforce
  have hplanned := runOn_ofExcept_of_eq Cluster.step σ hplan
  constructor
  · exact ⟨m, (runOn_bind_ok hplanned).trans (runOn_bind_error henforce)⟩
  · -- The plan asks nothing, and nothing is asked after the refusal.
    have hall : askedOn Cluster.step (create s r) σ =
        askedOn Cluster.step (Cluster.enforceStorageClass s.policy p.storageClass) σ := by
      refine (askedOn_bind_ok hplanned).trans ?_
      rw [askedOn_ofExcept, List.nil_append]
      exact askedOn_bind_error henforce
    rw [hall]
    exact hasked

/-- What is left of a request that is admitted: to check its source and to make sure of its
volume. -/
theorem runOn_create (h : Admitted s r σ p source) :
    runOn Cluster.step (create s r) σ =
      runOn Cluster.step (do
        checkSource source
        let v ← Cluster.ensureVolume s.ns (wanted s r p source)
        return volumeReply r p v) σ := by
  have hplanned := runOn_ofExcept_of_eq Cluster.step σ h.planned
  have henforced := Cluster.runOn_enforceStorageClass_of_allowed h.allowed
  have hnamed := runOn_ofExcept_of_eq Cluster.step σ h.named
  exact (runOn_bind_ok hplanned).trans ((runOn_bind_ok henforced).trans (runOn_bind_ok hnamed))

/-- A request that is admitted and whose source exists is answered by the volume of its name. -/
theorem runOn_create_of_hasSource (h : Admitted s r σ p source)
    (hsource : σ.hasSource source = true) :
    runOn Cluster.step (create s r) σ =
      ((runOn Cluster.step (Cluster.ensureVolume s.ns (wanted s r p source)) σ).1.map
          (volumeReply r p),
        (runOn Cluster.step (Cluster.ensureVolume s.ns (wanted s r p source)) σ).2) := by
  rw [runOn_create h, runOn_bind_ok (runOn_checkSource_of_hasSource hsource)]
  exact runOn_andReturn _ _ _ _

/-- A request that is admitted and whose source does not exist changes nothing. -/
theorem runOn_create_of_missing (h : Admitted s r σ p source)
    (hmissing : σ.hasSource source = false) :
    ∃ kind name, runOn Cluster.step (create s r) σ = (.error (.notFound kind name), σ) := by
  obtain ⟨kind, name, hrun⟩ := runOn_checkSource_of_missing hmissing
  rw [runOn_create h]
  exact ⟨kind, name, runOn_bind_error hrun⟩

/-- **A request fails and leaves the cluster as it was, or it is admitted and its source
exists.** -/
theorem create_cases (s : Settings) (r : CreateVolume) (σ : Cluster.State) :
    (∃ e, runOn Cluster.step (create s r) σ = (.error e, σ)) ∨
      ∃ p source, Admitted s r σ p source ∧ σ.hasSource source = true := by
  -- The stations in their order: each either fails on the spot or lets the request through.
  cases hplan : plan r with
  | error e => exact .inl ⟨e, runOn_bind_error (runOn_ofExcept_of_eq Cluster.step σ hplan)⟩
  | ok p =>
    cases hallowed : s.policy.isAllowed p.storageClass (σ.isDefaultClass p.storageClass) with
    | false =>
      obtain ⟨m, hm⟩ := (runOn_create_of_denied hplan hallowed).1
      exact .inl ⟨_, hm⟩
    | true =>
      cases hnamed : sourceOf s r.source with
      | error e =>
        have hplanned := runOn_ofExcept_of_eq Cluster.step σ hplan
        have henforced := Cluster.runOn_enforceStorageClass_of_allowed hallowed
        have hnameless := runOn_ofExcept_of_eq Cluster.step σ hnamed
        exact .inl ⟨e, (runOn_bind_ok hplanned).trans
          ((runOn_bind_ok henforced).trans (runOn_bind_error hnameless))⟩
      | ok source =>
        have hadmitted : Admitted s r σ p source := ⟨hplan, hallowed, hnamed⟩
        cases hsource : σ.hasSource source with
        | true => exact .inr ⟨p, source, hadmitted, hsource⟩
        | false =>
          obtain ⟨kind, name, hrun⟩ := runOn_create_of_missing hadmitted hsource
          exact .inl ⟨_, hrun⟩

/-! ### The call -/

/-- How the call is answered: with the volume, or with the status of the failure. -/
theorem serve_createVolume (s : Settings) (r : CreateVolume) (now : Instant) (σ : Cluster.State) :
    serve s ⟨now, .createVolume r⟩ σ =
      (((runOn Cluster.step (create s r) σ).1.mapError DriverError.status).map
          fun v => { response := .volume v },
        (runOn Cluster.step (create s r) σ).2) :=
  (serve_of_body rfl σ).1

theorem asks_createVolume (s : Settings) (r : CreateVolume) (now : Instant) (σ : Cluster.State) :
    asks s ⟨now, .createVolume r⟩ σ = askedOn Cluster.step (create s r) σ :=
  (serve_of_body (g := fun v => { response := .volume v }) rfl σ).2

/-- A volume that a call makes is the one that an admitted request asks for. -/
theorem mem_volumes_create {v : RemoteVolume}
    (hv : v ∈ (runOn Cluster.step (create s r) σ).2.volumes) :
    v ∈ σ.volumes ∨
      ∃ p source, Admitted s r σ p source ∧ v = σ.newVolume s.ns (wanted s r p source) := by
  rcases create_cases s r σ with ⟨e, hrun⟩ | ⟨p, source, hadmitted, hsource⟩
  · rw [hrun] at hv
    exact .inl hv
  · rw [runOn_create_of_hasSource hadmitted hsource] at hv
    cases hfound : σ.volume? s.ns (wanted s r p source).name with
    | some existing =>
      rw [Cluster.runOn_ensureVolume_of_some hfound] at hv
      exact .inl hv
    | none =>
      rw [Cluster.runOn_ensureVolume_of_none hfound] at hv
      rcases List.mem_append.1 hv with hold | hnew
      · exact .inl hold
      · exact .inr ⟨p, source, hadmitted, List.mem_singleton.1 hnew⟩

/-- **Where the volumes of a cluster come from**: a call finds them there, or it is an admitted
request for one, which makes it. -/
theorem mem_volumes_serve {c : Call} {v : RemoteVolume} (hv : v ∈ (serve s c σ).2.volumes) :
    v ∈ σ.volumes ∨
      ∃ r p source, c.request = .createVolume r ∧ Admitted s r σ p source ∧
        v = σ.newVolume s.ns (wanted s r p source) := by
  by_cases hc : ∃ r, c.request = .createVolume r
  · obtain ⟨now, request⟩ := c
    obtain ⟨r, rfl⟩ := hc
    rw [serve_createVolume] at hv
    rcases mem_volumes_create hv with hold | ⟨p, source, hadmitted, hnew⟩
    · exact .inl hold
    · exact .inr ⟨r, p, source, rfl, hadmitted, hnew⟩
  · -- No other request asks for a volume to be made.
    refine .inl (serve_of_effect (P := fun σ' => v ∈ σ'.volumes → v ∈ σ.volumes) ?_ id hv)
    intro m hm
    refine Cluster.mem_volumes_step fun ns new heq => hc ?_
    rw [heq] at hm
    generalize c.request = request at hm
    cases hm with
    | createVolume r _ _ => exact ⟨r, rfl⟩

end Controller

end Hotplug
