import Hotplug.Proofs.Controller.Create

/-!
# Asking for a volume again

A request for a volume that was served before is served the same again, whatever has happened since,
as long as the volume was not deleted. There is one gap: the source of the volume is checked before
the volume itself is looked for, so that once the source is gone the volume can not be asked for any
more, although it is there and needs its source no longer.

## Main definitions

* `Settled s r σ p source v` — the request is admitted, and the volume it asks for exists.
* `SourceExists s r σ` — what the volume gets its contents from exists.
* `DeletesSource r q` — a request to delete it.

## Main results

* `settled_of_create` — a request that was served is settled.
* `Settled.serve`, `Settled.after` — it stays so through any call, and any run of calls, in which
  the volume is not deleted.
* `createVolume_again_iff` — **exactly when a request that was served is served again.**
* `createVolume_not_again` — a run after which it is not.
-/

namespace Hotplug.Controller

variable {s : Settings} {r : CreateVolume} {σ σ' : Cluster.State} {p : Plan}
  {source : VolumeSource} {v : RemoteVolume}

/-! ### Requests that were served -/

/-- A request is settled on a cluster: it is admitted, and the volume of its name is the one it asks
for. -/
structure Settled (s : Settings) (r : CreateVolume) (σ : Cluster.State) (p : Plan)
    (source : VolumeSource) (v : RemoteVolume) : Prop where
  admitted : Admitted s r σ p source
  found : σ.volume? s.ns r.name = some v
  reused : Cluster.reuse s.ns (wanted s r p source) v = .ok v

/-- Whether a request is admitted depends on the storage classes of the cluster alone. -/
theorem Admitted.of_storageClasses (hσ : σ'.storageClasses = σ.storageClasses)
    (h : Admitted s r σ p source) : Admitted s r σ' p source where
  planned := h.planned
  allowed := by
    have hallowed := h.allowed
    unfold Cluster.State.isDefaultClass Cluster.State.defaultFlag at hallowed ⊢
    rwa [hσ]
  named := h.named

/-- A request that was served is settled, and was answered with its volume. -/
theorem settled_of_create {a : Volume}
    (h : (runOn Cluster.step (create s r) σ).1 = .ok a) :
    ∃ p source v, Settled s r (runOn Cluster.step (create s r) σ).2 p source v ∧
      σ.hasSource source = true ∧ a = volumeReply r p v := by
  rcases create_cases s r σ with ⟨e, hrun⟩ | ⟨p, source, hadmitted, hsource⟩
  · rw [hrun] at h
    cases h
  rw [runOn_create_of_hasSource hadmitted hsource] at h ⊢
  cases hfound : σ.volume? s.ns (wanted s r p source).name with
  | some existing =>
    -- The volume was there before, and was found to be the one wanted.
    rw [Cluster.runOn_ensureVolume_of_some hfound] at h ⊢
    obtain ⟨v, hreuse, rfl⟩ := map_eq_ok_iff.1 h
    obtain rfl := Cluster.reuse_eq_ok hreuse
    exact ⟨p, source, v, ⟨hadmitted, hfound, hreuse⟩, hsource, rfl⟩
  | none =>
    -- It was made, and what was made is what was wanted.
    rw [Cluster.runOn_ensureVolume_of_none hfound] at h ⊢
    refine ⟨p, source, σ.newVolume s.ns (wanted s r p source), ⟨?_, ?_, ?_⟩, hsource,
      (Except.ok.inj h).symm⟩
    · exact Admitted.of_storageClasses (σ := σ) rfl hadmitted
    · exact Cluster.State.volume?_append hfound rfl rfl
    · exact Cluster.reuse_newVolume σ s.ns _

/-- A request stays settled through any call that does not delete its volume. -/
theorem Settled.serve {c : Call} (hc : c.request ≠ .deleteVolume r.name)
    (h : Settled s r σ p source v) : Settled s r (serve s c σ).2 p source v where
  admitted := h.admitted.of_storageClasses storageClasses_serve
  found := volume?_serve hc h.found
  reused := h.reused

/-- A request stays settled through any run of calls in which its volume is not deleted. -/
theorem Settled.after {calls : List Call} (hcalls : ∀ c ∈ calls, c.request ≠ .deleteVolume r.name)
    (h : Settled s r σ p source v) : Settled s r (after s calls σ) p source v :=
  after_induction (P := fun σ' => Settled s r σ' p source v)
    (fun c hc _ hσ => hσ.serve (hcalls c hc)) h

/-- A settled request is answered with its volume where its source exists, and makes nothing. -/
theorem Settled.create (h : Settled s r σ p source v) (hsource : σ.hasSource source = true) :
    runOn Cluster.step (create s r) σ = (.ok (volumeReply r p v), σ) := by
  rw [runOn_create_of_hasSource h.admitted hsource]
  have hensured : runOn Cluster.step (Cluster.ensureVolume s.ns (wanted s r p source)) σ =
      (.ok v, σ) := by
    rw [Cluster.runOn_ensureVolume_of_some h.found, h.reused]
  rw [hensured]
  rfl

/-! ### Sources -/

/-- What a volume is to get its contents from exists, if it is to get them from anything. -/
def SourceExists (s : Settings) (r : CreateVolume) (σ : Cluster.State) : Prop :=
  match r.source.bind (·.origin) with
  | none => True
  | some (.snapshot id) => (σ.snapshot? s.ns id).isSome = true
  | some (.volume id) => (σ.volume? s.ns id).isSome = true

/-- The requests to delete what a volume is to get its contents from. -/
inductive DeletesSource (r : CreateVolume) : Request → Prop where
  | snapshot {id : String} (hid : r.source.bind (·.origin) = some (.snapshot id)) :
      DeletesSource r (.deleteSnapshot id)
  | volume {id : String} (hid : r.source.bind (·.origin) = some (.volume id)) :
      DeletesSource r (.deleteVolume id)

/-- The source that a request names exists for it as it does for its check. -/
theorem sourceExists_iff (h : sourceOf s r.source = .ok source) :
    SourceExists s r σ ↔ σ.hasSource source = true := by
  obtain ⟨-, rfl⟩ := sourceOf_eq_ok_iff.1 h
  unfold SourceExists requestedSource
  cases r.source.bind (·.origin) with
  | none => exact iff_of_true trivial rfl
  | some origin => cases origin <;> exact Iff.rfl

/-- A source that exists is still there after a run of calls in which it is not deleted. -/
theorem SourceExists.after {calls : List Call} (hcalls : ∀ c ∈ calls, ¬ DeletesSource r c.request)
    (h : SourceExists s r σ) : SourceExists s r (after s calls σ) := by
  unfold SourceExists at h ⊢
  cases horigin : r.source.bind (·.origin) with
  | none => trivial
  | some origin =>
    rw [horigin] at h
    cases origin with
    | snapshot id =>
      obtain ⟨v, hv⟩ := Option.isSome_iff_exists.1 h
      refine Option.isSome_iff_exists.2 ⟨v, snapshot?_after (fun c hc heq => ?_) hv⟩
      exact hcalls c hc (by rw [heq]; exact .snapshot horigin)
    | volume id =>
      obtain ⟨v, hv⟩ := Option.isSome_iff_exists.1 h
      refine Option.isSome_iff_exists.2 ⟨v, volume?_after (fun c hc heq => ?_) hv⟩
      exact hcalls c hc (by rw [heq]; exact .volume horigin)

/-! ### Requests that are served again -/

/-- A request for a volume that leaves the cluster as it was asks for no change. -/
theorem not_mutation_of_same {now : Instant}
    (hsame : (serve s ⟨now, .createVolume r⟩ σ).2 = σ) :
    ∀ m ∈ asks s ⟨now, .createVolume r⟩ σ, m.isMutation = false := by
  rcases serve_cases s ⟨now, .createVolume r⟩ σ with ⟨-, hread⟩ | ⟨m, hm, hstate⟩
  · exact hread
  · -- To make a volume is to count one more.
    cases hm with
    | createVolume r v hv =>
      have hcount := congrArg Cluster.State.created (hsame.symm.trans hstate)
      exact absurd hcount (Nat.ne_of_lt (Nat.lt_succ_self σ.created))

/-- The answer with a volume. -/
def volumeAnswer (r : CreateVolume) (p : Plan) (v : RemoteVolume) : Outcome Response :=
  { response := .volume (volumeReply r p v) }

/-- After a request was served it is settled, and its source exists. -/
theorem settled_of_serve {now : Instant} {out : Outcome Response}
    (hserved : (serve s ⟨now, .createVolume r⟩ σ).1 = .ok out) :
    ∃ p source v, Settled s r (serve s ⟨now, .createVolume r⟩ σ).2 p source v ∧
      SourceExists s r σ ∧ out = volumeAnswer r p v := by
  rw [serve_createVolume] at hserved ⊢
  obtain ⟨a, hrun, rfl⟩ := map_eq_ok_iff.1 hserved
  obtain ⟨p, source, v, hsettled, hsource, rfl⟩ := settled_of_create (mapError_eq_ok_iff.1 hrun)
  have hexists := (sourceExists_iff hsettled.admitted.named).2 hsource
  exact ⟨p, source, v, hsettled, hexists, rfl⟩

/-- A settled request is answered with its volume if its source exists, and as missing its source if
it does not. Either way nothing changes. -/
theorem serve_again_cases (h : Settled s r σ p source v) (now : Instant) :
    (SourceExists s r σ ∧ serve s ⟨now, .createVolume r⟩ σ = (.ok (volumeAnswer r p v), σ)) ∨
      ¬ SourceExists s r σ ∧
        ∃ m, serve s ⟨now, .createVolume r⟩ σ = (.error ⟨.notFound, m⟩, σ) := by
  rw [sourceExists_iff h.admitted.named, serve_createVolume]
  cases hsource : σ.hasSource source with
  | true =>
    rw [h.create hsource]
    exact .inl ⟨rfl, rfl⟩
  | false =>
    obtain ⟨kind, name, hmissing⟩ := runOn_create_of_missing h.admitted hsource
    rw [hmissing]
    exact .inr ⟨Bool.false_ne_true, _, rfl⟩

/-- **Exactly when a request that was served is served again.** After a request for a volume was
served, and any calls among which none deletes that volume, the same request changes nothing. It is
answered as it was, with the same id, size and context, if and only if the source of the volume,
where it has one, exists; otherwise the source is reported as not found. And the source exists if
none of the calls deletes it. -/
theorem createVolume_again_iff {now : Instant} {out : Outcome Response} {calls : List Call}
    (hserved : (serve s ⟨now, .createVolume r⟩ σ).1 = .ok out)
    (hkept : ∀ c ∈ calls, c.request ≠ .deleteVolume r.name) (later : Instant) :
    let again : Call := ⟨later, .createVolume r⟩
    let σ' := after s calls (serve s ⟨now, .createVolume r⟩ σ).2
    (serve s again σ').2 = σ' ∧ (∀ m ∈ asks s again σ', m.isMutation = false) ∧
      ((serve s again σ').1 = .ok out ↔ SourceExists s r σ') ∧
      (¬ SourceExists s r σ' → ∃ m, (serve s again σ').1 = .error ⟨.notFound, m⟩) ∧
      ((∀ c ∈ calls, ¬ DeletesSource r c.request) → SourceExists s r σ') := by
  intro again σ'
  obtain ⟨p, source, v, hsettled, hexists, rfl⟩ := settled_of_serve hserved
  have hkeeps : (∀ c ∈ calls, ¬ DeletesSource r c.request) → SourceExists s r σ' := by
    intro hcalls
    have hlong : ∀ c ∈ (⟨now, .createVolume r⟩ : Call) :: calls, ¬ DeletesSource r c.request := by
      intro c hc
      rcases List.mem_cons.1 hc with rfl | hc
      · nofun
      · exact hcalls c hc
    have hafter := hexists.after hlong
    exact hafter
  -- The request is still settled, so that only its source decides.
  rcases serve_again_cases (hsettled.after hkept) later with ⟨hsource, hsame⟩ | ⟨hno, m, hfailed⟩
  · rw [hsame]
    exact ⟨rfl, not_mutation_of_same (congrArg Prod.snd hsame), iff_of_true rfl hsource,
      fun hno => absurd hsource hno, hkeeps⟩
  · rw [hfailed]
    refine ⟨rfl, not_mutation_of_same (congrArg Prod.snd hfailed), iff_of_false ?_ hno,
      fun _ => ⟨m, rfl⟩, hkeeps⟩
    intro h
    cases h

/-- A controller of the namespace `infra`. -/
def infra : Settings := { ns := "infra" }

/-- A request for a volume with the contents of a snapshot. -/
def fromSnapshot : CreateVolume where
  name := "restored"
  capacity := some { required := 1024 }
  capabilities := [{ access := some .block, mode := some 1 }]
  source := some ⟨some (.snapshot "nightly")⟩

/-- A cluster with one snapshot. -/
def oneSnapshot : Cluster.State where
  snapshots := [{ name := "nightly", ns := "infra", sourceVolume := "a", ready := true }]

/-- The answer to the request on that cluster. -/
def restored : Outcome Response where
  response := .volume
    { capacity := 1024, id := "restored",
      context := Table.ofList [("bus", "scsi"), ("serial", "uid-1")],
      source := some ⟨some (.snapshot "nightly")⟩ }

/-- The request is served again after another volume was made and deleted. -/
theorem createVolume_again_iff_restored :
    (serve infra ⟨⟨0, 0⟩, .createVolume fromSnapshot⟩ oneSnapshot).1 = .ok restored ∧
      (serve infra ⟨⟨9, 0⟩, .createVolume fromSnapshot⟩
        (after infra [⟨⟨1, 0⟩, .deleteVolume "b"⟩]
          (serve infra ⟨⟨0, 0⟩, .createVolume fromSnapshot⟩ oneSnapshot).2)).1 = .ok restored := by
  have hserved : (serve infra ⟨⟨0, 0⟩, .createVolume fromSnapshot⟩ oneSnapshot).1 =
      .ok restored := rfl
  have hkept : ∀ c ∈ [(⟨⟨1, 0⟩, .deleteVolume "b"⟩ : Call)],
      c.request ≠ .deleteVolume fromSnapshot.name := by
    intro c hc
    rw [List.mem_singleton.1 hc]
    decide
  obtain ⟨-, -, hiff, -, hexists⟩ := createVolume_again_iff hserved hkept ⟨9, 0⟩
  refine ⟨hserved, hiff.2 (hexists fun c hc hdeletes => ?_)⟩
  rw [List.mem_singleton.1 hc] at hdeletes
  cases hdeletes with
  | volume hid => exact absurd hid (by decide)

/-- **A request that was served is not always served again.** Once the snapshot is deleted that the
volume was made from, the request for it fails, although the volume is still there. -/
theorem createVolume_not_again :
    (serve infra ⟨⟨0, 0⟩, .createVolume fromSnapshot⟩ oneSnapshot).1 = .ok restored ∧
      (after infra [⟨⟨0, 0⟩, .createVolume fromSnapshot⟩, ⟨⟨1, 0⟩, .deleteSnapshot "nightly"⟩]
        oneSnapshot).volumes.map (·.name) = ["restored"] ∧
      (serve infra ⟨⟨9, 0⟩, .createVolume fromSnapshot⟩
        (after infra [⟨⟨0, 0⟩, .createVolume fromSnapshot⟩, ⟨⟨1, 0⟩, .deleteSnapshot "nightly"⟩]
          oneSnapshot)).1 = .error ⟨.notFound, "VolumeSnapshot nightly not found"⟩ := by
  refine ⟨?_, ?_, ?_⟩
  · rfl
  · rfl
  · rfl

end Hotplug.Controller
