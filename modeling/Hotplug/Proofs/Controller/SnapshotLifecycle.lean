import Hotplug.Proofs.Cluster.Snapshots
import Hotplug.Proofs.Controller.Attachments
import Hotplug.Proofs.Controller.Retry
import Hotplug.Proofs.Controller.SnapshotPolicy

/-!
# The life of a snapshot

A snapshot is looked up before it is taken. While it is there, a request for its name never takes
another: it is answered with the one that is there if that was taken of the same volume, and is
refused otherwise. Neither the volume nor the policy matters any more then, so that this goes on
until the snapshot is deleted.

## Main definitions

* `MayTake s r σ v` — the request lets a snapshot be taken as `v` says.
* `Kept s r σ v` — the snapshot is the only one of its name, and answers every request for it.

## Main results

* `course_takeSnapshot`, `takeSnapshot_cases` — what a request for a snapshot comes to.
* `createSnapshot_mem_asks_iff` — **exactly when a snapshot is taken.**
* `uniqueSnapshots_after` — in every run the names of snapshots stay unique.
* `snapshot_lifecycle` — **a snapshot stays what it is until it is deleted.**
-/

namespace Hotplug.Controller

open Cluster (courseOn leavesReads_step)

variable {s : Settings} {r : CreateSnapshot} {σ : Cluster.State} {v : RemoteSnapshot}
  {new : NewSnapshot}

/-! ### One request -/

/-- A request lets a snapshot be taken: it names the snapshot and its volume, no snapshot has that
name, the volume's claim exists and is bound, the policy allows the storage class behind the claim,
and a snapshot class is found for it. -/
structure MayTake (s : Settings) (r : CreateSnapshot) (σ : Cluster.State) (new : NewSnapshot) :
    Prop where
  named : r.name ≠ ""
  sourced : r.sourceVolumeId ≠ ""
  free : σ.snapshot? s.ns r.name = none
  founded : ∃ storageClass binding, σ.ClassOfClaim s.ns r.sourceVolumeId storageClass ∧
    s.policy.isAllowed storageClass (σ.isDefaultClass storageClass) = true ∧
    runOn Cluster.step (Cluster.chooseSnapshotClass s.policy storageClass (requestedClass r)) σ =
      (.ok binding, σ) ∧
    new = { name := r.name, sourceVolume := r.sourceVolumeId,
            snapshotClass := binding.snapshotClass, labels := s.labels }

/-- The snapshot that is taken has the name and the volume of the request. -/
theorem MayTake.as_named (h : MayTake s r σ new) :
    new.name = r.name ∧ new.sourceVolume = r.sourceVolumeId := by
  obtain ⟨_, _, -, -, -, rfl⟩ := h.founded
  exact ⟨rfl, rfl⟩

/-- A snapshot answers a request: it is found under the name of the request, and was taken of the
same volume. -/
structure Answers (s : Settings) (r : CreateSnapshot) (σ : Cluster.State) (v : RemoteSnapshot) :
    Prop where
  named : r.name ≠ ""
  sourced : r.sourceVolumeId ≠ ""
  found : σ.snapshot? s.ns r.name = some v
  source : v.sourceVolume = r.sourceVolumeId

/-- A snapshot that is there answers the request, and nothing more is asked. -/
theorem takeSnapshot_of_found (hname : r.name ≠ "") (hsource : r.sourceVolumeId ≠ "")
    (hfound : σ.snapshot? s.ns r.name = some v) :
    runOn Cluster.step (takeSnapshot s r) σ = (reuseSnapshot r v, σ) ∧
      askedOn Cluster.step (takeSnapshot s r) σ = [.getSnapshot s.ns r.name] := by
  have hlook : runOn Cluster.step (Cluster.getSnapshot s.ns r.name) σ = (.ok (some v), σ) :=
    Prod.ext (congrArg Except.ok hfound) rfl
  unfold takeSnapshot
  rw [if_neg (by simpa using hname), if_neg (by simpa using hsource)]
  refine ⟨runOn_bind_ok hlook, (askedOn_bind_ok hlook).trans ?_⟩
  rw [askedOn_ofExcept]
  rfl

/-- Without one the request goes on to take it. -/
theorem takeSnapshot_of_missing (hname : r.name ≠ "") (hsource : r.sourceVolumeId ≠ "")
    (hmissing : σ.snapshot? s.ns r.name = none) :
    courseOn Cluster.step (takeSnapshot s r) σ = courseOn Cluster.step (newSnapshot s r) σ := by
  have hlook : runOn Cluster.step (Cluster.getSnapshot s.ns r.name) σ = (.ok none, σ) :=
    Prod.ext (congrArg Except.ok hmissing) rfl
  unfold takeSnapshot
  rw [if_neg (by simpa using hname), if_neg (by simpa using hsource)]
  exact Cluster.courseOn_bind_ok leavesReads_step (.callRead rfl) hlook

/-- A program that only reads leaves the cluster as it was. -/
theorem runOn_of_readsOnly {α : Type} {p : Attempt Cluster.interface α}
    (hp : Cluster.ReadsOnly p.run) (σ : Cluster.State) : (runOn Cluster.step p σ).2 = σ := by
  rcases hp.outcome leavesReads_step σ with ⟨hstate, -⟩ | ⟨_, -, -, hno, -⟩
  · exact hstate
  · exact hno.elim

/-- **A request that lets a snapshot be taken takes it**, as its one change. -/
theorem course_takeSnapshot (h : MayTake s r σ new) :
    courseOn Cluster.step (takeSnapshot s r) σ =
      ((.ok (σ.newSnapshot s.ns new),
        { σ with snapshots := σ.snapshots ++ [σ.newSnapshot s.ns new] }),
        [.createSnapshot s.ns new]) := by
  obtain ⟨storageClass, binding, hclass, hallowed, hchosen, rfl⟩ := h.founded
  rw [takeSnapshot_of_missing h.named h.sourced h.free]
  have hfound : runOn Cluster.step (Cluster.storageClassForClaim s.ns r.sourceVolumeId) σ =
      (.ok storageClass, σ) := by
    rcases Cluster.storageClassForClaim_cases σ s.ns r.sourceVolumeId with
      ⟨storageClass', hclass', hrun⟩ | ⟨hnone, -⟩
    · rw [hrun, hclass'.unique hclass]
    · exact absurd hclass (hnone storageClass)
  have henforced := Cluster.runOn_enforceStorageClass_of_allowed hallowed
  unfold newSnapshot
  rw [Cluster.courseOn_bind_ok leavesReads_step (Cluster.readsOnly_storageClassForClaim _ _) hfound,
    Cluster.courseOn_bind_ok leavesReads_step (Cluster.readsOnly_enforceStorageClass _ _) henforced]
  exact Cluster.courseOn_bind_ok leavesReads_step (Cluster.readsOnly_chooseSnapshotClass _ _ _)
    hchosen

/-- A request that has gone on to take a snapshot finds a class for it, or it fails and changes
nothing. -/
theorem newSnapshot_cases (s : Settings) (r : CreateSnapshot) (σ : Cluster.State) :
    (∃ storageClass binding, σ.ClassOfClaim s.ns r.sourceVolumeId storageClass ∧
        s.policy.isAllowed storageClass (σ.isDefaultClass storageClass) = true ∧
        runOn Cluster.step
          (Cluster.chooseSnapshotClass s.policy storageClass (requestedClass r)) σ =
          (.ok binding, σ)) ∨
      ∃ e, courseOn Cluster.step (newSnapshot s r) σ = ((.error e, σ), []) := by
  -- The stations in their order: each either fails on the spot or lets the request through.
  unfold newSnapshot
  have hlooks := Cluster.readsOnly_storageClassForClaim s.ns r.sourceVolumeId
  rcases Cluster.storageClassForClaim_cases σ s.ns r.sourceVolumeId with
    ⟨storageClass, hclass, hfound⟩ | ⟨-, e, hfailed⟩
  · have hchecks := Cluster.readsOnly_enforceStorageClass s.policy storageClass
    have hchooses := Cluster.readsOnly_chooseSnapshotClass s.policy storageClass (requestedClass r)
    rw [Cluster.courseOn_bind_ok leavesReads_step hlooks hfound]
    cases hallowed : s.policy.isAllowed storageClass (σ.isDefaultClass storageClass) with
    | false =>
      obtain ⟨m, hm⟩ := Policy.checkStorageClass_of_denied hallowed
      have hdenied := (Cluster.runOn_enforceStorageClass σ s.policy storageClass).1
      rw [hm] at hdenied
      exact .inr ⟨_, Cluster.courseOn_bind_error leavesReads_step hchecks hdenied⟩
    | true =>
      have henforced := Cluster.runOn_enforceStorageClass_of_allowed hallowed
      rw [Cluster.courseOn_bind_ok leavesReads_step hchecks henforced]
      have hstate := runOn_of_readsOnly hchooses σ
      rcases hchoose : runOn Cluster.step
          (Cluster.chooseSnapshotClass s.policy storageClass (requestedClass r)) σ with ⟨x, σ'⟩
      rw [hchoose] at hstate
      obtain rfl : σ' = σ := hstate
      cases x with
      | error e =>
        exact .inr ⟨_, Cluster.courseOn_bind_error leavesReads_step hchooses hchoose⟩
      | ok binding => exact .inl ⟨storageClass, binding, hclass, hallowed, hchoose⟩
  · exact .inr ⟨_, Cluster.courseOn_bind_error leavesReads_step hlooks hfailed⟩

/-- **A request for a snapshot lets it be taken, or it changes nothing**, and then, if it succeeds,
it is answered by a snapshot that is there. -/
theorem takeSnapshot_cases (s : Settings) (r : CreateSnapshot) (σ : Cluster.State) :
    (∃ new, MayTake s r σ new) ∨
      ∃ x, courseOn Cluster.step (takeSnapshot s r) σ = ((x, σ), []) ∧
        ∀ v, x = .ok v → Answers s r σ v := by
  by_cases hname : r.name = ""
  · refine .inr ⟨.error (.invalidArgument "snapshot name is required"), ?_, nofun⟩
    unfold takeSnapshot
    rw [if_pos (by simpa using hname)]
    rfl
  by_cases hsource : r.sourceVolumeId = ""
  · refine .inr ⟨.error (.invalidArgument "source volume id is required"), ?_, nofun⟩
    unfold takeSnapshot
    rw [if_neg (by simpa using hname), if_pos (by simpa using hsource)]
    rfl
  cases hfree : σ.snapshot? s.ns r.name with
  | some existing =>
    obtain ⟨hrun, hasked⟩ := takeSnapshot_of_found hname hsource hfree
    refine .inr ⟨reuseSnapshot r existing, ?_, ?_⟩
    · unfold courseOn
      rw [hrun, hasked]
      rfl
    · intro v hv
      unfold reuseSnapshot at hv
      split at hv
      · next hsame =>
        obtain rfl := Except.ok.inj hv
        exact ⟨hname, hsource, hfree, hsame⟩
      · cases hv
  | none =>
    rw [takeSnapshot_of_missing hname hsource hfree]
    rcases newSnapshot_cases s r σ with ⟨storageClass, binding, hfounded⟩ | ⟨e, hfailed⟩
    · obtain ⟨hclass, hallowed, hchosen⟩ := hfounded
      exact .inl ⟨_, hname, hsource, hfree, storageClass, binding, hclass, hallowed, hchosen, rfl⟩
    · exact .inr ⟨_, hfailed, nofun⟩

/-! ### One call -/

/-- The answer with a snapshot. -/
def snapshotAnswer (now : Instant) (v : RemoteSnapshot) : Outcome Response :=
  { response := .snapshot (snapshotReply now v) }

/-- A snapshot is answered: there is no event, and what is said shows it. -/
def Shown (now : Instant) (v : RemoteSnapshot) (out : Outcome Response) : Prop :=
  ∃ entry, out = { response := .snapshot entry } ∧ Shows now v entry

theorem shown_snapshotAnswer (now : Instant) (v : RemoteSnapshot) :
    Shown now v (snapshotAnswer now v) :=
  ⟨_, rfl, shows_snapshotReply now v⟩

/-- How a call for a snapshot is answered: with the snapshot, or with the status of the failure. -/
theorem serve_createSnapshot (s : Settings) (r : CreateSnapshot) (now : Instant)
    (σ : Cluster.State) :
    serve s ⟨now, .createSnapshot r⟩ σ =
      (((runOn Cluster.step (takeSnapshot s r) σ).1.mapError DriverError.status).map
          (snapshotAnswer now),
        (runOn Cluster.step (takeSnapshot s r) σ).2) :=
  (serve_of_body rfl σ).1

theorem asks_createSnapshot (s : Settings) (r : CreateSnapshot) (now : Instant)
    (σ : Cluster.State) :
    asks s ⟨now, .createSnapshot r⟩ σ = askedOn Cluster.step (takeSnapshot s r) σ :=
  (serve_of_body (g := snapshotAnswer now) rfl σ).2

/-- **Exactly when a snapshot is taken**: for a request that lets it be. -/
theorem createSnapshot_mem_asks_iff {c : Call} {ns : String} :
    .createSnapshot ns new ∈ asks s c σ ↔
      ns = s.ns ∧ ∃ r, c.request = .createSnapshot r ∧ MayTake s r σ new := by
  obtain ⟨now, request⟩ := c
  have hchanges : ∀ r, .createSnapshot ns new ∈ asks s ⟨now, .createSnapshot r⟩ σ ↔
      .createSnapshot ns new ∈ (courseOn Cluster.step (takeSnapshot s r) σ).2 := by
    intro r
    rw [asks_createSnapshot]
    exact (List.mem_filter.trans (and_iff_left rfl)).symm
  constructor
  · intro hasked
    obtain ⟨r, rfl⟩ : ∃ r, request = .createSnapshot r := by
      cases effect_of_asks hasked rfl with
      | createSnapshot r => exact ⟨r, rfl⟩
    rw [hchanges] at hasked
    rcases takeSnapshot_cases s r σ with ⟨new', htake⟩ | ⟨x, hcourse, -⟩
    · rw [course_takeSnapshot htake] at hasked
      obtain ⟨rfl, rfl⟩ := Cluster.Request.createSnapshot.inj (List.mem_singleton.1 hasked)
      exact ⟨rfl, r, rfl, htake⟩
    · rw [hcourse] at hasked
      exact absurd hasked List.not_mem_nil
  · rintro ⟨rfl, r, rfl, htake⟩
    rw [hchanges, course_takeSnapshot htake]
    exact List.mem_singleton.2 rfl

/-- A call keeps the names of snapshots unique. -/
theorem uniqueSnapshots_serve {c : Call} (hunique : σ.UniqueSnapshots s.ns) :
    (serve s c σ).2.UniqueSnapshots s.ns := by
  rcases changes_cases s c σ with ⟨hsame, -⟩ | ⟨m, -, hstate, hchanges⟩
  · rwa [hsame]
  · rw [hstate]
    refine hunique.step fun new hnew => ?_
    have hasked : .createSnapshot s.ns new ∈ asks s c σ := by
      rw [← hnew]
      have hmem : m ∈ (asks s c σ).filter (·.isMutation) := by
        rw [hchanges]
        exact List.mem_singleton.2 rfl
      exact (List.mem_filter.1 hmem).1
    obtain ⟨-, r, -, htake⟩ := createSnapshot_mem_asks_iff.1 hasked
    rw [htake.as_named.1]
    exact htake.free

/-- **In every run the names of snapshots stay unique.** -/
theorem uniqueSnapshots_after {calls : List Call} (hunique : σ.UniqueSnapshots s.ns) :
    (after s calls σ).UniqueSnapshots s.ns :=
  after_induction (P := fun σ' => σ'.UniqueSnapshots s.ns)
    (fun _ _ _ h => uniqueSnapshots_serve h) hunique

/-- A call that is answered with a snapshot leaves it there, and it answers the same request. -/
theorem answers_of_serve {now : Instant} {out : Outcome Response}
    (hserved : (serve s ⟨now, .createSnapshot r⟩ σ).1 = .ok out) :
    ∃ v, out = snapshotAnswer now v ∧ Answers s r (serve s ⟨now, .createSnapshot r⟩ σ).2 v := by
  rw [serve_createSnapshot] at hserved ⊢
  rcases takeSnapshot_cases s r σ with ⟨new, htake⟩ | ⟨x, hcourse, hanswers⟩
  · have hrun : runOn Cluster.step (takeSnapshot s r) σ = _ :=
      congrArg Prod.fst (course_takeSnapshot htake)
    obtain ⟨hname, hsource⟩ := htake.as_named
    rw [hrun] at hserved ⊢
    refine ⟨σ.newSnapshot s.ns new, (Except.ok.inj hserved).symm, htake.named, htake.sourced, ?_,
      hsource⟩
    rw [Cluster.State.snapshot?_eq_head?,
      Cluster.State.snapshotsNamed_append htake.free rfl hname]
    rfl
  · have hrun : runOn Cluster.step (takeSnapshot s r) σ = _ := congrArg Prod.fst hcourse
    rw [hrun] at hserved ⊢
    cases x with
    | error e => cases hserved
    | ok v => exact ⟨v, (Except.ok.inj hserved).symm, hanswers v rfl⟩

/-- To delete a snapshot always succeeds, and takes away what has its name. -/
theorem serve_deleteSnapshot {id : String} (hid : id ≠ "") (now : Instant) (σ : Cluster.State) :
    serve s ⟨now, .deleteSnapshot id⟩ σ = (.ok { response := .deleted },
      { σ with snapshots := σ.snapshots.filter fun v => !(v.ns == s.ns && v.name == id) }) := by
  unfold serve
  rw [respond, if_neg (by simpa using hid)]
  rfl

/-! ### The life of a snapshot -/

/-- A snapshot goes on answering a request through any run of calls in which it is not deleted. -/
theorem Answers.after {calls : List Call}
    (hcalls : ∀ c ∈ calls, c.request ≠ .deleteSnapshot r.name) (h : Answers s r σ v) :
    Answers s r (after s calls σ) v where
  named := h.named
  sourced := h.sourced
  found := snapshot?_after hcalls h.found
  source := h.source

/-- A snapshot is the only one of its name. It answers every request for its name and its volume,
for which nothing more is asked of the cluster than to look it up, and every request for its name
and another volume is refused. Neither changes anything. -/
structure Kept (s : Settings) (σ : Cluster.State) (r : CreateSnapshot) (v : RemoteSnapshot) :
    Prop where
  one : σ.snapshotsNamed s.ns r.name = [v]
  source : v.sourceVolume = r.sourceVolumeId
  again : ∀ r' now, r'.name = r.name → r'.sourceVolumeId = r.sourceVolumeId →
    (∃ out, serve s ⟨now, .createSnapshot r'⟩ σ = (.ok out, σ) ∧ Shown now v out) ∧
      asks s ⟨now, .createSnapshot r'⟩ σ = [.getSnapshot s.ns r.name]
  other : ∀ r' now, r'.name = r.name → r'.sourceVolumeId ≠ r.sourceVolumeId →
    r'.sourceVolumeId ≠ "" → serve s ⟨now, .createSnapshot r'⟩ σ =
      (.error (DriverError.alreadyExists "VolumeSnapshot" r.name
        ("it was taken from volume " ++ r.sourceVolumeId)).status, σ)

/-- Where names are unique, a snapshot that answers a request is kept. -/
theorem Answers.kept (hunique : σ.UniqueSnapshots s.ns) (h : Answers s r σ v) : Kept s σ r v where
  one := hunique.eq_singleton h.found
  source := h.source
  again := by
    intro r' now hname hsource
    have hfound := h.found
    have hnamed := h.named
    have hsourced := h.sourced
    have hsame := h.source
    rw [← hname] at hfound hnamed
    rw [← hsource] at hsourced hsame
    obtain ⟨hrun, hasked⟩ := takeSnapshot_of_found hnamed hsourced hfound
    rw [serve_createSnapshot, asks_createSnapshot, hrun, hasked, hname]
    unfold reuseSnapshot
    rw [if_pos hsame]
    exact ⟨⟨_, rfl, shown_snapshotAnswer now v⟩, rfl⟩
  other := by
    intro r' now hname hsource hsourced
    have hfound := h.found
    have hnamed := h.named
    rw [← hname] at hfound hnamed
    have hdiffer : v.sourceVolume ≠ r'.sourceVolumeId := by
      rw [h.source]
      exact hsource.symm
    obtain ⟨hrun, -⟩ := takeSnapshot_of_found hnamed hsourced hfound
    rw [serve_createSnapshot, hrun]
    unfold reuseSnapshot
    rw [if_neg hdiffer, hname, h.source]
    rfl

/-- A request without a volume is refused before the name is looked up: nothing is asked. -/
theorem serve_createSnapshot_of_unsourced (hname : r.name ≠ "") (hsource : r.sourceVolumeId = "")
    (now : Instant) (σ : Cluster.State) :
    serve s ⟨now, .createSnapshot r⟩ σ =
        (.error ⟨.invalidArgument, "invalid argument: source volume id is required"⟩, σ) ∧
      asks s ⟨now, .createSnapshot r⟩ σ = [] := by
  rw [serve_createSnapshot, asks_createSnapshot]
  unfold takeSnapshot
  rw [if_neg (by simpa using hname), if_pos (by simpa using hsource)]
  exact ⟨rfl, rfl⟩

/-- **A snapshot stays what it is until it is deleted.** At any time of any run, a request for a
snapshot that is answered leaves exactly one snapshot of its name. Until that is deleted, whatever
else happens, every request for the same name and volume is answered with it, and none for another
volume is. A request without a volume is refused whatever there is of its name. A snapshot is taken
exactly for a request with a new name and a volume whose claim exists and is bound, if the storage
class of what it is bound to, or else of the claim, is allowed and has a snapshot class. To delete a
snapshot always succeeds, and takes away nothing else. -/
theorem snapshot_lifecycle {σ₀ : Cluster.State} (hunique : σ₀.UniqueSnapshots s.ns)
    (calls : List Call) :
    let σ := after s calls σ₀
    (∀ r now out, (serve s ⟨now, .createSnapshot r⟩ σ).1 = .ok out →
      ∃ v, Shown now v out ∧
        ∀ later : List Call, (∀ c ∈ later, c.request ≠ .deleteSnapshot r.name) →
          Kept s (after s later (serve s ⟨now, .createSnapshot r⟩ σ).2) r v) ∧
    (∀ r now, r.name ≠ "" → r.sourceVolumeId = "" →
      serve s ⟨now, .createSnapshot r⟩ σ =
          (.error ⟨.invalidArgument, "invalid argument: source volume id is required"⟩, σ) ∧
        asks s ⟨now, .createSnapshot r⟩ σ = []) ∧
    (∀ c ns new, .createSnapshot ns new ∈ asks s c σ ↔
      ns = s.ns ∧ ∃ r, c.request = .createSnapshot r ∧ MayTake s r σ new) ∧
    ∀ id now, id ≠ "" → serve s ⟨now, .deleteSnapshot id⟩ σ = (.ok { response := .deleted },
      { σ with snapshots := σ.snapshots.filter fun v => !(v.ns == s.ns && v.name == id) }) := by
  intro σ
  have huniqueσ : σ.UniqueSnapshots s.ns := uniqueSnapshots_after hunique
  refine ⟨?_, fun _ now hname hsource => serve_createSnapshot_of_unsourced hname hsource now σ,
    fun _ _ _ => createSnapshot_mem_asks_iff, fun _ now hid => serve_deleteSnapshot hid now σ⟩
  intro r now out hserved
  obtain ⟨v, rfl, hanswers⟩ := answers_of_serve hserved
  refine ⟨v, shown_snapshotAnswer now v, fun later hlater => ?_⟩
  have huniqueLater : (after s later (serve s ⟨now, .createSnapshot r⟩ σ).2).UniqueSnapshots
      s.ns := uniqueSnapshots_after (uniqueSnapshots_serve huniqueσ)
  exact (hanswers.after hlater).kept huniqueLater

/-- The snapshot `s` of the volume `a`, as it is taken on a cluster with that volume. -/
def dailyOfA : RemoteSnapshot :=
  { name := "s", ns := "infra", sourceVolume := "a", snapshotClass := some "daily", ready := true,
    size := some 1 }

/-- How it is answered at a moment. -/
def dailyAnswer (now : Instant) : Outcome Response where
  response := .snapshot
    { size := 1, id := "s", sourceVolumeId := "a", created := now, ready := true }

/-- The snapshot is taken, and it is still answered when its volume is gone. -/
theorem snapshot_lifecycle_volumeDeleted :
    goldCluster.UniqueSnapshots "infra" ∧
      (serve infra ⟨⟨0, 0⟩, .createSnapshot snapshotOrder⟩ goldCluster).1 =
        .ok (dailyAnswer ⟨0, 0⟩) ∧
      (serve infra ⟨⟨9, 0⟩, .createSnapshot snapshotOrder⟩ (after infra
        [⟨⟨1, 0⟩, .deleteVolume "a"⟩]
        (serve infra ⟨⟨0, 0⟩, .createSnapshot snapshotOrder⟩ goldCluster).2)).1 =
        .ok (dailyAnswer ⟨9, 0⟩) := by
  have hunique : goldCluster.UniqueSnapshots "infra" := fun _ => Nat.zero_le 1
  have hserved : (serve infra ⟨⟨0, 0⟩, .createSnapshot snapshotOrder⟩ goldCluster).1 =
      .ok (dailyAnswer ⟨0, 0⟩) := rfl
  have hkeeps : ∀ c ∈ [(⟨⟨1, 0⟩, .deleteVolume "a"⟩ : Call)],
      c.request ≠ .deleteSnapshot snapshotOrder.name := by
    intro c hc
    rw [List.mem_singleton.1 hc]
    exact Request.noConfusion
  obtain ⟨hlife, -, -, -⟩ := snapshot_lifecycle (s := infra) hunique []
  obtain ⟨v, -, hkept⟩ := hlife snapshotOrder ⟨0, 0⟩ _ hserved
  have hlater := hkept _ hkeeps
  obtain rfl : dailyOfA = v := (List.cons.inj hlater.one).1
  obtain ⟨out, hagain, entry, rfl, hshows⟩ := (hlater.again snapshotOrder ⟨9, 0⟩ rfl rfl).1
  have hentry : { response := .snapshot entry } = dailyAnswer ⟨9, 0⟩ := by
    obtain ⟨size, id, volume, created, ready⟩ := entry
    obtain ⟨rfl, rfl, rfl, rfl, rfl⟩ := hshows
    rfl
  exact ⟨hunique, hserved, (congrArg Prod.fst hagain).trans (congrArg Except.ok hentry)⟩

/-- Not every request for another volume is refused because the name is taken: without any volume it
is refused before that. -/
theorem snapshot_without_source_refused :
    (serve infra ⟨⟨0, 0⟩, .createSnapshot snapshotOrder⟩ goldCluster).1 =
        .ok (dailyAnswer ⟨0, 0⟩) ∧
      (serve infra ⟨⟨1, 0⟩, .createSnapshot { snapshotOrder with sourceVolumeId := "" }⟩
        (serve infra ⟨⟨0, 0⟩, .createSnapshot snapshotOrder⟩ goldCluster).2).1 =
        .error ⟨.invalidArgument, "invalid argument: source volume id is required"⟩ := by
  refine ⟨?_, ?_⟩
  · rfl
  · rfl

end Hotplug.Controller
